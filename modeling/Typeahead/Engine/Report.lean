import Typeahead.Engine.State
import Typeahead.Json

/-! # Reports

What the engine says about its groups, for diagnostics: the state of each group and the sizes of its
stores. -/

namespace Typeahead

/-- The sizes of a store. -/
structure StoreReport where
  origin : Origin
  locale : Locale
  words : Nat
  pairs : Nat
  path : Option Text
  deriving DecidableEq, Repr

/-- The state of a group. -/
structure GroupReport where
  locale : Locale
  account : Option Text
  confidence : Nat
  hasMain : Bool
  removed : List Text
  stores : List StoreReport
  deriving DecidableEq, Repr

namespace Store

/-- The sizes of the store. -/
def report (s : Store) : StoreReport :=
  ⟨s.origin, s.locale, s.tables.words.length, s.tables.pairCount, s.path⟩

end Store

namespace Group

/-- The sizes of the group's stores. -/
def storeReports (g : Group) : List StoreReport := g.reported.map (·.report)

/-- The state of the group. -/
def report (g : Group) : GroupReport :=
  ⟨g.locale, g.account, g.confidence, g.main.isSome, g.blacklist.words, g.storeReports⟩

end Group

namespace Origin

/-- The name of an origin in reports. -/
def title : Origin → Text
  | main => "Main".toList
  | contacts => "Contacts".toList
  | history => "UserHistory".toList
  | user => "User".toList
  | typed => "UserTyped".toList

end Origin

namespace StoreReport

/-- The report for other programs. -/
def json (r : StoreReport) : Json :=
  .object
    [("dict_type".toList, .string r.origin.title),
      ("locale".toList, .string r.locale.tag),
      ("word_count".toList, .integer r.words),
      ("ngram_count".toList, .integer r.pairs),
      ("path".toList, .ofOption r.path)]

end StoreReport

namespace GroupReport

/-- The report for other programs. -/
def json (r : GroupReport) : Json :=
  .object
    [("locale".toList, .string r.locale.tag),
      ("account".toList, .ofOption r.account),
      ("confidence".toList, .integer r.confidence),
      ("has_main_dictionary".toList, .bool r.hasMain),
      ("blacklisted".toList, .array (r.removed.map .string)),
      ("dictionaries".toList, .array (r.stores.map (·.json)))]

end GroupReport

namespace Engine

/-- The sizes of all stores that are reported, group by group. -/
def storeReports (e : Engine) : List StoreReport := e.groups.flatMap (·.storeReports)

/-- The state of all groups. -/
def report (e : Engine) : List GroupReport := e.groups.map (·.report)

/-- The state of all groups for other programs. -/
def dump (e : Engine) : Json := .array (e.report.map (·.json))

end Engine

end Typeahead
