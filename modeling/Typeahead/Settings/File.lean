import Typeahead.Settings
import Typeahead.Toml.Document
import Typeahead.Toml.Writer

/-! # Settings files

The settings as a file. What a file does not say keeps its default, what it says besides is ignored,
and a value of the wrong kind or out of its range is refused. `Settings.read?` reads a file and
`Settings.render` writes one. -/

namespace Typeahead

namespace Settings

/-! ### Names of the fields -/

/-- The name of `Settings.autoCorrection` in files. -/
def autoCorrectionKey : Text := "auto_correction_enabled".toList

/-- The name of `Settings.threshold` in files. -/
def thresholdKey : Text := "auto_correction_threshold".toList

/-- The name of `Settings.scoreLimitOverride` in files. -/
def scoreLimitKey : Text := "score_limit_override".toList

/-- The name of `Settings.correctsToShortcuts` in files. -/
def shortcutsKey : Text := "autocorrect_shortcuts".toList

/-- The name of `Settings.usesPersonalized` in files. -/
def personalizedKey : Text := "use_personalized_dicts".toList

/-- The name of `Settings.usesContacts` in files. -/
def contactsKey : Text := "use_contacts_dict".toList

/-- The name of `Settings.blocksOffensive` in files. -/
def offensiveKey : Text := "block_potentially_offensive".toList

/-- The name of `Settings.secondaryLocales` in files. -/
def secondaryKey : Text := "secondary_locales".toList

/-- The name of `Settings.promotesWords` in files. -/
def promotionKey : Text := "add_to_personal_dictionary".toList

/-- The name of `Settings.centersTyped` in files. -/
def centerKey : Text := "center_suggestion_text_to_enter".toList

/-- The name of `Settings.bonus` in files. -/
def bonusKey : Text := "typed_word_bonus".toList

/-- The name of `Settings.threads` in files. -/
def threadsKey : Text := "background_threads".toList

/-- The name of `Settings.spellingCacheSize` in files. -/
def cacheKey : Text := "spelling_cache_size".toList

/-- The name of `Settings.dataDir` in files. -/
def dataDirKey : Text := "data_dir".toList

/-- The names of the numbers of a bonus, in their order. -/
def bonusKeys : List Text :=
  ["whitelist".toList, "lowercase_ascii".toList, "higher_score".toList, "required_margin".toList,
    "next_word_margin".toList]

/-! ### Reading -/

/-- A truth value. -/
def bool? : Toml → Option Bool
  | .bool b => some b
  | _ => none

/-- A number, which may be written as an integer. -/
def number? : Toml → Option Single
  | .float x => some x
  | .integer n => some (.ofInt n)
  | _ => none

/-- An integer of 32 bits. -/
def score? : Toml → Option Int
  | .integer n => if -2147483648 ≤ n ∧ n ≤ 2147483647 then some n else none
  | _ => none

/-- A number of things. -/
def count? : Toml → Option Nat
  | .integer n => if 0 ≤ n then some n.toNat else none
  | _ => none

/-- A text. -/
def string? : Toml → Option Text
  | .string t => some t
  | _ => none

/-- Several texts. -/
def strings? : Toml → Option (List Text)
  | .array items => items.mapM string?
  | _ => none

/-- The value of a field, or `default` where the field is missing; `none` if its value is
refused. -/
def fieldOr {α : Type} (fields : Toml.Fields) (key : Text) (read : Toml → Option α) (default : α) :
    Option α :=
  match Toml.field? fields key with
  | some v => read v
  | none => some default

/-- The fields of a bonus that is written as a table, or as its numbers in order. A date has no
fields. -/
def bonusFields? : Toml → Option Toml.Fields
  | .table _ fields => some fields
  | .array items => some (bonusKeys.zip items)
  | .dateTime => some []
  | _ => none

/-- A bonus. -/
def bonus? (v : Toml) : Option Bonus := do
  let fields ← bonusFields? v
  let number (i : Nat) (default : Int) : Option Int :=
    fieldOr fields (bonusKeys.getD i []) score? default
  let d : Bonus := {}
  some
    { whitelist := ← number 0 d.whitelist
      lowercaseAscii := ← number 1 d.lowercaseAscii
      higherScore := ← number 2 d.higherScore
      requiredMargin := ← number 3 d.requiredMargin
      nextWordMargin := ← number 4 d.nextWordMargin }

/-- The settings of the fields of a file. -/
def ofFields? (fields : Toml.Fields) : Option Settings := do
  let d : Settings := {}
  some
    { autoCorrection := ← fieldOr fields autoCorrectionKey bool? d.autoCorrection
      threshold := ← fieldOr fields thresholdKey number? d.threshold
      scoreLimitOverride :=
        ← fieldOr fields scoreLimitKey (fun v => (score? v).map some) d.scoreLimitOverride
      correctsToShortcuts := ← fieldOr fields shortcutsKey bool? d.correctsToShortcuts
      usesPersonalized := ← fieldOr fields personalizedKey bool? d.usesPersonalized
      usesContacts := ← fieldOr fields contactsKey bool? d.usesContacts
      blocksOffensive := ← fieldOr fields offensiveKey bool? d.blocksOffensive
      secondaryLocales := ← fieldOr fields secondaryKey strings? d.secondaryLocales
      promotesWords := ← fieldOr fields promotionKey bool? d.promotesWords
      centersTyped := ← fieldOr fields centerKey bool? d.centersTyped
      bonus := ← fieldOr fields bonusKey bonus? d.bonus
      threads := ← fieldOr fields threadsKey count? d.threads
      spellingCacheSize := ← fieldOr fields cacheKey count? d.spellingCacheSize
      dataDir := ← fieldOr fields dataDirKey (fun v => (string? v).map some) d.dataDir }

/-- Reads a settings file. -/
def read? (t : Text) : Option Settings := (Toml.read? t).bind ofFields?

/-! ### Writing -/

/-- The numbers of a bonus, in the order of `bonusKeys`. -/
def bonusNumbers (b : Bonus) : List Int :=
  [b.whitelist, b.lowercaseAscii, b.higherScore, b.requiredMargin, b.nextWordMargin]

/-- A line that assigns a truth value. -/
def boolLine (key : Text) (b : Bool) : Text := Toml.assignmentLine key (Toml.showBool b)

/-- A line that assigns an integer. -/
def integerLine (key : Text) (n : Int) : Text := Toml.assignmentLine key (Text.ofInt n)

/-- The lines of the bonus: the header of its table and its numbers. -/
def bonusLines (b : Bonus) : Text :=
  '[' :: bonusKey ++ [']', '\n'] ++ ((bonusKeys.zip (bonusNumbers b)).flatMap fun (k, n) =>
    integerLine k n)

/-- Writes a settings file: the plain values, and behind them the table of the bonus. -/
def render (s : Settings) : Text :=
  boolLine autoCorrectionKey s.autoCorrection
    ++ Toml.assignmentLine thresholdKey s.threshold.text
    ++ (s.scoreLimitOverride.map (integerLine scoreLimitKey)).getD []
    ++ boolLine shortcutsKey s.correctsToShortcuts
    ++ boolLine personalizedKey s.usesPersonalized
    ++ boolLine contactsKey s.usesContacts
    ++ boolLine offensiveKey s.blocksOffensive
    ++ Toml.assignmentLine secondaryKey (Toml.showStrings s.secondaryLocales)
    ++ boolLine promotionKey s.promotesWords
    ++ boolLine centerKey s.centersTyped
    ++ integerLine threadsKey s.threads
    ++ integerLine cacheKey s.spellingCacheSize
    ++ (s.dataDir.map fun t => Toml.assignmentLine dataDirKey (Toml.showString t)).getD []
    ++ '\n' :: bonusLines s.bonus

end Settings

end Typeahead
