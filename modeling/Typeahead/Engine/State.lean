import Typeahead.Provider
import Typeahead.Ranking
import Typeahead.Settings
import Typeahead.TaskQueue

/-! # The engine

The engine owns the groups of the active locales, the primary one first, and everything that is
remembered between requests: two caches, the pending respelling of a sentence's first word, and the
work that waits in the background. A waiting task names the store, the blacklist or the group that
it is about by its number. What only waiting tasks still need, after its group is gone, is kept
aside and closed once nothing waits for it. `Engine.loading` is kept by counting: a load is counted
in when it is queued, and counted off when its turn is over, even if it was passed over. -/

namespace Typeahead

/-- Work in the background. -/
inductive Task where
  /-- Count a use of a word in a store. -/
  | learn (store : Nat) (context : Context) (word : Text) (valid : Bool) (time : Nat)
  /-- Add a word to the user's own words. -/
  | promote (store : Nat) (word : Text)
  /-- Remove a word from a store. -/
  | unlearn (store : Nat) (word : Text)
  /-- Write a blacklist to its file. -/
  | writeList (list : Nat)
  /-- Load the main dictionary of a group. -/
  | loadMain (group : Nat) (locale : Locale)
  deriving DecidableEq, Repr

namespace Task

/-- The store that a task is about. -/
def store? : Task → Option Nat
  | learn n .. | promote n _ | unlearn n _ => some n
  | _ => none

/-- The blacklist that a task is about. -/
def list? : Task → Option Nat
  | writeList n => some n
  | _ => none

/-- The task is a load. -/
def isLoad : Task → Bool
  | loadMain .. => true
  | _ => false

end Task

/-! ### The cache of spellings -/

/-- Answers about the spelling of words, the latest first, up to a capacity. -/
structure SpellingCache where
  capacity : Nat
  entries : List (Text × Bool) := []
  deriving DecidableEq, Repr

namespace SpellingCache

/-- The answer held for a word. Reading does not make it any later. -/
def get? (c : SpellingCache) (w : Text) : Option Bool := (c.entries.find? (·.1 == w)).map (·.2)

/-- Forgets a word. -/
def drop (c : SpellingCache) (w : Text) : SpellingCache :=
  { c with entries := c.entries.filter (·.1 != w) }

/-- Holds an answer as the latest one; the earliest is forgotten when there are too many. -/
def put (c : SpellingCache) (w : Text) (valid : Bool) : SpellingCache :=
  { c with entries := ((w, valid) :: (c.drop w).entries).take c.capacity }

/-- Forgets everything. -/
def clear (c : SpellingCache) : SpellingCache := { c with entries := [] }

end SpellingCache

/-! ### The state -/

/-- The first word of a sentence as it was written, and as it is learned. -/
structure Respelling where
  written : Text
  learned : Text
  deriving DecidableEq, Repr

/-- The engine with all that it remembers. -/
structure Engine where
  provider : Provider
  settings : Settings
  disk : Disk
  groups : List Group
  keptStores : List Store := []
  keptLists : List Blacklist := []
  queue : TaskQueue Task := {}
  respelling : Option Respelling := none
  spelling : SpellingCache
  predictions : List (Context × Ranking) := []
  nextNumber : Nat := 2
  loading : Nat := 0
  loads : Nat := 0
  opens : Nat := 0

namespace Engine

/-- An engine without an active locale. -/
def start (provider : Provider) (settings : Settings) (disk : Disk) : Engine where
  provider := provider
  settings := settings
  disk := disk
  groups := [.placeholder 0 1]
  spelling := ⟨max settings.spellingCacheSize 1, []⟩

/-- The group of a number. -/
def group? (e : Engine) (n : Nat) : Option Group := e.groups.find? (·.number == n)

/-- The engine with `g` in place of the group of its number. -/
def putGroup (e : Engine) (g : Group) : Engine :=
  { e with groups := e.groups.map fun h => if h.number = g.number then g else h }

/-- All open stores. -/
def stores (e : Engine) : List Store := e.groups.flatMap (·.subs) ++ e.keptStores

/-- The open store of a number. -/
def store? (e : Engine) (n : Nat) : Option Store := e.stores.find? (·.number == n)

/-- The engine with `s` in place of the store of its number. -/
def putStore (e : Engine) (s : Store) : Engine :=
  { e with
    groups := e.groups.map (·.putStore s)
    keptStores := e.keptStores.map fun t => if t.number = s.number then s else t }

/-- The blacklist of a number. -/
def list? (e : Engine) (n : Nat) : Option Blacklist :=
  (e.groups.map (·.blacklist) ++ e.keptLists).find? (·.number == n)

/-- The engine with another task waiting. -/
def queueTask (e : Engine) (t : Task) : Engine := { e with queue := e.queue.push t }

/-- The engine without cached predictions. -/
def clearPredictions (e : Engine) : Engine := { e with predictions := [] }

/-- A waiting task is about the store. -/
def needsStore (e : Engine) (n : Nat) : Bool := e.queue.waiting.any (·.task.store? == some n)

/-- A waiting task is about the blacklist. -/
def needsList (e : Engine) (n : Nat) : Bool := e.queue.waiting.any (·.task.list? == some n)

/-- Closes what is kept aside and no longer waited for. -/
def settle (e : Engine) : Engine :=
  let closed := e.keptStores.filter fun s => !e.needsStore s.number
  { e with
    disk := closed.foldl Disk.closeStore e.disk
    keptStores := e.keptStores.filter fun s => e.needsStore s.number
    keptLists := e.keptLists.filter fun b => e.needsList b.number }

/-- The engine with a load waiting for the main dictionary of a group. -/
def queueLoad (e : Engine) (g : Group) : Engine :=
  { e with
    queue := e.queue.pushCancellable (.loadMain g.number g.locale)
    loading := e.loading + 1 }

/-- Whoever waits for main dictionaries to be loaded goes on at once. -/
def hasLoaded (e : Engine) : Bool := e.loading == 0

/-! ### Groups in view -/

/-- The locale of the first group. -/
def primaryLocale (e : Engine) : Locale := (e.groups.head?.map (·.locale)).getD .root

/-- Some locale is active. -/
def isActive (e : Engine) : Bool := !e.primaryLocale.isRoot

/-- The group that is preferred at present. -/
def preferred (e : Engine) : Group := (preferredGroup e.groups).getD default

/-- Some main dictionary is ready. -/
def hasReadyMain (e : Engine) : Bool := e.groups.any (·.isReady)

/-- Some main dictionary is missing or not ready. -/
def lacksReadyMain (e : Engine) : Bool := e.groups.any (!·.isReady)

/-- The locales with their confidences, where there is more than one. -/
def confidencesText (e : Engine) : Option Text :=
  if e.groups.length < 2 then none
  else some <| Text.join [',', ' '] <| e.groups.map fun g =>
    g.locale.tag ++ ' ' :: Text.ofNat g.confidence

end Engine

end Typeahead
