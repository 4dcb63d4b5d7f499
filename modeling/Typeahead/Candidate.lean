import Typeahead.Locale

/-! # Candidates

A candidate is a word that a dictionary offers, with its score, its kind and its source.
`Candidate.rank` orders candidates: the better one comes first. -/

namespace Typeahead

/-- Where words come from. -/
inductive Origin where
  | main
  | contacts
  | history
  | user
  | typed
  deriving DecidableEq, Repr, Inhabited

namespace Origin

/-- The rank among equally scored candidates; the lower one wins. -/
def priority : Origin → Nat
  | main => 0
  | contacts => 1
  | history => 2
  | user => 3
  | typed => 4

/-- The name of an origin. -/
def name : Origin → Text
  | main => ['m', 'a', 'i', 'n']
  | contacts => ['c', 'o', 'n', 't', 'a', 'c', 't', 's']
  | history => ['h', 'i', 's', 't', 'o', 'r', 'y']
  | user => ['u', 's', 'e', 'r']
  | typed => ['u', 's', 'e', 'r', '_', 't', 'y', 'p', 'e', 'd']

/-- The order in which the dictionaries of a group are asked. -/
def lookupOrder : List Origin := [main, contacts, history, user]

/-- The origins whose words can be learned and forgotten. -/
def learned : List Origin := [contacts, history, user]

end Origin

/-- The dictionary that a candidate came from. -/
structure Source where
  origin : Origin
  locale : Option Locale
  deriving DecidableEq, Repr, Inhabited

namespace Source

/-- The source of a word that no dictionary knows. -/
def userTyped : Source := ⟨.typed, none⟩

/-- A source as text: its origin and, behind a colon, its locale. -/
def text (s : Source) : Text :=
  match s.locale with
  | some l => s.origin.name ++ ':' :: l.tag
  | none => s.origin.name

end Source

/-- The kind of a candidate in the low eight bits, and flags in the high ones. -/
structure Kind where
  bits : UInt32
  deriving DecidableEq, Repr, Inhabited

namespace Kind

/-- The kind without the flags. -/
def base (k : Kind) : UInt32 := k.bits &&& 0xFF

/-- A flag is set. -/
def has (k : Kind) (flag : UInt32) : Bool := k.bits &&& flag != 0

/-- The kind with a flag set. -/
def set (k : Kind) (flag : UInt32) : Kind := ⟨k.bits ||| flag⟩

/-! ### Kinds -/

/-- The typed word itself. -/
def typed : UInt32 := 0

/-- A word that differs by a slip or two. -/
def correction : UInt32 := 1

/-- A longer word that begins as was typed. -/
def completion : UInt32 := 2

/-- A replacement that is forced. -/
def whitelist : UInt32 := 3

/-- What an abbreviation stands for. -/
def shortcut : UInt32 := 7

/-- A word that the context lets expect. -/
def prediction : UInt32 := 8

/-! ### Flags -/

/-- The word may offend. -/
def offensiveFlag : UInt32 := 0x80000000

/-- The word is the typed one. -/
def exactFlag : UInt32 := 0x40000000

/-- The word is the typed one but for accents. -/
def accentsFlag : UInt32 := 0x20000000

/-- The word may replace the typed one. -/
def appropriateFlag : UInt32 := 0x10000000

end Kind

/-- A word that a dictionary offers. -/
structure Candidate where
  word : Text
  context : Text
  score : Int
  kind : Kind
  source : Source
  deriving DecidableEq, Repr, Inhabited

namespace Candidate

/-- The score above all others. -/
def maxScore : Int := 2147483647

/-- The candidate that stands for the typed word, above all others. -/
def ofTyped (w : Text) (s : Source) : Candidate := ⟨w, [], maxScore, ⟨Kind.typed⟩, s⟩

/-- The candidate is of the kind `k`. -/
def isKind (c : Candidate) (k : UInt32) : Bool := c.kind.base == k

/-- The candidate may offend. -/
def isOffensive (c : Candidate) : Bool := c.kind.has Kind.offensiveFlag

/-- The candidate is the typed word itself. -/
def isExact (c : Candidate) : Bool := c.kind.has Kind.exactFlag

/-- The candidate is the typed word up to accents. -/
def isExactUpToAccents (c : Candidate) : Bool := c.kind.has Kind.accentsFlag

/-- The candidate may replace what was typed. -/
def isAppropriate (c : Candidate) : Bool := c.kind.has Kind.appropriateFlag

/-- The order of candidates: the higher score first, then the origin of the higher priority, then
the shorter word, then the word that comes first. -/
def rank (a b : Candidate) : Ordering :=
  (compare b.score a.score).then <|
  (compare a.source.origin.priority b.source.origin.priority).then <|
  (compare a.word.length b.word.length).then <|
  compare a.word b.word

end Candidate

/-! ### Lists of candidates -/

/-- Takes the candidates of the word `w` out of a list, from the place `i` on. The place at which the
first one is taken out is kept in `first`. -/
def takeOut (w : Text) (first : Option Nat) (i : Nat) (cs : List Candidate) :
    Option Nat × List Candidate :=
  if h : i < cs.length then
    if cs[i].word = w then takeOut w (first.or (some i)) i (cs.eraseIdx i)
    else takeOut w first (i + 1) cs
  else (first, cs)
termination_by cs.length - i
decreasing_by
  · have := List.length_eraseIdx_of_lt h
    omega
  · omega

theorem length_takeOut_le (w : Text) (first : Option Nat) (i : Nat) (cs : List Candidate) :
    (takeOut w first i cs).2.length ≤ cs.length := by
  fun_induction takeOut w first i cs with
  | case1 first i cs h hw ih => exact Nat.le_trans ih (List.length_eraseIdx_le ..)
  | case2 first i cs h hw ih => exact ih
  | case3 first i cs h => exact Nat.le_refl _

/-- Takes out of a list what repeats one of the words from the place `i` on. -/
def takeOutRepeated (i : Nat) (cs : List Candidate) : List Candidate :=
  if h : i < cs.length then takeOutRepeated (i + 1) (takeOut cs[i].word none (i + 1) cs).2 else cs
termination_by cs.length - i
decreasing_by
  have := length_takeOut_le cs[i].word none (i + 1) cs
  omega

/-- Where the typed word stands in a list, and the list without it and without repeated words. An
empty typed word stands nowhere. -/
def removeTypedAndRepeated (typed : Option Text) (cs : List Candidate) :
    Option Nat × List Candidate :=
  if cs.isEmpty then (none, cs)
  else
    let (first, cs) := match typed with
      | some w => if w.isEmpty then (none, cs) else takeOut w none 0 cs
      | none => (none, cs)
    (first, takeOutRepeated 0 cs)

end Typeahead
