import Typeahead.Context
import Typeahead.Error
import Typeahead.Scoring
import Typeahead.WordMap

/-! # Lexicons

A lexicon is a main dictionary that is not changed once it is built. It has an index, which leads
from lower-case keys to buckets of entries, and a payload: the entries, the words that may follow
others, and replacements that are forced. Index and payload are kept apart, as they are written to
two files. -/

namespace Typeahead

/-- A word that may follow another, with the frequency of that. -/
structure NextWord where
  word : Text
  frequency : Nat
  deriving DecidableEq, Repr, Inhabited

/-- A word of a lexicon. -/
structure Entry where
  word : Text
  frequency : Nat
  offensive : Bool
  nextWords : List NextWord
  deriving DecidableEq, Repr, Inhabited

/-- All of a lexicon but its index. -/
structure Payload where
  locale : Locale
  entries : List Entry
  buckets : List (List Nat)
  starts : List NextWord
  contextOnly : List (Text × List NextWord)
  replacements : List (Text × Text)
  deriving DecidableEq, Repr, Inhabited

/-- The index: keys in order, each with the number of its bucket. -/
abbrev Index := List (Text × Nat)

/-- A main dictionary. -/
structure Lexicon where
  index : Index
  payload : Payload
  deriving DecidableEq, Repr, Inhabited

/-- What is looked up: what was typed, in which context, whether offensive words are blocked, and
the weight of the locale. -/
structure Query where
  typed : Text
  context : Context
  block : Bool
  weight : Rat

namespace Lexicon

/-- A lexicon of an index and a payload that fit together. -/
def ofParts (index : Index) (payload : Payload) : Except Failure Lexicon :=
  if index.length = payload.buckets.length then .ok ⟨index, payload⟩
  else .error (.invalidData ("index has ".toList ++ Text.ofNat index.length
    ++ " keys but payload has ".toList ++ Text.ofNat payload.buckets.length ++ " buckets".toList))

/-- The entry of a word. -/
def entry? (l : Lexicon) (w : Text) : Option Entry := l.payload.entries.find? (·.word == w)

/-- The word is in the lexicon. -/
def contains (l : Lexicon) (w : Text) : Bool := (l.entry? w).isSome

/-- The entries of a bucket. -/
def bucket (l : Lexicon) (n : Nat) : List Entry :=
  (l.payload.buckets.getD n []).filterMap (l.payload.entries[·]?)

/-- The frequency of a word, -1 if it is unknown. -/
def frequency (l : Lexicon) (w : Text) : Int :=
  ((l.entry? w).map fun e => (e.frequency : Int)).getD (-1)

/-- The greatest frequency among the words that equal `w` but for case, -1 if there is none. -/
def maxFrequency (l : Lexicon) (w : Text) : Int :=
  match l.index.find? (·.1 == Text.lower w) with
  | some (_, n) => (l.bucket n).foldl (fun m e => max m e.frequency) (-1)
  | none => -1

/-- The lexicon marks the word as offensive. -/
def isOffensive (l : Lexicon) (w : Text) : Bool := (l.entry? w).any (·.offensive)

/-- The source of the lexicon's candidates. -/
def source (l : Lexicon) : Source := ⟨.main, some l.payload.locale⟩

/-- The words that may follow `w`. A word of the lexicon has a list of its own, be it empty. -/
def nextWordsAfter (l : Lexicon) (w : Text) : Option (List NextWord) :=
  match l.entry? w with
  | some e => some e.nextWords
  | none => (l.payload.contextOnly.find? (·.1 == w)).map (·.2)

/-- The words that may come next in a context. -/
def nextWordsIn (l : Lexicon) (c : Context) : List NextWord :=
  if c.isStart then l.payload.starts
  else match c.word? 1 with
    | some w => ((l.nextWordsAfter w) <|> (l.nextWordsAfter (Text.lower w))).getD []
    | none => []

/-- The candidates when nothing was typed. -/
def predictions (l : Lexicon) (q : Query) : List Candidate :=
  ((l.nextWordsIn q.context).filter fun n => !(q.block && l.isOffensive n.word)).map fun n =>
    ⟨n.word, q.context.flatten, Scoring.weighted n.frequency q.weight, ⟨Kind.prediction⟩, l.source⟩

/-- The candidate that an entry makes for what was typed, if it makes one. -/
def candidate? (l : Lexicon) (q : Query) (e : Entry) : Option Candidate :=
  if e.offensive && q.block then none
  else (Scoring.score? q.typed e.word e.frequency).map fun m =>
    ⟨e.word, q.context.flatten, Scoring.weighted m.score q.weight,
      if e.offensive then m.kind.set Kind.offensiveFlag else m.kind, l.source⟩

/-- The candidate of a forced replacement. -/
def replacement? (l : Lexicon) (q : Query) : Option Candidate :=
  (l.payload.replacements.find? (·.1 == Text.lower q.typed)).map fun r =>
    ⟨r.2, q.context.flatten, Candidate.maxScore, ⟨Kind.whitelist ||| Kind.appropriateFlag⟩,
      l.source⟩

end Lexicon

end Typeahead
