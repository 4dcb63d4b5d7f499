import Typeahead.Lexicon.Walk
import Typeahead.Store

/-! # Dictionaries

What is asked of a dictionary, whatever is behind it: a lexicon, a lexicon whose queries are brought
to a normal form first, several dictionaries taken as one, or a store. -/

namespace Typeahead

/-- The answer to a query. A dictionary may also stay silent, or break off. -/
inductive Answer where
  | found (cs : List Candidate)
  | silent
  | failed
  deriving DecidableEq, Repr

/-- A dictionary, as far as it can be asked. -/
structure Dictionary where
  source : Source
  suggestions : Query → Answer
  contains : Text → Bool
  isValid : Text → Bool
  frequency : Text → Int
  maxFrequency : Text → Int
  initialized : Bool := true

namespace Lexicon

/-- A lexicon as a dictionary. -/
def dictionary (l : Lexicon) : Dictionary where
  source := l.source
  suggestions q := .found (l.suggestions q)
  contains := l.contains
  isValid := l.contains
  frequency := l.frequency
  maxFrequency := l.maxFrequency

end Lexicon

namespace Store

/-- A store as a dictionary. -/
def dictionary (s : Store) : Dictionary where
  source := s.source
  suggestions q := .found (s.suggestions q)
  contains := s.contains
  isValid := s.isValid
  frequency := s.frequency
  maxFrequency := s.frequency

end Store

namespace Dictionary

/-- The dictionary asked about the normal form of every word. A query for a text in normal form is
passed on as it came; the words of the context are left as they are in either case. -/
def normalized (form : NormalForm) (d : Dictionary) : Dictionary where
  source := d.source
  suggestions q :=
    let folded := form.apply q.typed
    if folded = q.typed then d.suggestions q else d.suggestions { q with typed := folded }
  contains w := d.contains (form.apply w)
  isValid w := d.isValid (form.apply w)
  frequency w := d.frequency (form.apply w)
  maxFrequency w := d.maxFrequency (form.apply w)
  initialized := d.initialized

/-- The answers of two dictionaries taken together. A silent one adds nothing, and one that breaks
off breaks off both. -/
def joinAnswers : Answer → Answer → Answer
  | .failed, _ | _, .failed => .failed
  | .silent, a => a
  | a, .silent => a
  | .found cs, .found ds => .found (cs ++ ds)

/-- The greatest of the numbers that the members give, -1 without members. -/
def greatest (f : Dictionary → Int) : List Dictionary → Int
  | [] => -1
  | d :: rest => rest.foldl (fun m d => max m (f d)) (f d)

/-- Several dictionaries as one. -/
def collection (source : Source) (members : List Dictionary) : Dictionary where
  source := source
  suggestions q := members.foldl (fun a d => joinAnswers a (d.suggestions q)) .silent
  contains w := members.any (·.contains w)
  isValid w := members.any (·.isValid w)
  frequency w := greatest (·.frequency w) members
  maxFrequency w := greatest (·.maxFrequency w) members
  initialized := members.all (·.initialized)

end Dictionary

end Typeahead
