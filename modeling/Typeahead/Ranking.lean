import Typeahead.Candidate

/-! # Rankings

A ranking is a list of candidates with different words, the best first, that never holds more than
its capacity. A word enters once: later candidates of the same word are ignored. -/

namespace Typeahead

/-- A bounded list of candidates by rank. Next to it stands, where asked for, all that was
offered. -/
structure Ranking where
  capacity : Nat
  items : List Candidate := []
  atStart : Bool := false
  offered : Option (List Candidate) := none
  deriving DecidableEq, Repr, Inhabited

namespace Ranking

/-- The capacity of merged suggestions. -/
def defaultCapacity : Nat := 18

/-- Puts a candidate behind all that do not rank after it. -/
def insert (c : Candidate) : List Candidate → List Candidate
  | [] => [c]
  | d :: rest => if d.rank c = .gt then c :: d :: rest else d :: insert c rest

/-- The ranking holds a candidate of the word. -/
def contains (r : Ranking) (w : Text) : Bool := r.items.any (·.word == w)

/-- The candidate of a word. -/
def find? (r : Ranking) (w : Text) : Option Candidate := r.items.find? (·.word == w)

/-- The ranking has no place for `c`: its word is there already, or all places are taken by better
candidates. -/
def refuses (r : Ranking) (c : Candidate) : Bool :=
  r.capacity == 0 || r.contains c.word
    || (r.capacity ≤ r.items.length && r.items.getLast?.any fun last => c.rank last != .lt)

/-- Puts a candidate at its rank unless the ranking refuses it; a full ranking drops its last. -/
def add (r : Ranking) (c : Candidate) : Ranking :=
  if r.refuses c then r
  else
    let kept := if r.capacity ≤ r.items.length then r.items.dropLast else r.items
    { r with items := insert c kept }

/-- Adds candidates one after another. -/
def addAll (r : Ranking) (cs : List Candidate) : Ranking := cs.foldl add r

/-- The ranking without the candidate of a word. -/
def remove (r : Ranking) (w : Text) : Ranking :=
  { r with items := r.items.eraseP (·.word == w) }

/-- The ranking cut to the candidates that `p` accepts. -/
def retain (r : Ranking) (p : Candidate → Bool) : Ranking := { r with items := r.items.filter p }

end Ranking

end Typeahead
