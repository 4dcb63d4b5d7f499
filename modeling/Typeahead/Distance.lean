import Typeahead.Text.Basic

/-! # Distances between texts

A distance is computed row by row: a row holds the distances from what has been read of one text to
all beginnings of the other. `editDistance` counts insertions, deletions and replacements, with a
new row for each character; `editCount` counts the same in two rows that are written over in turn.
`typingDistance` also counts the exchange of two neighbours as one, no letter being touched
twice. -/

namespace Typeahead

namespace Distance

/-- What it costs to read `x` where `y` is wanted. -/
def cost (x y : Char) : Nat := if x = y then 0 else 1

/-- The cells of a row behind its first one: `left` is the cell before, `corner` and `above` come
from the row above. -/
def cells (x : Char) (left corner : Nat) : Text → List Nat → List Nat
  | y :: ys, up :: above =>
    let v := min (corner + cost x y) (min (up + 1) (left + 1))
    v :: cells x v up ys above
  | _, _ => []

/-- The row below `row` after `x` was read, `b` being the other text. -/
def nextRow (b : Text) (row : List Nat) (x : Char) : List Nat :=
  match row with
  | corner :: above => (corner + 1) :: cells x (corner + 1) corner b above
  | [] => []

/-- The row before anything was read. -/
def firstRow (b : Text) : List Nat := List.range (b.length + 1)

/-! ### Two rows, written in turn -/

/-- The row above and the row to be written, which still holds what was written there before. -/
structure TwoRows where
  above : Array Nat
  below : Array Nat

namespace TwoRows

/-- The rows before anything was read. -/
def first (b : Text) : TwoRows := ⟨(firstRow b).toArray, Array.replicate (b.length + 1) 0⟩

/-- Writes the cell behind the place `j`, at which the other text has `y`. -/
def write (x : Char) (r : TwoRows) (y : Char) (j : Nat) : TwoRows :=
  let v := min (min (r.above.getD j 0 + cost x y) (r.above.getD (j + 1) 0 + 1))
    (r.below.getD j 0 + 1)
  { r with below := r.below.setIfInBounds (j + 1) v }

/-- Reads the character `x` at the place `i`: the row is written, and is the one above from then
on. -/
def read (b : Text) (r : TwoRows) (x : Char) (i : Nat) : TwoRows :=
  let begun : TwoRows := { r with below := r.below.setIfInBounds 0 (i + 1) }
  let written := b.zipIdx.foldl (fun r p => r.write x p.1 p.2) begun
  ⟨written.below, written.above⟩

end TwoRows

/-! ### Exchanges -/

/-- The cells of a row behind its first one when neighbours may be exchanged: `x'` was read before
`x`, `y'` stands before the rest of the other text, and `two` is the row two above from the cell
before `y'` on. -/
def exchangeCells (x' : Option Char) (x : Char) (left corner : Nat) (y' : Option Char) :
    Text → List Nat → List Nat → List Nat
  | y :: ys, up :: above, two =>
    let plain := min (corner + cost x y) (min (up + 1) (left + 1))
    match y', two with
    | some z, t :: two =>
      let v := if x = z ∧ x' = some y then min plain (t + 1) else plain
      v :: exchangeCells x' x v up (some y) ys above two
    | _, two => plain :: exchangeCells x' x plain up (some y) ys above two
  | _, _, _ => []

/-- Where the computation with exchanges stands: the last character read and the last two rows. -/
structure Rows where
  last : Option Char
  two : List Nat
  one : List Nat

/-- One more character `x` is read. -/
def Rows.next (b : Text) (r : Rows) (x : Char) : Rows :=
  match r.one with
  | corner :: above =>
    ⟨some x, r.one, (corner + 1) :: exchangeCells r.last x (corner + 1) corner none b above r.two⟩
  | [] => r

end Distance

/-- The least number of insertions, deletions and replacements that turn `a` into `b`. -/
def editDistance (a b : Text) : Nat :=
  (a.foldl (Distance.nextRow b) (Distance.firstRow b)).getLastD 0

/-- The number of insertions, deletions and replacements by which `a` and `b` differ. -/
def editCount (a b : Text) : Nat :=
  (a.zipIdx.foldl (fun r p => r.read b p.1 p.2) (Distance.TwoRows.first b)).above.getD b.length 0

/-- The least number of insertions, deletions, replacements and exchanges of neighbours that turn
`a` into `b`, no character being touched twice. -/
def typingDistance (a b : Text) : Nat :=
  (a.foldl (Distance.Rows.next b) ⟨none, [], Distance.firstRow b⟩).one.getLastD 0

end Typeahead
