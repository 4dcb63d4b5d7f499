/-! # Tables of code points

A property of characters is a `CodeSet`: the increasing list of the code points where membership
changes. A mapping of characters is a `Rows`: each row is one number, written with six hexadecimal
digits per code point, the first of them looked up and the others its image. Both are cut into
pages, so that a look-up leaves out whole pages. -/

namespace Typeahead.Text

/-- A set of code points, given by the points where membership changes. -/
structure CodeSet where
  pages : List (List Nat)

namespace CodeSet

/-- A code point is in the set when an odd number of changes lie at or below it. -/
def contains (s : CodeSet) (c : Nat) : Bool :=
  s.pages.foldl (fun n page => n + page.countP (· ≤ c)) 0 % 2 == 1

end CodeSet

/-- How many code points a row can hold at most. -/
def rowLimit : Nat := 24

/-- The code points of a row, the last one first. -/
def backwards : Nat → Nat → List Nat
  | 0, _ => []
  | fuel + 1, n => if n = 0 then [] else n % 0x1000000 :: backwards fuel (n / 0x1000000)

/-- The code points written in a row. -/
def codes (row : Nat) : List Nat := (backwards rowLimit row).reverse

/-- A mapping from code points to lists of them, by increasing first code point. -/
structure Rows where
  pages : List (List Nat)

namespace Rows

/-- The image in one page, which is left out when its last row lies below `c`. -/
def find? (page : List Nat) (c : Nat) : Option (List Nat) :=
  if (page.getLast?.bind fun row => (codes row).head?).any (· < c) then none
  else page.findSome? fun row =>
    match codes row with
    | first :: image => if first = c then some image else none
    | [] => none

/-- What the mapping says of a code point; `none` leaves it as it is. -/
def get? (t : Rows) (c : Nat) : Option (List Nat) := t.pages.findSome? (find? · c)

end Rows

/-- A run of code points whose images keep the distance of their arguments: `first`, `first + step`,
… up to `last`, the image of `first` being `image`. -/
structure Run where
  first : Nat
  last : Nat
  step : Nat
  image : Nat

namespace Run

/-- The image of `c`, if the run holds it. -/
def get? (r : Run) (c : Nat) : Option Nat :=
  if r.first ≤ c ∧ c ≤ r.last ∧ (c - r.first) % r.step = 0 then some (r.image + (c - r.first))
  else none

end Run

end Typeahead.Text
