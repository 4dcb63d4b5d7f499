import Typeahead.Lexicon.Basic

/-! # Walks through the index

What was typed leads to keys in two ways: to the keys that begin with it, and to those within two
slips of it. The second walk reads a key character by character and keeps a row of distances, capped
at three; a row without a distance up to two is dead. It reads bytes underneath, and of a character
of several bytes it recognises the first one: where that byte is also the first one of a character
expected here, only this character is followed, so that some close keys are missed. -/

namespace Typeahead

namespace Walk

/-- The cells of a row behind its first one; `left` is the cell before and `corner` comes from the
row above. -/
def cells (x : Char) (left corner : Nat) : Text → List Nat → List Nat
  | y :: ys, up :: above =>
    let v := min 3 (min (min (left + 1) (up + 1)) (corner + Distance.cost x y))
    v :: cells x v up ys above
  | _, _ => []

/-- The row after `x` was read. -/
def step (q : Text) (row : List Nat) (x : Char) : List Nat :=
  match row with
  | corner :: above => (corner + 1) :: cells x (corner + 1) corner q above
  | [] => []

/-- Some distance of the row is at most two. -/
def alive (row : List Nat) : Bool := row.any (· ≤ 2)

/-- The first byte of a character. -/
def leadByte (c : Char) : Nat :=
  let n := c.toNat
  if n < 0x80 then n
  else if n < 0x800 then 0xC0 + n / 0x40
  else if n < 0x10000 then 0xE0 + n / 0x1000
  else 0xF0 + n / 0x40000

/-- The characters expected at a row that can be read there. -/
def expected (q : Text) (row : List Nat) : Text :=
  (q.zip row).filterMap fun (c, d) => if d ≤ 2 && alive (step q row c) then some c else none

/-- Reading `x` is led to another character with the same first byte. -/
def misled (q : Text) (row : List Nat) (x : Char) : Bool :=
  1 < Text.byteWidth x && ((expected q row).reverse.find? (leadByte · == leadByte x)).any (· != x)

/-- The row after `x` was read, unless the walk ends there. -/
def read (q : Text) (row : List Nat) (x : Char) : Option (List Nat) :=
  if misled q row x then none
  else
    let next := step q row x
    if alive next then some next else none

/-- The row after the characters of a key were read. -/
def run (q : Text) : List Nat → Text → Option (List Nat)
  | row, [] => some row
  | row, x :: rest => (read q row x).bind (run q · rest)

/-- The walk for `q` finds the key `k`. -/
def finds (q k : Text) : Bool :=
  ((run q (Distance.firstRow q) k).bind (·.getLast?)).any (· ≤ 2)

/-! ### The size of the automaton -/

/-- The greatest number of states that an automaton may have. -/
def stateLimit : Nat := 10000

/-- The row after a character that is not expected anywhere was read. -/
def mismatch (row : List Nat) : List Nat :=
  match row with
  | corner :: above => (corner + 1) :: go (corner + 1) corner above
  | [] => []
where
  /-- The cells behind the first one. -/
  go (left corner : Nat) : List Nat → List Nat
    | up :: above =>
      let v := min 3 (min (min (left + 1) (up + 1)) (corner + 1))
      v :: go v up above
    | [] => []

/-- The number of states that a row needs: one for itself, one for each inner byte of every form
that an unexpected character can have, and the inner bytes of the expected characters. -/
def statesOf (q : Text) (row : List Nat) : Nat :=
  1 + (if alive (mismatch row) then 18 else 0)
    + (expected q row).foldl (fun n c => n + (Text.byteWidth c - 1)) 0

/-- The rows that one character leads to. -/
def successors (q : Text) (row : List Nat) : List (List Nat) :=
  (mismatch row :: (expected q row).map (step q row)).filter alive

/-- The number of states of all rows that `todo` leads to, counted until it exceeds the limit; every
row needs a state, so the fuel is never short. -/
def countStates (q : Text) : Nat → Nat → List (List Nat) → List (List Nat) → Nat
  | 0, count, _, _ => count
  | _, count, _, [] => count
  | fuel + 1, count, seen, row :: todo =>
    if stateLimit < count then count
    else
      let fresh := (successors q row).eraseDups.filter (!seen.contains ·)
      countStates q fuel (count + statesOf q row) (fresh ++ seen) (fresh ++ todo)

/-- A text too short to need many states. Its automaton is not counted: that it has no more than
`stateLimit` of them is an assumption about the automaton. -/
def isShort (q : Text) : Bool :=
  q.length < (if q.all (·.toNat < 0x80) then 40 else 20)

/-- The automaton for `q` would have too many states, so that the walk is left out. -/
def isTooLarge (q : Text) : Bool :=
  !isShort q &&
    (let first := Distance.firstRow q
     stateLimit < countStates q (stateLimit + 2) 0 [first] [first])

end Walk

namespace Lexicon

/-- How many keys the walk of completions visits at most. -/
def completionLimit : Nat := 256

/-- The keys that begin with `key`, with their buckets, as far as the walk goes. -/
def completions (l : Lexicon) (key : Text) : Index :=
  (l.index.filter fun e => key.isPrefixOf e.1).take completionLimit

/-- The walk of corrections finds the key `k` for `key`. -/
def isCorrection (key k : Text) : Bool := 0 < Scoring.reach key.length && Walk.finds key k

/-- The keys that are found by the walk of corrections and not among the completions. -/
def corrections (l : Lexicon) (key : Text) : Index :=
  if Walk.isTooLarge key then []
  else
    let found := l.completions key
    l.index.filter fun e => isCorrection key e.1 && !found.contains e

/-- The keys that the walks for `key` reach. -/
def reached (l : Lexicon) (key : Text) : Index := l.completions key ++ l.corrections key

/-- The candidates for what was typed: a forced replacement first, then the entries that the walks
reach. -/
def suggestions (l : Lexicon) (q : Query) : List Candidate :=
  if q.typed.isEmpty then l.predictions q
  else (l.replacement? q).toList
    ++ ((l.reached (Text.lower q.typed)).flatMap fun e => l.bucket e.2).filterMap (l.candidate? q)

end Lexicon

end Typeahead
