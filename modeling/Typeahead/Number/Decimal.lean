import Typeahead.Number.Single

/-! # Decimal forms of binary numbers

A decimal has a sign, digits and an exponent. It is read as the nearest double, and then as the
nearest single. The other way round, a number is written with the fewest digits that read back as
the same double; of two such forms the nearer one is taken, and the greater one if both are as
near. -/

namespace Typeahead

/-- The power of ten with an integer exponent. -/
def tenPow : Int → Rat
  | .ofNat e => (Nat.pow 10 e : Rat)
  | .negSucc e => mkRat 1 (Nat.pow 10 (e + 1))

/-- A number in decimal form: its digits times a power of ten, with a sign. -/
structure Decimal where
  negative : Bool
  digits : Nat
  exponent : Int
  deriving DecidableEq, Repr

namespace Decimal

/-- The decimal of the digits before and behind a point, with an exponent of its own. -/
def ofDigits (negative : Bool) (whole fraction : Text) (exponent : Int) : Decimal :=
  ⟨negative, Text.valueOf 10 (whole ++ fraction), exponent - fraction.length⟩

/-- The value without the sign. -/
def magnitude (d : Decimal) : Rat := d.digits * tenPow d.exponent

/-- The number of digits before the point; at most zero where they are all behind it. -/
def wholeDigits (d : Decimal) : Int := (Text.ofNat d.digits).length + d.exponent

/-- The double nearest to the magnitude, or `none` beyond the format. Decimals far outside the
format are decided by their size alone. -/
def nearestDouble? (d : Decimal) : Option Rat :=
  if d.digits = 0 ∨ d.wholeDigits < -400 then some 0
  else if 400 < d.wholeDigits then none
  else
    let x := toDouble d.magnitude
    if BinaryFormat.double.overflows x then none else some x

/-- The decimal is beyond the doubles. -/
def overflows (d : Decimal) : Bool := d.nearestDouble?.isNone

/-- The single that the decimal is read as. -/
def toSingle (d : Decimal) : Single :=
  match d.nearestDouble? with
  | some x => .nearest d.negative x
  | none => .infinite d.negative

/-! ### Writing -/

/-- The exponent of the greatest power of ten that is at most `x`, which is positive. -/
def leading (x : Rat) : Int :=
  let num := x.num.natAbs
  if x.den ≤ num then ((Text.ofNat (num / x.den)).length : Int) - 1
  else -((Text.ofNat (x.den / num)).length : Int)

/-- Of the two decimals around `x` with `n` digits, the nearer one that reads back as `x`; the upper
one if both are as near. -/
def around (x : Rat) (n : Nat) : Option Decimal :=
  let exponent := leading x - n + 1
  let low := (x / tenPow exponent).floor.toNat
  let readsBack (m : Nat) : Bool := toDouble (m * tenPow exponent) == x
  let gap (m : Nat) : Rat := if (m : Rat) * tenPow exponent < x then x - m * tenPow exponent
    else m * tenPow exponent - x
  let pick := if gap (low + 1) ≤ gap low then [low + 1, low] else [low, low + 1]
  (pick.find? readsBack).map fun m => ⟨false, m, exponent⟩

/-- How many digits are always enough for a double. -/
def enoughDigits : Nat := 17

/-- The shortest decimal that reads back as the double `x`, which is not negative. -/
def shortest (x : Rat) : Decimal :=
  if x = 0 then ⟨false, 0, 0⟩
  else ((List.range enoughDigits).findSome? fun n => around x (n + 1)).getD ⟨false, 0, 0⟩

/-- The decimal without its sign, written with a point and no exponent; a whole number has one zero
behind the point. -/
def positional (d : Decimal) : Text :=
  let shown := Text.ofNat d.digits
  if 0 ≤ d.exponent then shown ++ List.replicate d.exponent.toNat '0' ++ ['.', '0']
  else
    let places := (-d.exponent).toNat
    let padded := List.replicate (places + 1 - shown.length) '0' ++ shown
    padded.take (padded.length - places) ++ '.' :: padded.drop (padded.length - places)

end Decimal

namespace Single

/-- The single written as the shortest decimal that reads back as the same double. What is not a
number has no sign. -/
def text : Single → Text
  | nan => ['n', 'a', 'n']
  | infinite negative => (if negative then ['-'] else []) ++ ['i', 'n', 'f']
  | finite negative x => (if negative then ['-'] else []) ++ (Decimal.shortest x).positional

end Single

end Typeahead
