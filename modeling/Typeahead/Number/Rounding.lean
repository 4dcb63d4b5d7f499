/-! # Rounding to binary formats

A binary format has finitely many significant digits and a least positive number. Rounding takes an
exact quotient to the nearest number of the format, a tie to the one with an even last digit. All
arithmetic of weights and scores is exact arithmetic followed by such a rounding. -/

namespace Typeahead

/-- The quotient rounded to the nearest integer, a half to the even one. -/
def roundDiv (num den : Nat) : Nat :=
  let q := num / den
  let r := num % den
  if 2 * r < den then q
  else if den < 2 * r then q + 1
  else q + q % 2

/-- The power of two with an integer exponent. -/
def twoPow : Int → Rat
  | .ofNat e => (Nat.pow 2 e : Rat)
  | .negSucc e => mkRat 1 (Nat.pow 2 (e + 1))

/-- The exponent of the greatest power of two that is at most `num / den`. -/
def exponentOf (num den : Nat) : Int :=
  let e : Int := (num.log2 : Int) - (den.log2 : Int)
  let fits := if 0 ≤ e then den * Nat.pow 2 e.toNat ≤ num else den ≤ num * Nat.pow 2 (-e).toNat
  if fits then e else e - 1

/-- A binary format: its significant digits, the exponent of its least positive number, and the
exponent of the first power of two beyond it. -/
structure BinaryFormat where
  digits : Nat
  least : Int
  limit : Int

namespace BinaryFormat

/-- The format of 32 bits. -/
def single : BinaryFormat := ⟨24, -149, 128⟩

/-- The format of 64 bits. -/
def double : BinaryFormat := ⟨53, -1074, 1024⟩

/-- The exponent of the last digit that the format keeps of `num / den`. -/
def quantum (f : BinaryFormat) (num den : Nat) : Int :=
  max f.least (exponentOf num den - f.digits + 1)

/-- The number of the format nearest to `x`, as if the format had no upper limit. -/
def round (f : BinaryFormat) (x : Rat) : Rat :=
  let num := x.num.natAbs
  if num = 0 then 0
  else
    let q := f.quantum num x.den
    let m := if 0 ≤ q then roundDiv num (x.den * Nat.pow 2 q.toNat)
      else roundDiv (num * Nat.pow 2 (-q).toNat) x.den
    let r := (m : Rat) * twoPow q
    if x.num < 0 then -r else r

/-- A rounded number is beyond the format. -/
def overflows (f : BinaryFormat) (x : Rat) : Bool := twoPow f.limit ≤ x || x ≤ -twoPow f.limit

end BinaryFormat

/-- The single nearest to `x`. -/
def toSingle (x : Rat) : Rat := BinaryFormat.single.round x

/-- The double nearest to `x`. -/
def toDouble (x : Rat) : Rat := BinaryFormat.double.round x

/-- The integer part of `x`, cut toward zero. -/
def truncate (x : Rat) : Int := x.num.tdiv x.den

end Typeahead
