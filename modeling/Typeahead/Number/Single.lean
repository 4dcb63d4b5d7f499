import Typeahead.Text.Basic
import Typeahead.Number.Rounding

/-! # Single numbers

A single is not a number, or infinite, or an exact finite value with a sign of its own, so that the
two zeros are told apart. -/

namespace Typeahead

/-- A number of the format of 32 bits. -/
inductive Single where
  | nan
  | infinite (negative : Bool)
  | finite (negative : Bool) (magnitude : Rat)
  deriving DecidableEq, Repr

namespace Single

/-- The single with the value `x`, which is one of the format already. -/
def exact (x : Rat) : Single := .finite (x < 0) (if x < 0 then -x else x)

/-- The single nearest to a magnitude with a sign. -/
def nearest (negative : Bool) (magnitude : Rat) : Single :=
  let s := toSingle magnitude
  if BinaryFormat.single.overflows s then .infinite negative else .finite negative s

/-- The single nearest to an integer. -/
def ofInt (n : Int) : Single := nearest (n < 0) n.natAbs

/-- The value that a weight has in computations: it lies between zero and one, or is at least
one. -/
def toWeight : Single → Rat
  | nan => 0
  | infinite negative => if negative then 0 else 1
  | finite negative magnitude => if negative then 0 else magnitude

/-- The signed value; zero for what has none. -/
def value : Single → Rat
  | finite negative magnitude => if negative then -magnitude else magnitude
  | _ => 0

/-- `x` reaches the threshold `t`. -/
def reachedBy (t : Single) (x : Rat) : Bool :=
  match t with
  | nan => false
  | infinite negative => negative
  | finite .. => t.value ≤ x

/-- `t` lies below `x`. -/
def below (t : Single) (x : Rat) : Bool :=
  match t with
  | nan => false
  | infinite negative => negative
  | finite .. => t.value < x

/-- Two singles are numerically equal. -/
def same : Single → Single → Bool
  | nan, _ | _, nan => false
  | infinite a, infinite b => a == b
  | finite a m, finite b n => m == n && (a == b || m == 0)
  | _, _ => false

/-- The 32 bits of a finite magnitude: exponent and last digits. -/
def magnitudeBits (x : Rat) : Nat :=
  let num := x.num.natAbs
  if num = 0 then 0
  else
    let e := exponentOf num x.den
    let q := BinaryFormat.single.quantum num x.den
    let m := (x * twoPow (-q)).num.natAbs
    if e < -126 then m else (e + 127).toNat * 0x800000 + (m - 0x800000)

/-- The 32 bits of a single. -/
def bits : Single → Nat
  | nan => 0x7FC00000
  | infinite negative => (if negative then 0x80000000 else 0) + 0x7F800000
  | finite negative x => (if negative then 0x80000000 else 0) + magnitudeBits x

/-- The bits on eight hexadecimal digits, or the word for what is not a number. -/
def hex : Single → Text
  | nan => ['n', 'a', 'n']
  | s =>
    let digits := Nat.toDigits 16 s.bits
    List.replicate (8 - digits.length) '0' ++ digits

end Single

end Typeahead
