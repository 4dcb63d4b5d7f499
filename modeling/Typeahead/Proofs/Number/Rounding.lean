import Mathlib.Algebra.Order.Field.Rat
import Mathlib.Data.Rat.Lemmas
import Mathlib.Tactic.Positivity
import Typeahead.Number.Rounding

/-! # Rounding keeps bounds

A rounded number has the sign of the exact one (`round_nonneg`), and it does not pass an integer of
fewer digits than the format has, since that is a number of the format itself (`abs_round_le`).
Cutting a number to its integer part keeps both as well (`truncate_nonneg`,
`natAbs_truncate_le`). -/

namespace Typeahead

variable {num den a b k n : Nat} {x : Rat}

/-- A quotient that is not above an integer is not rounded above it. -/
theorem roundDiv_le (hb : 0 < b) (h : a ≤ k * b) : roundDiv a b ≤ k := by
  have hq : a / b ≤ k := Nat.div_le_of_le_mul (Nat.mul_comm k b ▸ h)
  unfold roundDiv
  dsimp only
  rcases hq.lt_or_eq with hlt | heq
  · split_ifs <;> omega
  · have hrest : a % b = 0 := by
      have hsplit := Nat.div_add_mod a b
      rw [heq, Nat.mul_comm b k] at hsplit
      omega
    rw [hrest, if_pos hb, heq]

theorem exponentOf_le_sub (num den : Nat) :
    exponentOf num den ≤ (num.log2 : Int) - (den.log2 : Int) := by
  unfold exponentOf
  dsimp only
  split_ifs <;> omega

theorem exponentOf_le (hnum : num ≠ 0) (h : num < den * 2 ^ k) : exponentOf num den ≤ k := by
  have hlt : num < 2 ^ (den.log2 + 1 + k) :=
    calc num < den * 2 ^ k := h
      _ ≤ 2 ^ (den.log2 + 1) * 2 ^ k := Nat.mul_le_mul_right _ Nat.lt_log2_self.le
      _ = 2 ^ (den.log2 + 1 + k) := (Nat.pow_add ..).symm
  have hlog := (Nat.log2_lt hnum).mpr hlt
  have hle := exponentOf_le_sub num den
  omega

theorem twoPow_of_nonpos {q : Int} (hq : q ≤ 0) :
    twoPow q = 1 / ((2 ^ (-q).toNat : Nat) : Rat) := by
  cases q with
  | ofNat e =>
    obtain rfl : e = 0 := Int.ofNat_eq_zero.mp (le_antisymm hq (Int.natCast_nonneg e))
    simp [twoPow]
  | negSucc e =>
    show mkRat 1 (2 ^ (e + 1)) = 1 / ((2 ^ (e + 1) : Nat) : Rat)
    rw [Rat.mkRat_eq_div, Int.cast_one]

theorem twoPow_nonneg (q : Int) : 0 ≤ twoPow q := by
  cases q with
  | ofNat e => exact Nat.cast_nonneg _
  | negSucc e =>
    show 0 ≤ mkRat 1 (2 ^ (e + 1))
    rw [Rat.mkRat_eq_div]
    positivity

namespace BinaryFormat

variable {f : BinaryFormat}

/-- The digits that the format keeps of `num / den`. -/
def kept (f : BinaryFormat) (num den : Nat) : Nat :=
  let q := f.quantum num den
  if 0 ≤ q then roundDiv num (den * Nat.pow 2 q.toNat)
  else roundDiv (num * Nat.pow 2 (-q).toNat) den

/-- A number that is not zero, rounded: its sign, the digits kept and the place of the last one. -/
theorem round_eq (f : BinaryFormat) (hx : x ≠ 0) : f.round x =
    (if x.num < 0 then -1 else 1) *
      (f.kept x.num.natAbs x.den * twoPow (f.quantum x.num.natAbs x.den)) := by
  have hnum : x.num.natAbs ≠ 0 := Int.natAbs_ne_zero.mpr (Rat.num_ne_zero.mpr hx)
  unfold round kept
  dsimp only
  rw [if_neg hnum]
  split_ifs <;> simp only [neg_one_mul, one_mul]

theorem round_zero (f : BinaryFormat) : f.round 0 = 0 := rfl

theorem round_nonneg (f : BinaryFormat) (hx : 0 ≤ x) : 0 ≤ f.round x := by
  rcases eq_or_ne x 0 with rfl | hne
  · exact le_of_eq f.round_zero.symm
  · have hnum : ¬ x.num < 0 := not_lt.mpr (Rat.num_nonneg.mpr hx)
    rw [round_eq f hne, if_neg hnum, one_mul]
    exact mul_nonneg (Nat.cast_nonneg _) (twoPow_nonneg _)

/-- Within the digits of the format the last one kept is no higher than the ones. -/
theorem quantum_nonpos (hleast : f.least ≤ 0) (hk : k < f.digits) (hnum : num ≠ 0)
    (h : num < den * 2 ^ k) : f.quantum num den ≤ 0 := by
  have hexponent := exponentOf_le hnum h
  exact max_le hleast (by omega)

theorem kept_le (hden : 0 < den) (h : num ≤ n * den) (hq : f.quantum num den ≤ 0) :
    f.kept num den ≤ n * 2 ^ (-f.quantum num den).toNat := by
  unfold kept
  dsimp only
  split_ifs with hpos
  · have hzero : f.quantum num den = 0 := le_antisymm hq hpos
    rw [hzero]
    exact roundDiv_le (by simpa using hden) (by simpa using h)
  · refine roundDiv_le hden ?_
    calc num * 2 ^ (-f.quantum num den).toNat
        ≤ n * den * 2 ^ (-f.quantum num den).toNat := Nat.mul_le_mul_right _ h
      _ = n * 2 ^ (-f.quantum num den).toNat * den := Nat.mul_right_comm ..

theorem abs_le_iff_natAbs_le : |x| ≤ n ↔ x.num.natAbs ≤ n * x.den := by
  have hden : (0 : Rat) < x.den := Nat.cast_pos.mpr x.den_pos
  have habs : |x| = (x.num.natAbs : Rat) / x.den := by
    conv_lhs => rw [← Rat.num_div_den x]
    rw [abs_div, Nat.abs_cast, Nat.cast_natAbs, Int.cast_abs]
  rw [habs, div_le_iff₀ hden]
  exact_mod_cast Iff.rfl

/-- **A bound of few digits** bounds the rounded number too. -/
theorem abs_round_le (hleast : f.least ≤ 0) (hk : k < f.digits) (hn : n < 2 ^ k) (hx : |x| ≤ n) :
    |f.round x| ≤ n := by
  rcases eq_or_ne x 0 with rfl | hne
  · exact hx
  · have hnum : x.num.natAbs ≠ 0 := Int.natAbs_ne_zero.mpr (Rat.num_ne_zero.mpr hne)
    have hle : x.num.natAbs ≤ n * x.den := abs_le_iff_natAbs_le.mp hx
    have hlt : x.num.natAbs < x.den * 2 ^ k :=
      calc x.num.natAbs ≤ n * x.den := hle
        _ < 2 ^ k * x.den := Nat.mul_lt_mul_of_pos_right hn x.den_pos
        _ = x.den * 2 ^ k := Nat.mul_comm ..
    have hq := quantum_nonpos hleast hk hnum hlt
    have hkept : (f.kept x.num.natAbs x.den : Rat) ≤
        n * (2 ^ (-f.quantum x.num.natAbs x.den).toNat : Nat) := by
      exact_mod_cast kept_le x.den_pos hle hq
    have hsign : |(if x.num < 0 then -1 else 1 : Rat)| = 1 := by split_ifs <;> simp
    rw [round_eq f hne, abs_mul, hsign, one_mul,
      abs_of_nonneg (mul_nonneg (Nat.cast_nonneg _) (twoPow_nonneg _)), twoPow_of_nonpos hq,
      mul_one_div, div_le_iff₀ (by positivity)]
    exact hkept

end BinaryFormat

/-! ### Cutting to an integer -/

theorem truncate_nonneg (hx : 0 ≤ x) : 0 ≤ truncate x :=
  Int.tdiv_nonneg (Rat.num_nonneg.mpr hx) (Int.natCast_nonneg _)

theorem natAbs_truncate_le (hx : |x| ≤ n) : (truncate x).natAbs ≤ n := by
  unfold truncate
  rw [Int.natAbs_tdiv, Int.natAbs_natCast]
  refine Nat.div_le_of_le_mul ?_
  rw [Nat.mul_comm]
  exact BinaryFormat.abs_le_iff_natAbs_le.mp hx

end Typeahead
