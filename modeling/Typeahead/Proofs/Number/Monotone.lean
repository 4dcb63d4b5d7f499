import Mathlib.Algebra.Order.Field.Power
import Mathlib.Data.Int.Log
import Mathlib.Data.Rat.Floor
import Mathlib.Tactic.Linarith
import Mathlib.Tactic.Ring
import Typeahead.Proofs.Number.Rounding

/-! # Rounding keeps the order

A quotient that is not smaller is not rounded to a smaller integer (`roundDiv_mono`), and a magnitude
that is not smaller is not rounded to a smaller number of a binary format (`round_mono`). Magnitudes
whose last digits are at one place are compared by the digits kept. Otherwise the power of two with
which the greater one begins lies between the two, and is a number of the format itself. -/

namespace Typeahead

variable {num den a b c d k : Nat} {x y : Rat}

/-! ### Rounding to an integer -/

/-- The nearest integer is at most a half away from the quotient, and even where it is just that. -/
theorem roundDiv_near (hb : 0 < b) : 2 * roundDiv a b * b ≤ 2 * a + b ∧
    2 * a ≤ 2 * roundDiv a b * b + b ∧
    (2 * roundDiv a b * b = 2 * a + b ∨ 2 * a = 2 * roundDiv a b * b + b →
      roundDiv a b % 2 = 0) := by
  have hsplit := Nat.div_add_mod a b
  have hrest := Nat.mod_lt a hb
  unfold roundDiv
  dsimp only
  generalize a / b = q at *
  generalize a % b = r at *
  have hq : 2 * q * b = 2 * (b * q) := by ring
  have hnext : 2 * (q + 1) * b = 2 * (b * q) + 2 * b := by ring
  split_ifs with hless hmore
  · omega
  · omega
  · rcases Nat.mod_two_eq_zero_or_one q with heven | hodd
    · have hsum : q + q % 2 = q := by omega
      rw [hsum]
      omega
    · have hsum : q + q % 2 = q + 1 := by omega
      rw [hsum]
      omega

/-- **Rounding to an integer is monotone.** -/
theorem roundDiv_mono (hb : 0 < b) (hd : 0 < d) (h : (a : Rat) / b ≤ c / d) :
    roundDiv a b ≤ roundDiv c d := by
  obtain ⟨habove, -, htie⟩ := roundDiv_near (a := a) hb
  obtain ⟨-, hbelow, htie'⟩ := roundDiv_near (a := c) hd
  have hb' : (0 : Rat) < b := Nat.cast_pos.mpr hb
  have hd' : (0 : Rat) < d := Nat.cast_pos.mpr hd
  have ha : (a : Rat) = a / b * b := (div_mul_cancel₀ _ hb'.ne').symm
  have hc : (c : Rat) = c / d * d := (div_mul_cancel₀ _ hd'.ne').symm
  generalize (a : Rat) / b = x at *
  generalize (c : Rat) / d = y at *
  generalize roundDiv a b = m at *
  generalize roundDiv c d = n at *
  have hm : 2 * (m : Rat) ≤ 2 * x + 1 := by
    refine le_of_mul_le_mul_right ?_ hb'
    calc 2 * (m : Rat) * b ≤ 2 * a + b := by exact_mod_cast habove
      _ = (2 * x + 1) * b := by rw [ha]; ring
  have hn : 2 * y ≤ 2 * (n : Rat) + 1 := by
    refine le_of_mul_le_mul_right ?_ hd'
    calc 2 * y * d = 2 * c := by rw [hc]; ring
      _ ≤ 2 * n * d + d := by exact_mod_cast hbelow
      _ = (2 * (n : Rat) + 1) * d := by ring
  by_contra hlt
  -- both quotients lie on the half between neighbours, which cannot both be even
  have hle : (n : Rat) + 1 ≤ m := by exact_mod_cast Nat.lt_of_not_le hlt
  have hmeven : m % 2 = 0 := by
    have hx : 2 * (m : Rat) = 2 * x + 1 := by linarith only [hm, hn, h, hle]
    refine htie (.inl ?_)
    have htwice : 2 * (m : Rat) * b = 2 * a + b := by rw [hx, ha]; ring
    exact_mod_cast htwice
  have hneven : n % 2 = 0 := by
    have hy : 2 * y = 2 * (n : Rat) + 1 := by linarith only [hm, hn, h, hle]
    refine htie' (.inr ?_)
    have htwice : 2 * (c : Rat) = 2 * n * d + d := by rw [hc, ← mul_assoc, hy]; ring
    exact_mod_cast htwice
  have hnext : (m : Rat) = n + 1 := by linarith only [hm, hn, h, hle]
  have hnext' : m = n + 1 := by exact_mod_cast hnext
  omega

theorem roundDiv_one (k : Nat) : roundDiv k 1 = k := by
  unfold roundDiv
  simp [Nat.mod_one]

/-! ### Exponents -/

theorem twoPow_eq_zpow (q : Int) : twoPow q = (2 : Rat) ^ q := by
  cases q with
  | ofNat e =>
    show ((2 ^ e : Nat) : Rat) = 2 ^ (e : Int)
    rw [Nat.cast_pow, zpow_natCast]
    rfl
  | negSucc e =>
    show mkRat 1 (2 ^ (e + 1)) = 2 ^ Int.negSucc e
    rw [Rat.mkRat_eq_div, zpow_negSucc, Int.cast_one, one_div, Nat.cast_pow]
    rfl

theorem le_log_iff (hx : 0 < x) (e : Int) : e ≤ Int.log 2 x ↔ (2 : Rat) ^ e ≤ x := by
  simpa using (Int.zpow_le_iff_le_log one_lt_two hx).symm

theorem log_lt_iff (hx : 0 < x) (e : Int) : Int.log 2 x < e ↔ x < (2 : Rat) ^ e := by
  simpa using (Int.lt_zpow_iff_log_lt one_lt_two hx).symm

/-- The comparison by which an exponent is chosen. -/
theorem exponent_fits_iff (hnum : num ≠ 0) (hden : den ≠ 0) (e : Int) :
    (if 0 ≤ e then den * Nat.pow 2 e.toNat ≤ num else den ≤ num * Nat.pow 2 (-e).toNat) ↔
      e ≤ Int.log 2 ((num : Rat) / den) := by
  rw [le_log_iff (by positivity), le_div_iff₀ (by positivity)]
  split_ifs with he
  · lift e to ℕ using he
    rw [Int.toNat_natCast, zpow_natCast, mul_comm]
    exact_mod_cast Iff.rfl
  · obtain ⟨n, rfl⟩ : ∃ n : ℕ, e = -n := ⟨(-e).toNat, by omega⟩
    rw [neg_neg, Int.toNat_natCast, zpow_neg, zpow_natCast, inv_mul_le_iff₀ (by positivity),
      mul_comm]
    exact_mod_cast Iff.rfl

theorem div_lt_zpow_log2 (num : Nat) (hden : den ≠ 0) :
    (num : Rat) / den < (2 : Rat) ^ ((num.log2 : Int) - den.log2 + 1) := by
  have hlow : (2 : Rat) ^ (den.log2 : Int) ≤ den := by
    rw [zpow_natCast]
    exact_mod_cast Nat.log2_self_le hden
  have hhigh : (num : Rat) < 2 ^ ((num.log2 : Int) + 1) := by
    have hlt : num < 2 ^ (num.log2 + 1) := Nat.lt_log2_self
    exact_mod_cast hlt
  have hpos : (0 : Rat) < den := Nat.cast_pos.mpr (Nat.pos_of_ne_zero hden)
  rw [div_lt_iff₀ hpos]
  calc (num : Rat) < 2 ^ ((num.log2 : Int) + 1) := hhigh
    _ = 2 ^ ((num.log2 : Int) - den.log2 + 1) * 2 ^ (den.log2 : Int) := by
      rw [← zpow_add₀ two_ne_zero]
      congr 1
      omega
    _ ≤ 2 ^ ((num.log2 : Int) - den.log2 + 1) * den :=
      mul_le_mul_of_nonneg_left hlow (by positivity)

theorem zpow_log2_le_div (hnum : num ≠ 0) (hden : den ≠ 0) :
    (2 : Rat) ^ ((num.log2 : Int) - den.log2 - 1) ≤ num / den := by
  have hexponent : (num.log2 : Int) - den.log2 - 1 = -((den.log2 : Int) - num.log2 + 1) := by omega
  rw [hexponent, zpow_neg, ← inv_div (den : Rat)]
  exact inv_anti₀ (by positivity) (div_lt_zpow_log2 den hnum).le

/-- **The exponent** of a quotient is its binary logarithm. -/
theorem exponentOf_eq_log (hnum : num ≠ 0) (hden : den ≠ 0) :
    exponentOf num den = Int.log 2 ((num : Rat) / den) := by
  have hpos : (0 : Rat) < num / den := by positivity
  have hlow := (le_log_iff hpos _).mpr (zpow_log2_le_div hnum hden)
  have hhigh := (log_lt_iff hpos _).mpr (div_lt_zpow_log2 num hden)
  have hfits := exponent_fits_iff hnum hden (num.log2 - den.log2)
  unfold exponentOf
  dsimp only
  by_cases hle : (num.log2 : Int) - den.log2 ≤ Int.log 2 ((num : Rat) / den)
  · rw [if_pos (hfits.mpr hle)]
    omega
  · rw [if_neg (mt hfits.mp hle)]
    omega

namespace BinaryFormat

variable {f : BinaryFormat}

theorem natAbs_num_div_den (hx : 0 < x) : (x.num.natAbs : Rat) / x.den = x := by
  rw [Nat.cast_natAbs, abs_of_pos (Rat.num_pos.mpr hx), Rat.num_div_den]

/-- The place of the last digit that the format keeps of a magnitude. -/
def place (f : BinaryFormat) (x : Rat) : Int := f.quantum x.num.natAbs x.den

/-- The digits that the format keeps of a magnitude. -/
def digitsOf (f : BinaryFormat) (x : Rat) : Nat := f.kept x.num.natAbs x.den

theorem place_eq (f : BinaryFormat) (hx : 0 < x) :
    f.place x = max f.least (Int.log 2 x - f.digits + 1) := by
  have hnum : x.num.natAbs ≠ 0 := Int.natAbs_ne_zero.mpr (Rat.num_ne_zero.mpr hx.ne')
  rw [place, quantum, exponentOf_eq_log hnum x.den_nz, natAbs_num_div_den hx]

theorem round_eq_of_pos (f : BinaryFormat) (hx : 0 < x) :
    f.round x = f.digitsOf x * 2 ^ f.place x := by
  rw [round_eq f hx.ne', if_neg (not_lt.mpr (Rat.num_nonneg.mpr hx.le)), one_mul, twoPow_eq_zpow]
  rfl

/-- The digits kept are the magnitude, counted in units of the last digit and rounded. -/
theorem exists_digitsOf_eq (f : BinaryFormat) (hx : 0 < x) : ∃ a b, 0 < b ∧
    f.digitsOf x = roundDiv a b ∧ (a : Rat) / b = x / 2 ^ f.place x := by
  unfold digitsOf kept place
  dsimp only
  generalize f.quantum x.num.natAbs x.den = q
  have hvalue := natAbs_num_div_den hx
  split_ifs with hq
  · lift q to ℕ using hq
    refine ⟨_, _, Nat.mul_pos x.den_pos (Nat.two_pow_pos q), rfl, ?_⟩
    rw [Nat.cast_mul, ← div_div, hvalue, zpow_natCast]
    norm_cast
  · obtain ⟨n, rfl⟩ : ∃ n : ℕ, q = -n := ⟨(-q).toNat, by omega⟩
    refine ⟨_, _, x.den_pos, rfl, ?_⟩
    rw [neg_neg, Int.toNat_natCast, zpow_neg, zpow_natCast, div_inv_eq_mul, Nat.cast_mul,
      mul_div_right_comm, hvalue]
    norm_cast

/-- Digits at one place are in the order of the magnitudes. -/
theorem digitsOf_mono (hx : 0 < x) (h : x ≤ y) (hplace : f.place x = f.place y) :
    f.digitsOf x ≤ f.digitsOf y := by
  obtain ⟨a, b, hb, hkept, hvalue⟩ := exists_digitsOf_eq f hx
  obtain ⟨c, d, hd, hkept', hvalue'⟩ := exists_digitsOf_eq f (hx.trans_le h)
  rw [hkept, hkept']
  refine roundDiv_mono hb hd ?_
  rw [hvalue, hvalue', hplace]
  exact div_le_div_of_nonneg_right h (by positivity)

theorem digitsOf_le (hx : 0 < x) (h : x ≤ k * 2 ^ f.place x) : f.digitsOf x ≤ k := by
  obtain ⟨a, b, hb, hkept, hvalue⟩ := exists_digitsOf_eq f hx
  rw [hkept, ← roundDiv_one k]
  refine roundDiv_mono hb one_pos ?_
  rwa [hvalue, Nat.cast_one, div_one, div_le_iff₀ (by positivity)]

theorem le_digitsOf (hx : 0 < x) (h : k * 2 ^ f.place x ≤ x) : k ≤ f.digitsOf x := by
  obtain ⟨a, b, hb, hkept, hvalue⟩ := exists_digitsOf_eq f hx
  rw [hkept, ← roundDiv_one k]
  refine roundDiv_mono one_pos hb ?_
  rwa [hvalue, Nat.cast_one, div_one, le_div_iff₀ (by positivity)]

/-- A rounded magnitude is at most the power of two behind its first digit. -/
theorem round_le_zpow (hx : 0 < x) : f.round x ≤ (2 : Rat) ^ (f.digits + f.place x) := by
  have hplace := place_eq f hx
  have hlt := (log_lt_iff hx (f.digits + f.place x)).mp (by omega)
  rw [round_eq_of_pos f hx, zpow_add₀ two_ne_zero, zpow_natCast]
  rw [zpow_add₀ two_ne_zero, zpow_natCast] at hlt
  have hdigits : f.digitsOf x ≤ 2 ^ f.digits := digitsOf_le hx (by exact_mod_cast hlt.le)
  exact mul_le_mul_of_nonneg_right (by exact_mod_cast hdigits) (by positivity)

/-- A magnitude with all the digits of the format is not rounded below its first digit. -/
theorem zpow_le_round (hx : 0 < x) {n : Nat} (h : Int.log 2 x = n + f.place x) :
    (2 : Rat) ^ Int.log 2 x ≤ f.round x := by
  have hle := (le_log_iff hx _).mp le_rfl
  rw [round_eq_of_pos f hx]
  rw [h, zpow_add₀ two_ne_zero, zpow_natCast] at hle ⊢
  have hdigits : 2 ^ n ≤ f.digitsOf x := le_digitsOf hx (by exact_mod_cast hle)
  exact mul_le_mul_of_nonneg_right (by exact_mod_cast hdigits) (by positivity)

/-- **Rounding is monotone** on magnitudes. -/
theorem round_mono (hdigits : 0 < f.digits) (hx : 0 ≤ x) (h : x ≤ y) : f.round x ≤ f.round y := by
  rcases hx.eq_or_lt with rfl | hpos
  · rw [round_zero]
    exact round_nonneg f h
  · have hpos' : 0 < y := hpos.trans_le h
    rcases eq_or_ne (f.place x) (f.place y) with heq | hne
    · rw [round_eq_of_pos f hpos, round_eq_of_pos f hpos', heq]
      have hle : (f.digitsOf x : Rat) ≤ f.digitsOf y := by
        exact_mod_cast digitsOf_mono hpos h heq
      exact mul_le_mul_of_nonneg_right hle (by positivity)
    · have hlog : Int.log 2 x ≤ Int.log 2 y := Int.log_mono_right hpos h
      have hplace := place_eq f hpos
      have hplace' := place_eq f hpos'
      -- the last digit of `y` is not at the least place, so `y` has all digits
      have hfull : Int.log 2 y = (f.digits - 1 : Nat) + f.place y := by omega
      calc f.round x ≤ (2 : Rat) ^ (f.digits + f.place x) := round_le_zpow hpos
        _ ≤ (2 : Rat) ^ Int.log 2 y := zpow_le_zpow_right₀ one_le_two (by omega)
        _ ≤ f.round y := zpow_le_round hpos' hfull

end BinaryFormat

theorem toSingle_mono (hx : 0 ≤ x) (h : x ≤ y) : toSingle x ≤ toSingle y :=
  BinaryFormat.round_mono (by decide) hx h

end Typeahead
