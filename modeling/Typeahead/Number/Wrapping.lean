/-! # Integers of 32 bits

Scores, bonuses and margins are integers of 32 bits. A sum of them that leaves their range wraps
around: it is taken modulo the number of such integers. A sum that stays in the range is exact. -/

namespace Typeahead

/-- The number of integers of 32 bits. -/
def wordCount : Nat := 4294967296

/-- The integer of 32 bits that equals `n` up to multiples of their number. -/
def wrap32 (n : Int) : Int := n.bmod wordCount

/-- The integer has 32 bits. -/
def Fits32 (n : Int) : Prop := -2147483648 ≤ n ∧ n < 2147483648

instance (n : Int) : Decidable (Fits32 n) := inferInstanceAs (Decidable (_ ∧ _))

/-- An integer in the range is kept. -/
theorem wrap32_of_fits {n : Int} (h : Fits32 n) : wrap32 n = n := by
  unfold Fits32 at h
  exact Int.bmod_eq_of_le (by simp [wordCount]; omega) (by simp [wordCount]; omega)

/-- What is wrapped is in the range. -/
theorem fits_wrap32 (n : Int) : Fits32 (wrap32 n) := by
  have low := Int.le_bmod (x := n) (m := wordCount) (by decide)
  have high := Int.bmod_lt (x := n) (m := wordCount) (by decide)
  simp only [wordCount] at low high
  unfold Fits32 wrap32 wordCount
  omega

end Typeahead
