import Typeahead.Composer

/-! # The counts of a composer

Whatever is done to a composer, its counts are those of its word (`counted_inputs`). -/

namespace Typeahead.Composer

/-- **The invariant**: the counts are those of the word. -/
def Counted (c : Composer) : Prop := c.counts = .of c.word

theorem counted_new : Counted {} := rfl

theorem Counted.input {c : Composer} (h : c.Counted) (i : Input) : (c.input i).Counted := by
  cases i with
  | key ch x y => rfl
  | delete =>
    show (deleteLast c).2.Counted
    unfold deleteLast
    split
    · exact h
    · rfl
  | setWord w => rfl
  | setBatchWord w => rfl
  | setBatchPointers ps => exact h
  | setCaps caps => exact h
  | setResumed resumed => exact h
  | setRejected rejected => exact h
  | reset => rfl

theorem counted_inputs (is : List Input) {c : Composer} (h : c.Counted) :
    (c.inputs is).Counted := by
  induction is generalizing c with
  | nil => exact h
  | cons i is ih => exact ih (h.input i)

theorem hasDigits_eq_false_iff {c : Composer} (h : c.Counted) :
    c.hasDigits = false ↔ ∀ ch ∈ c.word, Text.isNumeric ch = false := by
  rw [hasDigits, h, decide_eq_false_iff_not, Nat.not_lt, Nat.le_zero]
  show c.word.countP Text.isNumeric = 0 ↔ _
  simp only [List.countP_eq_zero, Bool.not_eq_true]

theorem isMostlyCaps_eq_false_iff {c : Composer} (h : c.Counted) :
    c.isMostlyCaps = false ↔ c.word.countP Text.isUpper ≤ 1 := by
  rw [isMostlyCaps, h, decide_eq_false_iff_not, Nat.not_lt]
  rfl

end Typeahead.Composer
