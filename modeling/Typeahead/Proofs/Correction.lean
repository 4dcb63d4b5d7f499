import Mathlib.Tactic.SplitIfs
import Typeahead.Correction

/-! # The decision to correct

Whatever the scores, a correction is decided about one candidate, which passes the threshold
(`exists_of_corrects`), and the typed word may be replaced only if some other candidate is known or
the typed word is not (`first_or_unknown_of_allows`). -/

namespace Typeahead.CorrectionCase

variable {c : CorrectionCase}

/-- The candidate that the decision is about. -/
def applied? (c : CorrectionCase) : Option Candidate := c.first <|> c.results.items.head?

/-- **What a correction tells**: nothing forbids it, and one candidate passed the threshold and won
over the typed word. -/
theorem exists_of_corrects (h : c.decide.corrects) : c.isDisqualified = false ∧
    ∃ first, c.applied? = some first ∧ exceedsThreshold c.settings first c.considered ∧
      c.decide = c.compete first := by
  unfold decide at h ⊢
  by_cases hd : c.isDisqualified
  · simp [hd] at h
  · rw [Bool.not_eq_true] at hd
    refine ⟨hd, ?_⟩
    simp only [hd, Bool.false_eq_true, if_false] at h ⊢
    rcases hf : c.first <|> c.results.items.head? with _ | first
    · simp [hf] at h
    · simp only [hf] at h ⊢
      split_ifs at h ⊢ with ht
      exact ⟨first, hf, ht, rfl⟩

theorem first_or_unknown_of_allows (h : c.allows.1) : c.first.isSome ∨ c.typedInfo.isNone := by
  unfold allows at h
  rcases hf : c.first with _ | first
  · simp only [hf] at h
    split_ifs at h with h1
    simp only [Option.any_none, Bool.false_or, Bool.and_eq_true] at h1
    exact .inr h1.2
  · exact .inl rfl

theorem of_isDisqualified_eq_false (h : c.isDisqualified = false) :
    c.allows.1 ∧ c.composer.word ≠ [] ∧ c.results.items ≠ [] := by
  simp only [isDisqualified, Bool.or_eq_false_iff, Bool.not_eq_false', List.isEmpty_eq_false_iff,
    Composer.isComposing, Bool.not_eq_true'] at h
  exact ⟨h.1.1.1.1.1.1.1.2, h.1.1.1.1.1.1.2, h.1.1.1.1.1.2⟩

end Typeahead.CorrectionCase
