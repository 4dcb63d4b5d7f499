import Mathlib.Tactic.SplitIfs
import Typeahead.Text.Case

/-! # No letter is lost

The upper-case form of a character may be several characters, but it is never empty: this holds of
the rows of the table (`upperLong_full`) and hence of every character. So a text is shown empty in
upper case, or with its first letter in upper case, only if it is empty. The same holds of lower
case (`lowerLong_full`, `lower_eq_nil_iff`). -/

namespace Typeahead.Text

/-- A mapping whose rows all name an image has no empty image. -/
theorem Rows.get?_ne_nil {t : Rows} (h : ∀ page ∈ t.pages, ∀ row ∈ page, 2 ≤ (codes row).length)
    {n : Nat} {image : List Nat} (hi : t.get? n = some image) : image ≠ [] := by
  obtain ⟨page, hpage, hfind⟩ := List.exists_of_findSome?_eq_some hi
  unfold Rows.find? at hfind
  split_ifs at hfind
  obtain ⟨row, hrow, hcodes⟩ := List.exists_of_findSome?_eq_some hfind
  have hlen := h page hpage row hrow
  split at hcodes
  next first rest hc =>
    split_ifs at hcodes
    rw [hc, List.length_cons] at hlen
    rw [← Option.some.inj hcodes]
    exact List.ne_nil_of_length_pos (by omega)
  next => exact nomatch hcodes

theorem upperLong_full : ∀ page ∈ upperLong.pages, ∀ row ∈ page, 2 ≤ (codes row).length := by
  decide +kernel

theorem upperChar_ne_nil (c : Char) : upperChar c ≠ [] := by
  by_cases hc : c.toNat < 0x80
  · rw [upperChar, if_pos hc]
    exact List.cons_ne_nil _ _
  · rw [upperChar, if_neg hc]
    split
    next image hi => simpa using Rows.get?_ne_nil upperLong_full hi
    next => exact List.cons_ne_nil _ _

theorem lowerLong_full : ∀ page ∈ lowerLong.pages, ∀ row ∈ page, 2 ≤ (codes row).length := by
  decide +kernel

theorem lowerChar_ne_nil (c : Char) : lowerChar c ≠ [] := by
  by_cases hc : c.toNat < 0x80
  · rw [lowerChar, if_pos hc]
    exact List.cons_ne_nil _ _
  · rw [lowerChar, if_neg hc]
    split
    next image hi => simpa using Rows.get?_ne_nil lowerLong_full hi
    next => exact List.cons_ne_nil _ _

theorem upper_eq_nil_iff {s : Text} : upper s = [] ↔ s = [] := by
  cases s with
  | nil => exact Iff.rfl
  | cons c s => simp [upper, upperChar_ne_nil]

theorem capitalize_eq_nil_iff {s : Text} : capitalize s = [] ↔ s = [] := by
  cases s with
  | nil => exact Iff.rfl
  | cons c s => simp [capitalize, upperChar_ne_nil]

theorem decapitalize_eq_nil_iff {s : Text} : decapitalize s = [] ↔ s = [] := by
  cases s with
  | nil => exact Iff.rfl
  | cons c s => simp [decapitalize, lowerChar_ne_nil]

theorem lower_eq_nil_iff {s : Text} : lower s = [] ↔ s = [] := by
  cases s with
  | nil => exact Iff.rfl
  | cons c s =>
    unfold lower lowerFrom
    split_ifs
    · simp
    · simp [lowerChar_ne_nil]

end Typeahead.Text
