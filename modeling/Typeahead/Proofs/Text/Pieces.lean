import Mathlib.Data.List.Basic
import Typeahead.Text.Basic

/-! # Texts in pieces

A text without separators is one piece (`pieces_of_forall`). A separator ends a piece and begins the
next one (`pieces_append_cons`), and what follows the last separator belongs to the last piece
(`exists_pieces_append`). So a text without blanks is its only word (`words_of_forall`), and no word
holds a blank (`contains_blank_of_mem_words`). Pieces with their separators make up the text again
(`flatMap_pieces`). -/

namespace Typeahead.Text

variable {sep : Char → Bool} {s t : Text} {c : Char}

theorem cut_of_forall (h : ∀ a ∈ s, sep a = false) : cut sep s = (s, []) := by
  induction s with
  | nil => rfl
  | cons a s ih =>
    have ha : sep a = false := h a List.mem_cons_self
    rw [cut, ih fun b hb => h b (List.mem_cons_of_mem a hb)]
    dsimp only
    rw [ha, if_neg Bool.false_ne_true]

/-- **A text without separators** is one piece. -/
theorem pieces_of_forall (h : ∀ a ∈ s, sep a = false) : pieces sep s = [s] := by
  rw [pieces, cut_of_forall h]

theorem pieces_ne_nil (sep : Char → Bool) (s : Text) : pieces sep s ≠ [] := List.cons_ne_nil _ _

theorem cut_append_cons (hc : sep c = true) (s t : Text) :
    cut sep (s ++ c :: t) = ((cut sep s).1, (cut sep s).2 ++ pieces sep t) := by
  induction s with
  | nil =>
    show (if sep c then ([], pieces sep t) else _) = _
    rw [if_pos hc]
    rfl
  | cons a s ih =>
    rw [List.cons_append, cut, ih, cut]
    dsimp only
    split_ifs <;> rfl

/-- **A separator** ends a piece and begins the next one. -/
theorem pieces_append_cons (hc : sep c = true) (s t : Text) :
    pieces sep (s ++ c :: t) = pieces sep s ++ pieces sep t := by
  rw [pieces, cut_append_cons hc]
  rfl

/-- What follows without a separator belongs to the last piece. -/
theorem exists_pieces_append (ht : ∀ a ∈ t, sep a = false) : ∀ s : Text, ∃ before last,
    pieces sep s = before ++ [last] ∧ pieces sep (s ++ t) = before ++ [last ++ t]
  | [] => ⟨[], [], rfl, pieces_of_forall ht⟩
  | a :: s => by
    obtain ⟨before, last, hs, hst⟩ := exists_pieces_append ht s
    unfold pieces at hs hst ⊢
    rw [List.cons_append, cut, cut]
    dsimp only
    split_ifs
    · exact ⟨[] :: before, last, by rw [hs, List.cons_append], by rw [hst, List.cons_append]⟩
    · cases before with
      | nil =>
        rw [List.nil_append, List.cons.injEq] at hs hst
        exact ⟨[], a :: last, by rw [hs.1, hs.2]; rfl, by rw [hst.1, hst.2]; rfl⟩
      | cons first before =>
        rw [List.cons_append, List.cons.injEq] at hs hst
        exact ⟨(a :: first) :: before, last, by rw [hs.1, hs.2]; rfl, by rw [hst.1, hst.2]; rfl⟩

/-- **Pieces with their separators** make up the text again. -/
theorem flatMap_pieces (c : Char) (s : Text) :
    (pieces (· == c) s).flatMap (c :: ·) = c :: s := by
  induction s with
  | nil => rfl
  | cons a s ih =>
    have hcut : c :: ((cut (· == c) s).1 ++ (cut (· == c) s).2.flatMap (c :: ·)) = c :: s := ih
    have hrest := (List.cons.inj hcut).2
    unfold pieces
    rw [cut]
    dsimp only
    split_ifs with ha
    · rw [beq_iff_eq] at ha
      rw [ha]
      exact congrArg (c :: ·) ih
    · exact congrArg (fun rest => c :: a :: rest) hrest

/-- No piece holds a separator. -/
theorem sep_eq_false_of_mem_pieces : ∀ {s p : Text}, p ∈ pieces sep s → ∀ a ∈ p, sep a = false
  | [], p, hp, a, ha => by
    rw [List.mem_singleton.mp hp] at ha
    exact absurd ha List.not_mem_nil
  | b :: s, p, hp, a, ha => by
    have hrest : ∀ p ∈ pieces sep s, ∀ a ∈ p, sep a = false :=
      fun p hp => sep_eq_false_of_mem_pieces hp
    unfold pieces at hp hrest
    rw [cut] at hp
    dsimp only at hp
    split_ifs at hp with hb
    · rcases List.mem_cons.mp hp with rfl | hp
      · exact absurd ha List.not_mem_nil
      · exact hrest p hp a ha
    · rcases List.mem_cons.mp hp with rfl | hp
      · rcases List.mem_cons.mp ha with rfl | ha
        · exact Bool.eq_false_iff.mpr hb
        · exact hrest _ List.mem_cons_self a ha
      · exact hrest p (List.mem_cons_of_mem _ hp) a ha

theorem words_of_forall (hne : s ≠ []) (h : ∀ a ∈ s, isBlank a = false) : words s = [s] := by
  rw [words, fields, pieces_of_forall h]
  simpa using hne

/-- A word of a text is its own only word. -/
theorem words_of_mem_words {w : Text} (hw : w ∈ words s) : words w = [w] := by
  obtain ⟨hpiece, hne⟩ := List.mem_filter.mp hw
  exact words_of_forall (by simpa using hne) (sep_eq_false_of_mem_pieces hpiece)

theorem contains_blank_of_mem_words {w : Text} (hw : w ∈ words s) : w.contains ' ' = false := by
  have hpiece : w ∈ pieces isBlank s := (List.mem_filter.mp hw).1
  rw [← Bool.not_eq_true, List.contains_iff_mem]
  intro hmem
  exact absurd (sep_eq_false_of_mem_pieces hpiece ' ' hmem) (by decide)

end Typeahead.Text
