import Mathlib.Order.Bounds.Basic
import Typeahead.Proofs.Context.AfterStart

/-! # The place of a change

A word opens a sentence at a place if it stands there and the slot behind it, which is the next
older one, is a sentence start (`OpensAt`). A change is made at the oldest such place, where the new
word is put in, and nowhere else (`exists_isGreatest_of_changeOldest`); without such a place nothing
is changed (`changed_at_oldest_place`). -/

namespace Typeahead

theorem Slot.isStart_iff {s : Slot} : s.isStart = true ↔ s = .sentenceStart := by
  cases s <;> simp [Slot.isStart]

namespace Context

variable {a b : Text} {s : Slot} {older l l' : List Slot} {c : Context}

/-- The word opens a sentence at a place of slots given newest first. A sentence start itself counts
as the empty word. -/
def OpensAt (a : Text) (l : List Slot) (i : Nat) : Prop :=
  l[i]?.bind Slot.word? = some a ∧ l[i + 1]? = some .sentenceStart

/-! ### One more slot -/

theorem opensAt_zero : OpensAt a (s :: older) 0 ↔ opensWith a s older = true := by
  have hfirst : startsFirst older = true ↔ older[0]? = some .sentenceStart := by
    rw [startsFirst, Option.any_eq_true, List.head?_eq_getElem?]
    simp [Slot.isStart_iff]
  rw [opensWith, Bool.and_eq_true, decide_eq_true_iff, hfirst, and_comm]
  rfl

theorem opensAt_succ {i : Nat} : OpensAt a (s :: older) (i + 1) ↔ OpensAt a older i := .rfl

theorem not_opensAt_nil (a : Text) (i : Nat) : ¬ OpensAt a [] i := fun h => nomatch h.1

/-- The oldest place stays the oldest when a slot is put in front. -/
theorem isGreatest_opensAt_succ {i : Nat} (h : IsGreatest {i | OpensAt a older i} i) :
    IsGreatest {i | OpensAt a (s :: older) i} (i + 1) := by
  refine ⟨h.1, fun j hj => ?_⟩
  cases j with
  | zero => exact Nat.zero_le _
  | succ j => exact Nat.succ_le_succ (h.2 hj)

/-- Where no sentence is opened, there is no place. -/
theorem openings_eq_zero_iff : openings a l = 0 ↔ ∀ i, ¬ OpensAt a l i := by
  induction l with
  | nil => exact iff_of_true rfl (not_opensAt_nil a)
  | cons s older ih =>
    rw [openings, ← Nat.and_forall_add_one, opensAt_zero]
    simp only [opensAt_succ, ← ih]
    cases opensWith a s older <;> simp

/-! ### The oldest place -/

theorem not_opensAt_of_changeOldest (h : changeOldest a b l = none) (i : Nat) : ¬ OpensAt a l i :=
  openings_eq_zero_iff.mp (changeOldest_eq_none_iff.mp h) i

/-- What a change leaves has the new word at the oldest place. -/
theorem exists_isGreatest_of_changeOldest (h : changeOldest a b l = some l') :
    ∃ i, IsGreatest {i | OpensAt a l i} i ∧ l' = l.set i (.word b) := by
  induction l generalizing l' with
  | nil => exact nomatch h
  | cons s older ih =>
    rw [changeOldest] at h
    split at h
    · next older' hc =>
      obtain rfl := Option.some.inj h
      obtain ⟨i, hi, rfl⟩ := ih hc
      exact ⟨i + 1, isGreatest_opensAt_succ hi, rfl⟩
    · next hc =>
      split_ifs at h with hopens
      obtain rfl := Option.some.inj h
      refine ⟨0, ⟨opensAt_zero.mpr hopens, fun j hj => ?_⟩, rfl⟩
      cases j with
      | zero => exact Nat.le_refl 0
      | succ j => exact absurd hj (not_opensAt_of_changeOldest hc j)

/-! ### Changing a context -/

theorem not_opensAt_of_changeAfterStart? (h : c.changeAfterStart? a b = none) (i : Nat) :
    ¬ OpensAt a c.slots i := by
  rw [changeAfterStart?_eq, Option.map_eq_none_iff] at h
  exact not_opensAt_of_changeOldest h i

theorem exists_isGreatest_of_changeAfterStart? {d : Context} (h : c.changeAfterStart? a b = some d) :
    ∃ i, IsGreatest {i | OpensAt a c.slots i} i ∧
      d = { c with slots := c.slots.set i (.word b) } := by
  rw [changeAfterStart?_eq, Option.map_eq_some_iff] at h
  obtain ⟨l, hl, rfl⟩ := h
  obtain ⟨i, hi, rfl⟩ := exists_isGreatest_of_changeOldest hl
  exact ⟨i, hi, rfl⟩

/-- **What a change does**: there is one exactly if the word opens some sentence; it puts the new
word in at the oldest such place and leaves every other slot as it was; without it the context is
what it was. -/
theorem changed_at_oldest_place (c : Context) (a b : Text) :
    let d := (c.changeAfterStart? a b).getD c
    ((c.changeAfterStart? a b).isSome = true ↔ ∃ i, OpensAt a c.slots i) ∧
      ((c.changeAfterStart? a b).isSome = true → ∃ i,
        IsGreatest {i | OpensAt a c.slots i} i ∧
          d = { c with slots := c.slots.set i (.word b) }) ∧
      ((c.changeAfterStart? a b).isSome = false → d = c) := by
  intro d
  have hd : d = (c.changeAfterStart? a b).getD c := rfl
  rcases hc : c.changeAfterStart? a b with _ | e
  · have hnowhere := not_opensAt_of_changeAfterStart? hc
    rw [hc] at hd
    exact ⟨by simpa using hnowhere, nofun, fun _ => hd⟩
  · obtain ⟨i, hi, he⟩ := exists_isGreatest_of_changeAfterStart? hc
    rw [hc] at hd
    exact ⟨iff_of_true rfl ⟨i, hi.1⟩, fun _ => ⟨i, hi, hd.trans he⟩, nofun⟩

/-- The word stands in five places, in two of them right after a sentence start. -/
theorem changed_at_oldest_place_of_two :
    let so : Slot := .word "so".toList
    let c : Context := ⟨9, [so, .nothing, so, .sentenceStart, so, .nothing, so, .sentenceStart, so]⟩
    let d : Context := ⟨9, [so, .nothing, so, .sentenceStart, so, .nothing, .word "So".toList,
      .sentenceStart, so]⟩
    (c.changeAfterStart? "so".toList "So".toList).isSome = true ∧
      ∃ i, IsGreatest {i | OpensAt "so".toList c.slots i} i ∧
        d = { c with slots := c.slots.set i (.word "So".toList) } := by
  intro so c d
  have hsome : (c.changeAfterStart? "so".toList "So".toList).isSome = true := by decide
  have hd : (c.changeAfterStart? "so".toList "So".toList).getD c = d := by decide
  exact ⟨hsome, hd ▸ (changed_at_oldest_place c _ _).2.1 hsome⟩

end Context

end Typeahead
