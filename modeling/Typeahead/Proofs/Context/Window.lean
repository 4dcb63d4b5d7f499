import Typeahead.Proofs.Context.Change

/-! # The window of a context

A context holds the newest of what it was given, as much as its window takes. So a context that goes
on with several slots, one after another, is cut once: the new slots, the latest in front, and behind
them what there was (`Built.foldl_next`). No context that is made, continued or changed has more
slots than its window (`Built.length_le`). -/

namespace Typeahead.Context

variable {m : Nat} {c d : Context}

/-- The contexts with a window of size `m`, by how they come about. -/
inductive Built (m : Nat) : Context → Prop
  | ofSlots (slots : List Slot) : Built m (ofSlots m slots)
  | next {c : Context} (h : Built m c) (s : Slot) : Built m (c.next s)
  | change {c d : Context} {a b : Text} (h : Built m c) (hd : c.changeAfterStart? a b = some d) :
      Built m d

/-! ### One step -/

/-- A step keeps at most the window. -/
theorem length_next (c : Context) (s : Slot) :
    (c.next s).slots.length = min c.window (c.slots.length + 1) := by
  rw [next, List.length_take, List.length_cons]

/-- A change keeps the window and the number of slots. -/
theorem fits_changeAfterStart? {a b : Text} (h : c.changeAfterStart? a b = some d) :
    d.window = c.window ∧ d.slots.length = c.slots.length := by
  obtain ⟨i, -, rfl⟩ := exists_isGreatest_of_changeAfterStart? h
  exact ⟨rfl, List.length_set⟩

/-! ### All steps -/

theorem Built.window_eq (h : Built m c) : c.window = m := by
  induction h with
  | ofSlots slots => rfl
  | next h s ih => exact ih
  | change h hd ih => rw [(fits_changeAfterStart? hd).1, ih]

/-- **The window holds**: no context has more slots than its window. -/
theorem Built.length_le (h : Built m c) : c.slots.length ≤ m := by
  induction h with
  | ofSlots slots => exact List.length_take_le m slots
  | next h s ih =>
    rw [length_next, h.window_eq]
    exact Nat.min_le_left _ _
  | change h hd ih => rwa [(fits_changeAfterStart? hd).2]

/-- A part that is cut before the whole is cut to the same size may as well be left whole. -/
theorem take_append_take (m : Nat) (l l' : List Slot) :
    (l ++ l'.take m).take m = (l ++ l').take m := by
  rw [List.take_append, List.take_append, List.take_take, Nat.min_eq_left (Nat.sub_le _ _)]

/-- **Cut once**: what is left after several steps is cut from all slots together. -/
theorem Built.foldl_next (h : Built m c) (ss : List Slot) :
    ss.foldl Context.next c = ⟨m, (ss.reverse ++ c.slots).take m⟩ := by
  induction ss generalizing c with
  | nil =>
    rw [List.foldl_nil, List.reverse_nil, List.nil_append, List.take_of_length_le h.length_le,
      ← h.window_eq]
  | cons s ss ih =>
    have hslots : (c.next s).slots = (s :: c.slots).take m := by rw [Context.next, h.window_eq]
    rw [List.foldl_cons, ih (h.next s), hslots, take_append_take, List.reverse_cons,
      List.append_assoc, List.singleton_append]

/-- **A context forgets**: once as many slots have come as the window takes, nothing is left of what
was there before. -/
theorem Built.foldl_next_eq (hc : Built m c) (hd : Built m d) {ss : List Slot}
    (hss : m ≤ ss.length) : ss.foldl Context.next c = ss.foldl Context.next d := by
  have hnew : m ≤ ss.reverse.length := by rwa [List.length_reverse]
  rw [hc.foldl_next, hd.foldl_next, List.take_append_of_le_length hnew,
    List.take_append_of_le_length hnew]

/-- **What the window shows**: a context never has more slots than its window, and after several
steps it has the newest of all slots together, the new ones in front, in a window of the same
size. -/
theorem newest_in_window (h : Built m c) (ss : List Slot) :
    c.slots.length ≤ m ∧ ss.foldl next c = ⟨m, (ss.reverse ++ c.slots).take m⟩ :=
  ⟨h.length_le, h.foldl_next ss⟩

/-- A full context after a change goes on with a sentence start and a word. -/
theorem newest_in_window_changed :
    let c : Context := ⟨3, [.word "so".toList, .sentenceStart, .word "end".toList]⟩
    let d : Context := ⟨3, [.word "So".toList, .sentenceStart, .word "end".toList]⟩
    c.changeAfterStart? "so".toList "So".toList = some d ∧ Built 3 d ∧ d.slots.length ≤ 3 ∧
      [Slot.sentenceStart, .word "a".toList].foldl next d =
        ⟨3, [.word "a".toList, .sentenceStart, .word "So".toList]⟩ := by
  intro c d
  have hchange : c.changeAfterStart? "so".toList "So".toList = some d := by decide
  have hc : Built 3 c := .ofSlots c.slots
  have hd : Built 3 d := hc.change hchange
  obtain ⟨hlength, hsteps⟩ := newest_in_window hd [.sentenceStart, .word "a".toList]
  exact ⟨hchange, hd, hlength, hsteps.trans (by decide)⟩

end Typeahead.Context
