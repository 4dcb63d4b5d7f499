import Mathlib.Data.List.DropRight
import Typeahead.Context

/-! # Contexts that say the same

A context is read slot by slot, where a place that it does not reach reads like a slot without
information (`Context.slotAt`). Contexts say the same exactly if they read alike at all places
(`same_iff`), so that slots without information at the old end have no influence, while those
further in front have. Whatever a lookup asks of a context can be answered from its significant
slots; what is done to contexts that say the same leaves contexts that say the same. -/

namespace Typeahead

theorem Slot.eq_nothing_of_isKnown {s : Slot} (h : s.isKnown = false) : s = .nothing := by
  cases s with
  | nothing => rfl
  | sentenceStart => exact nomatch h
  | word w => exact nomatch h

/-- A slot is told by its word and by whether it is a sentence start. -/
theorem Slot.ext_iff {s t : Slot} : s = t ↔ s.word? = t.word? ∧ s.isStart = t.isStart := by
  cases s <;> cases t <;> simp [Slot.word?, Slot.isStart]

namespace Context

variable {c d : Context}

/-- What stands at a place, the newest slot being at `0`. -/
def slotAt (c : Context) (i : Nat) : Slot := c.slots[i]?.getD .nothing

/-! ### The significant slots -/

/-- Slots without information at the end are not told from the end. -/
theorem getD_append_replicate (l : List Slot) (n i : Nat) :
    (l ++ List.replicate n .nothing)[i]?.getD .nothing = l[i]?.getD .nothing := by
  rcases Nat.lt_or_ge i l.length with hi | hi
  · rw [List.getElem?_append_left hi]
  · rw [List.getElem?_append_right hi, List.getElem?_eq_none hi, List.getElem?_replicate]
    split_ifs <;> rfl

theorem significant_eq_rdropWhile (c : Context) :
    c.significant = c.slots.rdropWhile (!·.isKnown) := rfl

/-- A context is its significant slots and slots without information. -/
theorem exists_slots_eq (c : Context) :
    ∃ n, c.slots = c.significant ++ List.replicate n .nothing := by
  have hunknown : ∀ s ∈ c.slots.rtakeWhile (!·.isKnown), s = .nothing := fun s hs =>
    Slot.eq_nothing_of_isKnown (by simpa using List.mem_rtakeWhile_imp hs)
  refine ⟨(c.slots.rtakeWhile (!·.isKnown)).length, ?_⟩
  rw [← List.eq_replicate_of_mem hunknown, significant_eq_rdropWhile,
    List.rdropWhile_append_rtakeWhile]

theorem getD_significant (c : Context) (i : Nat) :
    c.significant[i]?.getD .nothing = c.slotAt i := by
  obtain ⟨n, hn⟩ := c.exists_slots_eq
  rw [slotAt, hn, getD_append_replicate]

/-- The oldest significant slot holds information. -/
theorem isKnown_getLast_significant (h : c.significant ≠ []) :
    (c.significant.getLast h).isKnown = true := by
  have hlast := List.rdropWhile_last_not (fun s : Slot => !s.isKnown) c.slots h
  rwa [Bool.not_eq_true', Bool.not_eq_false] at hlast

/-- No significant slot lies where another context reads like one without information. -/
theorem length_significant_le (h : ∀ i, c.slotAt i = d.slotAt i) :
    c.significant.length ≤ d.significant.length := by
  by_contra hlt
  rw [Nat.not_le] at hlt
  have hne : c.significant ≠ [] := List.ne_nil_of_length_pos (by omega)
  have hplace : c.slotAt (c.significant.length - 1) = c.significant.getLast hne := by
    rw [← getD_significant, ← List.getLast?_eq_getElem?, List.getLast?_eq_some_getLast hne,
      Option.getD_some]
  have hnothing : d.slotAt (c.significant.length - 1) = .nothing := by
    rw [← getD_significant, List.getElem?_eq_none (by omega), Option.getD_none]
  have hknown := isKnown_getLast_significant hne
  rw [← hplace, h, hnothing] at hknown
  exact nomatch hknown

/-- **Saying the same** is reading alike at all places. -/
theorem same_iff : c.same d = true ↔ ∀ i, c.slotAt i = d.slotAt i := by
  rw [same, beq_iff_eq]
  constructor
  · intro h i
    rw [← getD_significant, ← getD_significant, h]
  · intro h
    have hlength : c.significant.length = d.significant.length :=
      Nat.le_antisymm (length_significant_le h) (length_significant_le fun i => (h i).symm)
    refine List.ext_getElem hlength fun i hc hd => ?_
    have hi := h i
    rw [← getD_significant, ← getD_significant, List.getElem?_eq_getElem hc,
      List.getElem?_eq_getElem hd] at hi
    exact hi

/-! ### What a context is asked -/

theorem word?_succ (c : Context) (i : Nat) : c.word? (i + 1) = (c.slotAt i).word? := by
  rw [word?, slot?, if_neg (Nat.succ_ne_zero i), Nat.add_sub_cancel, slotAt]
  cases c.slots[i]? <;> rfl

theorem isStartAt_succ (c : Context) (i : Nat) : c.isStartAt (i + 1) = (c.slotAt i).isStart := by
  rw [isStartAt, slot?, if_neg (Nat.succ_ne_zero i), Nat.add_sub_cancel, slotAt]
  cases c.slots[i]? <;> rfl

theorem isKnown_eq (c : Context) : c.isKnown = (c.slotAt 0).isKnown := by
  rw [isKnown, slotAt, List.head?_eq_getElem?]
  cases c.slots[0]? <;> rfl

theorem isStart_eq (c : Context) : c.isStart = (c.slotAt 0).isStart := by
  rw [isStart, slotAt, List.head?_eq_getElem?]
  cases c.slots[0]? <;> rfl

theorem shownWords_eq (c : Context) :
    c.shownWords = c.significant.reverse.filterMap Slot.shown? := by
  obtain ⟨n, hn⟩ := c.exists_slots_eq
  rw [shownWords, hn, List.reverse_append, List.reverse_replicate, List.filterMap_append,
    List.filterMap_replicate_of_none rfl, List.nil_append]

theorem knownCount_eq (c : Context) : c.knownCount = c.significant.countP Slot.isKnown := by
  obtain ⟨n, hn⟩ := c.exists_slots_eq
  rw [knownCount, hn, List.countP_append, List.countP_replicate]
  rfl

/-- What lookups ask of a context. -/
structure ReadsLike (c d : Context) : Prop where
  flatten : c.flatten = d.flatten
  shownWords : c.shownWords = d.shownWords
  isKnown : c.isKnown = d.isKnown
  isStart : c.isStart = d.isStart
  knownCount : c.knownCount = d.knownCount
  word? : ∀ n, c.word? n = d.word? n
  isStartAt : ∀ n, c.isStartAt n = d.isStartAt n

theorem readsLike_of_same (h : c.same d = true) : ReadsLike c d := by
  have hsignificant : c.significant = d.significant := beq_iff_eq.mp h
  have hslots := same_iff.mp h
  have hshown : c.shownWords = d.shownWords := by rw [shownWords_eq, hsignificant, shownWords_eq]
  refine ⟨?_, hshown, ?_, ?_, ?_, fun n => ?_, fun n => ?_⟩
  · rw [flatten, hshown, flatten]
  · rw [isKnown_eq, hslots, isKnown_eq]
  · rw [isStart_eq, hslots, isStart_eq]
  · rw [knownCount_eq, hsignificant, knownCount_eq]
  · cases n with
    | zero => rfl
    | succ i => rw [word?_succ, hslots, word?_succ]
  · cases n with
    | zero => rfl
    | succ i => rw [isStartAt_succ, hslots, isStartAt_succ]

/-- Words and sentence starts tell contexts apart. -/
theorem same_iff_word? : c.same d = true ↔
    ∀ n, c.word? n = d.word? n ∧ c.isStartAt n = d.isStartAt n := by
  constructor
  · intro h n
    exact ⟨(readsLike_of_same h).word? n, (readsLike_of_same h).isStartAt n⟩
  · intro h
    refine same_iff.mpr fun i => Slot.ext_iff.mpr ?_
    rw [← word?_succ, ← word?_succ, ← isStartAt_succ, ← isStartAt_succ]
    exact h (i + 1)

/-! ### What is done to a context -/

theorem slotAt_next (c : Context) (s : Slot) (i : Nat) : (c.next s).slotAt i =
    if i < c.window then if i = 0 then s else c.slotAt (i - 1) else .nothing := by
  rw [slotAt, next, List.getElem?_take]
  split_ifs with hi h0
  · rw [h0]
    rfl
  · obtain ⟨j, rfl⟩ := Nat.exists_eq_succ_of_ne_zero h0
    rfl
  · rfl

theorem same_next (h : c.same d = true) (hwindow : c.window = d.window) (s : Slot) :
    (c.next s).same (d.next s) = true := by
  refine same_iff.mpr fun i => ?_
  rw [slotAt_next, slotAt_next, hwindow, same_iff.mp h]

/-- Old slots without information neither match nor stand before a match. -/
theorem changeFrom_replicate (a b : Text) (n : Nat) (l : List Slot) :
    changeFrom a b false (List.replicate n .nothing ++ l) =
      (changeFrom a b false l).map (List.replicate n .nothing ++ ·) := by
  induction n with
  | zero =>
    rw [List.replicate_zero, List.nil_append]
    exact Option.map_id'.symm
  | succ n ih =>
    rw [List.replicate_succ, List.cons_append, changeFrom, if_neg (by simp)]
    show (changeFrom a b false _).map _ = _
    rw [ih, Option.map_map]
    rfl

/-- A change concerns the significant slots only. -/
theorem exists_changeAfterStart?_eq (c : Context) : ∃ n, ∀ a b, c.changeAfterStart? a b =
    (changeFrom a b false c.significant.reverse).map fun l =>
      { c with slots := l.reverse ++ List.replicate n .nothing } := by
  obtain ⟨n, hn⟩ := c.exists_slots_eq
  refine ⟨n, fun a b => ?_⟩
  have hreverse : c.slots.reverse = List.replicate n .nothing ++ c.significant.reverse := by
    rw [hn, List.reverse_append, List.reverse_replicate]
  rw [changeAfterStart?, hreverse, changeFrom_replicate, Option.map_map]
  congr 1
  funext l
  rw [Function.comp_apply, List.reverse_append, List.reverse_replicate]

theorem changeAfterStart?_of_same (h : c.same d = true) (a b : Text) :
    (c.changeAfterStart? a b).isSome = (d.changeAfterStart? a b).isSome ∧
      ((c.changeAfterStart? a b).getD c).same ((d.changeAfterStart? a b).getD d) = true := by
  have hsignificant : c.significant = d.significant := beq_iff_eq.mp h
  obtain ⟨m, hm⟩ := c.exists_changeAfterStart?_eq
  obtain ⟨n, hn⟩ := d.exists_changeAfterStart?_eq
  rw [hm, hn, hsignificant]
  cases changeFrom a b false d.significant.reverse with
  | none => exact ⟨rfl, h⟩
  | some l =>
    refine ⟨rfl, same_iff.mpr fun i => ?_⟩
    show (l.reverse ++ _)[i]?.getD _ = (l.reverse ++ _)[i]?.getD _
    rw [getD_append_replicate, getD_append_replicate]

/-- **Contexts that say the same can stand for one another**: words and sentence starts tell apart
those that do not, and of those that do, every question has the same answer, the hash included;
changed or continued alike, they say the same again. -/
theorem same_iff_interchangeable : (c.same d = true ↔
      ∀ n, c.word? n = d.word? n ∧ c.isStartAt n = d.isStartAt n) ∧
    (c.same d = true → ReadsLike c d ∧ hash c = hash d ∧
      (∀ a b, (c.changeAfterStart? a b).isSome = (d.changeAfterStart? a b).isSome ∧
        ((c.changeAfterStart? a b).getD c).same ((d.changeAfterStart? a b).getD d) = true) ∧
      (c.window = d.window → ∀ s, (c.next s).same (d.next s) = true)) := by
  refine ⟨same_iff_word?, fun h => ⟨readsLike_of_same h, ?_, changeAfterStart?_of_same h,
    same_next h⟩⟩
  show hash c.significant = hash d.significant
  rw [beq_iff_eq.mp h]

/-- Padding at the old end, in windows of different sizes. -/
theorem same_iff_interchangeable_padded :
    let c : Context := ⟨2, [.word ['t', 'h', 'e'], .sentenceStart]⟩
    let d : Context := ⟨4, [.word ['t', 'h', 'e'], .sentenceStart, .nothing, .nothing]⟩
    c.same d = true ∧ ReadsLike c d ∧ hash c = hash d ∧
      (c.changeAfterStart? ['t', 'h', 'e'] ['T', 'h', 'e']).isSome = true ∧
      ((c.changeAfterStart? ['t', 'h', 'e'] ['T', 'h', 'e']).getD c).same
        ((d.changeAfterStart? ['t', 'h', 'e'] ['T', 'h', 'e']).getD d) = true := by
  intro c d
  have hsame : c.same d = true := by decide
  have h := same_iff_interchangeable.2 hsame
  exact ⟨hsame, h.1, h.2.1, by decide, (h.2.2.1 _ _).2⟩

end Context

end Typeahead
