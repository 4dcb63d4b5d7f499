import Mathlib.Data.List.Basic
import Typeahead.Proofs.Candidate.Rank
import Typeahead.Ranking

/-! # Rankings keep the best

A ranking is filled by insertion: a candidate goes behind all that precede it, and a full ranking
gives up its last item first. Both choices are right only because the items are sorted, so the
invariant `Ordered` comes first: items sorted strictly, words distinct, at most `capacity` items.

* `items_add`: adding a new word is insertion followed by cutting to the capacity;
* `take_foldl_insert`: cutting after every insertion or only at the end is the same, which is why no
  candidate that was given up is missed later;
* `foldl_insert_eq_mergeSort`: insertion one by one sorts;
* `items_addAll_eq_best`: adding new words leaves the best of the old and the new ones, in whatever
  order they come;
* `Ordered.changes`: the invariant holds after any changes. -/

namespace Typeahead.Ranking

open Candidate (Precedes comesFirst)

/-! ### Insertion -/

theorem insert_perm (c : Candidate) : ∀ cs : List Candidate, (insert c cs).Perm (c :: cs)
  | [] => List.Perm.refl _
  | d :: cs => by
    unfold insert
    split_ifs with h
    · exact List.Perm.refl _
    · exact ((insert_perm c cs).cons d).trans (List.Perm.swap c d cs)

theorem mem_insert {c d : Candidate} {cs : List Candidate} : d ∈ insert c cs ↔ d = c ∨ d ∈ cs := by
  rw [(insert_perm c cs).mem_iff, List.mem_cons]

theorem length_insert (c : Candidate) (cs : List Candidate) :
    (insert c cs).length = cs.length + 1 := (insert_perm c cs).length_eq

/-- Inserting a new word keeps a list sorted. -/
theorem sorted_insert {c : Candidate} : ∀ {cs : List Candidate}, cs.Pairwise Precedes →
    (∀ d ∈ cs, d.word ≠ c.word) → (insert c cs).Pairwise Precedes
  | [], _, _ => List.pairwise_singleton _ _
  | d :: cs, hs, hw => by
    obtain ⟨hd, hs'⟩ := List.pairwise_cons.mp hs
    unfold insert
    split_ifs with h
    · have hcd : c.Precedes d := Candidate.rank_eq_gt_iff.mp h
      refine List.pairwise_cons.mpr ⟨fun e he => ?_, hs⟩
      rcases List.mem_cons.mp he with rfl | he
      · exact hcd
      · exact hcd.trans (hd e he)
    · have hdc : d.Precedes c := (Precedes.total (hw d (by simp))).resolve_right
        fun h' => h (Candidate.rank_eq_gt_iff.mpr h')
      refine List.pairwise_cons.mpr
        ⟨fun e he => ?_, sorted_insert hs' fun e he => hw e (by simp [he])⟩
      rcases mem_insert.mp he with rfl | he
      · exact hdc
      · exact hd e he

/-- A candidate that all others precede goes to the end. -/
theorem insert_eq_append {c : Candidate} : ∀ {cs : List Candidate}, (∀ d ∈ cs, d.Precedes c) →
    insert c cs = cs ++ [c]
  | [], _ => rfl
  | d :: cs, h => by
    have hd : d.rank c ≠ .gt := by rw [h d (by simp)]; decide
    rw [insert, if_neg hd, insert_eq_append fun e he => h e (by simp [he]), List.cons_append]

/-- A candidate that precedes the last one leaves it last. -/
theorem insert_append_of_precedes {c last : Candidate} (h : c.Precedes last) :
    ∀ cs : List Candidate, insert c (cs ++ [last]) = insert c cs ++ [last]
  | [] => by
    have hl : last.rank c = .gt := Candidate.rank_eq_gt_iff.mpr h
    simp [insert, hl]
  | d :: cs => by
    have ih := insert_append_of_precedes h cs
    simp only [List.cons_append, insert, ih]
    split_ifs <;> rfl

/-- What an insertion leaves within the first `k` depends on the first `k` only. -/
theorem take_insert_take (c : Candidate) : ∀ (k : Nat) (cs : List Candidate),
    (insert c (cs.take k)).take k = (insert c cs).take k
  | 0, _ => by simp
  | k + 1, [] => by simp
  | k + 1, d :: cs => by
    have ih := take_insert_take c k cs
    simp only [List.take_succ_cons, insert]
    split_ifs
    · rw [List.take_succ_cons, List.take_succ_cons]
      cases k <;> simp [List.take_take]
    · rw [List.take_succ_cons, List.take_succ_cons, ih]

/-- **No loss by cutting early**: cutting before the insertions changes nothing within the cut. -/
theorem take_foldl_insert (k : Nat) : ∀ (cs l : List Candidate),
    (cs.foldl (fun l c => insert c l) (l.take k)).take k =
      (cs.foldl (fun l c => insert c l) l).take k
  | [], l => by simp [List.take_take]
  | c :: cs, l => by
    rw [List.foldl_cons, List.foldl_cons, ← take_foldl_insert k cs (insert c (l.take k)),
      take_insert_take, take_foldl_insert k cs]

/-! ### Sorting -/

/-- The best `k` of some candidates, in order. -/
def best (k : Nat) (cs : List Candidate) : List Candidate := (cs.mergeSort comesFirst).take k

/-- Candidates of distinct words, sorted, precede one another strictly. -/
theorem pairwise_mergeSort {cs : List Candidate} (h : (cs.map (·.word)).Nodup) :
    (cs.mergeSort comesFirst).Pairwise Precedes := by
  have hs := List.pairwise_mergeSort Candidate.comesFirst_trans Candidate.comesFirst_total cs
  have hw : ((cs.mergeSort comesFirst).map (·.word)).Nodup :=
    ((List.mergeSort_perm cs comesFirst).map _).nodup_iff.mpr h
  exact (hs.and (List.pairwise_map.mp hw)).imp fun h => Candidate.precedes_of_comesFirst h.1 h.2

/-- There is one way to sort candidates of distinct words. -/
theorem eq_mergeSort {l cs : List Candidate} (hs : l.Pairwise Precedes) (hp : l.Perm cs)
    (hw : (cs.map (·.word)).Nodup) : l = cs.mergeSort comesFirst :=
  List.Perm.eq_of_pairwise (fun _ _ _ _ hab hba => absurd hba hab.asymm) hs
    (pairwise_mergeSort hw) (hp.trans (List.mergeSort_perm cs comesFirst).symm)

theorem foldl_insert_perm : ∀ cs l : List Candidate,
    (cs.foldl (fun l c => insert c l) l).Perm (l ++ cs)
  | [], l => by simp
  | c :: cs, l => by
    have h : (insert c l ++ cs).Perm (l ++ c :: cs) :=
      ((insert_perm c l).append_right cs).trans List.perm_middle.symm
    exact (foldl_insert_perm cs (insert c l)).trans h

theorem sorted_foldl_insert : ∀ {cs l : List Candidate}, l.Pairwise Precedes →
    ((l ++ cs).map (·.word)).Nodup → (cs.foldl (fun l c => insert c l) l).Pairwise Precedes
  | [], _, hs, _ => hs
  | c :: cs, l, hs, hw => by
    have hp : (insert c l ++ cs).Perm (l ++ c :: cs) :=
      ((insert_perm c l).append_right cs).trans List.perm_middle.symm
    refine sorted_foldl_insert (l := insert c l) (sorted_insert hs fun d hd hdc => ?_)
      ((hp.map _).nodup_iff.mpr hw)
    rw [List.map_append, List.map_cons] at hw
    exact (List.nodup_append.mp hw).2.2 _ (List.mem_map_of_mem hd) _ List.mem_cons_self hdc

/-- **Insertion sorts**: new words inserted one by one into a sorted list. -/
theorem foldl_insert_eq_mergeSort {cs l : List Candidate} (hs : l.Pairwise Precedes)
    (hw : ((l ++ cs).map (·.word)).Nodup) :
    cs.foldl (fun l c => insert c l) l = (l ++ cs).mergeSort comesFirst :=
  eq_mergeSort (sorted_foldl_insert hs hw) (foldl_insert_perm cs l) hw

/-! ### The invariant -/

/-- **The invariant**: the items are strictly sorted, of distinct words, and within the capacity. -/
structure Ordered (r : Ranking) : Prop where
  sorted : r.items.Pairwise Precedes
  distinct : (r.items.map (·.word)).Nodup
  bounded : r.items.length ≤ r.capacity

theorem contains_eq_false {r : Ranking} {w : Text} :
    r.contains w = false ↔ ∀ d ∈ r.items, d.word ≠ w := by
  simp [contains]

/-- **Adding a new word** is insertion followed by cutting to the capacity. -/
theorem items_add {r : Ranking} (h : r.Ordered) {c : Candidate}
    (hc : r.contains c.word = false) :
    (r.add c).items = (insert c r.items).take r.capacity := by
  rcases Nat.lt_or_ge r.items.length r.capacity with hlt | hge
  · have hr : r.refuses c = false := by
      simp only [refuses, hc, Bool.or_false, Bool.or_eq_false_iff, Bool.and_eq_false_iff,
        beq_eq_false_iff_ne, decide_eq_false_iff_not]
      omega
    simp only [add, hr, Bool.false_eq_true, if_false, if_neg (Nat.not_le.mpr hlt)]
    rw [List.take_of_length_le (by rw [length_insert]; omega)]
  · have hlen : r.items.length = r.capacity := Nat.le_antisymm h.bounded hge
    rcases List.eq_nil_or_concat r.items with hnil | ⟨init, last, hcat⟩
    · have hcap : r.capacity = 0 := by rw [← hlen, hnil]; rfl
      have hr : r.refuses c = true := by simp [refuses, hcap]
      rw [add, if_pos hr, hnil, hcap, List.take_zero]
    · rw [List.concat_eq_append] at hcat
      have hcap : r.capacity = init.length + 1 := by rw [← hlen, hcat]; simp
      have hlast : last ∈ r.items := by rw [hcat]; simp
      have hne : c.word ≠ last.word := fun he => contains_eq_false.mp hc last hlast he.symm
      rcases Precedes.total hne with hcl | hlc
      · -- the last item gives way
        have hr : r.refuses c = false := by
          have hcl' : c.rank last = .lt := hcl
          simp [refuses, hc, hcat, hcl', hcap]
        simp only [add, hr, Bool.false_eq_true, if_false, if_pos hge]
        rw [hcat, List.dropLast_concat, insert_append_of_precedes hcl, hcap,
          List.take_left' (length_insert c init)]
      · -- the candidate would be the last one
        have hr : r.refuses c = true := by
          have hcl : c.rank last = .gt := Candidate.rank_eq_gt_iff.mpr hlc
          simp [refuses, hcat, hcl, hcap]
        have hall : ∀ d ∈ r.items, d.Precedes c := by
          intro d hd
          have hs := h.sorted
          rw [hcat] at hd hs
          rcases List.mem_append.mp hd with hd | hd
          · exact ((List.pairwise_append.mp hs).2.2 d hd last (by simp)).trans hlc
          · rw [List.mem_singleton.mp hd]; exact hlc
        rw [add, if_pos hr, insert_eq_append hall, List.take_left' hlen]

/-- Adding a word that is there already changes nothing. -/
theorem add_of_contains {r : Ranking} {c : Candidate} (hc : r.contains c.word = true) :
    r.add c = r := by
  rw [add, if_pos (by simp [refuses, hc])]

theorem capacity_add (r : Ranking) (c : Candidate) : (r.add c).capacity = r.capacity := by
  unfold add; split_ifs <;> rfl

theorem Ordered.add {r : Ranking} (h : r.Ordered) (c : Candidate) : (r.add c).Ordered := by
  by_cases hc : r.contains c.word = true
  · rw [add_of_contains hc]; exact h
  · have hc' : r.contains c.word = false := by simpa using hc
    have hw : ∀ d ∈ r.items, d.word ≠ c.word := contains_eq_false.mp hc'
    have hi := items_add h hc'
    have hd : ((insert c r.items).map (·.word)).Nodup := by
      rw [((insert_perm c r.items).map _).nodup_iff, List.map_cons, List.nodup_cons]
      exact ⟨fun hm => by obtain ⟨d, hd, hdc⟩ := List.mem_map.mp hm; exact hw d hd hdc, h.distinct⟩
    refine ⟨?_, ?_, ?_⟩
    · rw [hi]; exact (sorted_insert h.sorted hw).sublist (List.take_sublist _ _)
    · rw [hi]; exact hd.sublist ((List.take_sublist _ _).map _)
    · rw [hi, capacity_add]; exact List.length_take_le _ _

theorem capacity_addAll : ∀ (cs : List Candidate) (r : Ranking),
    (r.addAll cs).capacity = r.capacity
  | [], _ => rfl
  | c :: cs, r => (capacity_addAll cs (r.add c)).trans (capacity_add r c)

theorem Ordered.addAll {r : Ranking} (h : r.Ordered) (cs : List Candidate) :
    (r.addAll cs).Ordered := by
  induction cs generalizing r with
  | nil => exact h
  | cons c cs ih => exact ih (h.add c)

/-- A part of the items keeps the invariant. -/
theorem Ordered.of_sublist {r : Ranking} (h : r.Ordered) {l : List Candidate}
    (hl : l.Sublist r.items) : ({ r with items := l } : Ranking).Ordered :=
  ⟨h.sorted.sublist hl, h.distinct.sublist (hl.map _), Nat.le_trans hl.length_le h.bounded⟩

theorem Ordered.remove {r : Ranking} (h : r.Ordered) (w : Text) : (r.remove w).Ordered :=
  h.of_sublist List.eraseP_sublist

theorem Ordered.retain {r : Ranking} (h : r.Ordered) (p : Candidate → Bool) :
    (r.retain p).Ordered := h.of_sublist List.filter_sublist

/-- **Adding new words** one after another is inserting them all and cutting once. -/
theorem items_addAll : ∀ {cs : List Candidate} {r : Ranking}, r.Ordered →
    ((r.items ++ cs).map (·.word)).Nodup →
    (r.addAll cs).items = (cs.foldl (fun l c => insert c l) r.items).take r.capacity
  | [], r, h, _ => (List.take_of_length_le h.bounded).symm
  | c :: cs, r, h, hw => by
    have hp : (insert c r.items ++ cs).Perm (r.items ++ c :: cs) :=
      ((insert_perm c r.items).append_right cs).trans List.perm_middle.symm
    have hc : r.contains c.word = false := by
      rw [List.map_append, List.map_cons] at hw
      exact contains_eq_false.mpr fun d hd hdc => (List.nodup_append.mp hw).2.2 _
        (List.mem_map_of_mem hd) _ List.mem_cons_self hdc
    have hi := items_add h hc
    have hw' : (((r.add c).items ++ cs).map (·.word)).Nodup := by
      refine ((hp.map _).nodup_iff.mpr hw).sublist (List.Sublist.map _ ?_)
      rw [hi]
      exact (List.take_sublist _ _).append_right cs
    show ((r.add c).addAll cs).items = _
    rw [items_addAll (h.add c) hw', capacity_add, hi, take_foldl_insert, List.foldl_cons]

/-- **The best stay**: new words added to a ranking leave the best of the old and the new ones. -/
theorem items_addAll_eq_best {r : Ranking} (h : r.Ordered) {cs : List Candidate}
    (hw : ((r.items ++ cs).map (·.word)).Nodup) :
    (r.addAll cs).items = best r.capacity (r.items ++ cs) := by
  rw [items_addAll h hw, foldl_insert_eq_mergeSort h.sorted hw, best]

/-! ### Runs -/

/-- The ranking before anything is offered. -/
def new (capacity : Nat) (atStart : Bool) : Ranking := { capacity, atStart }

/-- What can be done to a ranking. Its words being distinct, a predicate can cut it to any part. -/
inductive Change where
  | add (c : Candidate)
  | addAll (cs : List Candidate)
  | remove (w : Text)
  | retain (p : Candidate → Bool)

/-- The ranking after a change. -/
def change (r : Ranking) : Change → Ranking
  | .add c => r.add c
  | .addAll cs => r.addAll cs
  | .remove w => r.remove w
  | .retain p => r.retain p

/-- The ranking after several changes. -/
def changes (r : Ranking) (xs : List Change) : Ranking := xs.foldl change r

theorem ordered_new (capacity : Nat) (atStart : Bool) : (new capacity atStart).Ordered :=
  ⟨List.Pairwise.nil, List.nodup_nil, Nat.zero_le _⟩

theorem Ordered.change {r : Ranking} (h : r.Ordered) (x : Change) : (r.change x).Ordered := by
  cases x with
  | add c => exact h.add c
  | addAll cs => exact h.addAll cs
  | remove w => exact h.remove w
  | retain p => exact h.retain p

theorem capacity_change (r : Ranking) (x : Change) : (r.change x).capacity = r.capacity := by
  cases x with
  | add c => exact capacity_add r c
  | addAll cs => exact capacity_addAll cs r
  | remove w => rfl
  | retain p => rfl

theorem Ordered.changes {r : Ranking} (h : r.Ordered) (xs : List Change) :
    (r.changes xs).Ordered := by
  induction xs generalizing r with
  | nil => exact h
  | cons x xs ih => exact ih (h.change x)

theorem capacity_changes : ∀ (xs : List Change) (r : Ranking),
    (r.changes xs).capacity = r.capacity
  | [], _ => rfl
  | x :: xs, r => (capacity_changes xs (r.change x)).trans (capacity_change r x)

/-- **Order and choice**: whatever was done to a ranking, its items are strictly sorted, of distinct
words and within the capacity; and new words of distinct candidates, offered in any order, leave the
best of the old and the new ones. -/
theorem ordered_and_best (capacity : Nat) (atStart : Bool) (xs : List Change) :
    let r := (new capacity atStart).changes xs
    r.items.Pairwise (fun a b => a.rank b = .lt) ∧ (r.items.map (·.word)).Nodup ∧
      r.items.length ≤ capacity ∧
      ∀ cs : List Candidate, (cs.map (·.word)).Nodup → (∀ c ∈ cs, r.contains c.word = false) →
        ∀ ds : List Candidate, ds.Perm cs →
          (r.addAll ds).items = ((r.items ++ cs).mergeSort comesFirst).take capacity := by
  intro r
  have h : r.Ordered := (ordered_new capacity atStart).changes xs
  have hcap : r.capacity = capacity := capacity_changes xs _
  refine ⟨h.sorted, h.distinct, le_of_le_of_eq h.bounded hcap, fun cs hcs hnew ds hd => ?_⟩
  have hw : ((r.items ++ cs).map (·.word)).Nodup := by
    rw [List.map_append, List.nodup_append]
    refine ⟨h.distinct, hcs, ?_⟩
    rintro _ ha _ hb rfl
    obtain ⟨d, hdr, hdw⟩ := List.mem_map.mp ha
    obtain ⟨c, hc, hcw⟩ := List.mem_map.mp hb
    exact contains_eq_false.mp (hnew c hc) d hdr (hdw.trans hcw.symm)
  have hp : (r.items ++ ds).Perm (r.items ++ cs) := hd.append_left r.items
  have hw' : ((r.items ++ ds).map (·.word)).Nodup := (hp.map _).nodup_iff.mpr hw
  rw [items_addAll_eq_best h hw', hcap, best,
    eq_mergeSort (pairwise_mergeSort hw') ((List.mergeSort_perm _ _).trans hp) hw]

/-- A full ranking after a removal: of two new words the better one finds a place, in either
order. -/
theorem ordered_and_best_after_removal :
    let c (w : Char) (score : Int) : Candidate := ⟨[w], [], score, ⟨Kind.correction⟩, ⟨.main, none⟩⟩
    let xs : List Change := [.addAll [c 'a' 1, c 'b' 2, c 'd' 4], .remove ['b'], .add (c 'e' 5)]
    let r := (new 2 false).changes xs
    let cs := [c 'f' 3, c 'g' 9]
    (cs.map (·.word)).Nodup ∧ (∀ d ∈ cs, r.contains d.word = false) ∧ cs.reverse.Perm cs ∧
      r.items = [c 'e' 5, c 'd' 4] ∧
      (r.addAll cs.reverse).items = ((r.items ++ cs).mergeSort comesFirst).take 2 := by
  intro c xs r cs
  have hcs : (cs.map (·.word)).Nodup := by decide
  have hnew : ∀ d ∈ cs, r.contains d.word = false := by decide
  exact ⟨hcs, hnew, List.reverse_perm cs, by decide,
    (ordered_and_best 2 false xs).2.2.2 cs hcs hnew cs.reverse (List.reverse_perm cs)⟩

end Typeahead.Ranking
