import Mathlib.Data.List.Perm.Basic
import Typeahead.Proofs.Ranking.Best

/-! # Merging candidates in any order

Dictionaries report their candidates in no particular order, so a ranking should not depend on it.
New words may come in any order (`addAll_perm`). A word that the ranking holds already is ignored,
but only as long as it is held: once it has been given up for better words, a later candidate of the
same word may enter. The order does not matter exactly if, after all new words are in, none of the
candidates would be taken any more (`merge_perm_iff`).

* `addAll_eq_of_refuses`: if so, every order ends with the new words alone.
* `Ordered.beyond_add`, `Beyond.addAll`: a candidate that is taken then pushes out the last one for
  good, and the order in which it comes last ends differently. -/

namespace Typeahead.Ranking

open Candidate (Precedes comesFirst)

variable {r : Ranking} {c d : Candidate} {cs ds : List Candidate}

/-! ### New words -/

theorem add_eq (r : Ranking) (c : Candidate) : r.add c = { r with items := (r.add c).items } := by
  unfold add
  split_ifs <;> rfl

theorem addAll_eq : ∀ (cs : List Candidate) (r : Ranking),
    r.addAll cs = { r with items := (r.addAll cs).items }
  | [], _ => rfl
  | c :: cs, r => by
    have h := addAll_eq cs (r.add c)
    rw [add_eq r c] at h
    rw [addAll, List.foldl_cons, ← addAll, add_eq r c]
    exact h

theorem addAll_append (r : Ranking) (cs ds : List Candidate) :
    r.addAll (cs ++ ds) = (r.addAll cs).addAll ds := List.foldl_append

theorem best_perm {k : Nat} (hw : (cs.map (·.word)).Nodup) (hp : ds.Perm cs) :
    best k ds = best k cs := by
  have hw' : (ds.map (·.word)).Nodup := (hp.map _).nodup_iff.mpr hw
  rw [best, best, eq_mergeSort (pairwise_mergeSort hw') ((List.mergeSort_perm _ _).trans hp) hw]

/-- **New words may come in any order.** -/
theorem addAll_perm (h : r.Ordered) (hw : ((r.items ++ cs).map (·.word)).Nodup) (hp : ds.Perm cs) :
    r.addAll ds = r.addAll cs := by
  have hp' : (r.items ++ ds).Perm (r.items ++ cs) := hp.append_left r.items
  rw [addAll_eq ds, addAll_eq cs, items_addAll_eq_best h ((hp'.map _).nodup_iff.mpr hw),
    items_addAll_eq_best h hw, best_perm hw hp']

/-! ### Refusals -/

theorem add_of_refuses (h : r.refuses c = true) : r.add c = r := if_pos h

theorem mem_items_add (hd : d ∈ (r.add c).items) : d = c ∨ d ∈ r.items := by
  unfold add at hd
  split_ifs at hd
  · exact .inr hd
  · exact (mem_insert.mp hd).imp_right fun hd => (List.dropLast_sublist _).subset hd
  · exact mem_insert.mp hd

theorem contains_add_eq_false {w : Text} (hr : r.contains w = false) (hc : c.word ≠ w) :
    (r.add c).contains w = false := by
  refine contains_eq_false.mpr fun d hd => ?_
  rcases mem_items_add hd with rfl | hd
  · exact hc
  · exact contains_eq_false.mp hr d hd

/-- A full ranking refuses what all its items precede. -/
theorem refuses_of_precedes (hfull : r.capacity ≤ r.items.length)
    (hall : ∀ d ∈ r.items, d.Precedes c) : r.refuses c = true := by
  rcases hlast : r.items.getLast? with _ | last
  · have hnil : r.items = [] := List.getLast?_eq_none_iff.mp hlast
    have hcap : r.capacity = 0 := by rw [hnil] at hfull; exact Nat.le_zero.mp hfull
    simp [refuses, hcap]
  · have hgt : c.rank last = .gt :=
      Candidate.rank_eq_gt_iff.mpr (hall last (List.mem_of_getLast? hlast))
    simp [refuses, hfull, hlast, hgt]

/-- What a full ranking takes precedes its last item. -/
theorem exists_last_of_not_refuses (hr : r.refuses c = false)
    (hfull : r.capacity ≤ r.items.length) :
    ∃ last, r.items.getLast? = some last ∧ c.Precedes last := by
  simp only [refuses, hfull, decide_true, Bool.true_and, Bool.or_eq_false_iff,
    beq_eq_false_iff_ne] at hr
  have hne : r.items ≠ [] := fun hnil => hr.1.1 (by rw [hnil] at hfull; exact Nat.le_zero.mp hfull)
  have hlast := List.getLast?_eq_some_getLast hne
  rw [hlast, Option.any_some, bne_eq_false_iff_eq] at hr
  exact ⟨_, hlast, hr.2⟩

/-- New words are refused once they were offered: they are held, or others are better. -/
theorem refuses_addAll (h : r.Ordered) (hw : ((r.items ++ cs).map (·.word)).Nodup)
    (hc : c ∈ cs) : (r.addAll cs).refuses c = true := by
  have hitems := items_addAll_eq_best h hw
  by_cases hcon : (r.addAll cs).contains c.word = true
  · simp [refuses, hcon]
  · -- `c` stands behind the cut
    have hsort := List.mergeSort_perm (r.items ++ cs) comesFirst
    have hmem : c ∈ (r.items ++ cs).mergeSort comesFirst :=
      hsort.mem_iff.mpr (List.mem_append_right _ hc)
    have hnot : c ∉ best r.capacity (r.items ++ cs) := fun hb =>
      hcon (List.any_eq_true.mpr ⟨c, hitems ▸ hb, by simp⟩)
    rw [← List.take_append_drop r.capacity (List.mergeSort _ _), List.mem_append] at hmem
    have hdrop := hmem.resolve_left hnot
    have hsorted := pairwise_mergeSort hw
    rw [← List.take_append_drop r.capacity (List.mergeSort _ _), List.pairwise_append] at hsorted
    refine refuses_of_precedes ?_ fun d hd => ?_
    · have hlen := List.length_pos_of_mem hdrop
      rw [List.length_drop] at hlen
      rw [capacity_addAll, hitems, best, List.length_take]
      omega
    · rw [hitems] at hd
      exact hsorted.2.2 d hd c hdrop

/-! ### Words that are held already -/

/-- The candidates of words that the ranking does not hold. -/
def fresh (r : Ranking) (cs : List Candidate) : List Candidate :=
  cs.filter fun c => !r.contains c.word

theorem mem_fresh : c ∈ r.fresh cs ↔ c ∈ cs ∧ r.contains c.word = false := by
  simp [fresh]

theorem nodup_append_of_new (h : r.Ordered) (hw : (cs.map (·.word)).Nodup)
    (hnew : ∀ c ∈ cs, r.contains c.word = false) : ((r.items ++ cs).map (·.word)).Nodup := by
  rw [List.map_append, List.nodup_append]
  refine ⟨h.distinct, hw, ?_⟩
  rintro _ hd _ hc rfl
  obtain ⟨d, hd, hdc⟩ := List.mem_map.mp hd
  obtain ⟨c, hc, hcw⟩ := List.mem_map.mp hc
  exact contains_eq_false.mp (hnew c hc) d hd (hdc.trans hcw.symm)

theorem nodup_append_fresh (h : r.Ordered) (hw : (cs.map (·.word)).Nodup) :
    ((r.items ++ r.fresh cs).map (·.word)).Nodup :=
  nodup_append_of_new h (hw.sublist (List.filter_sublist.map _)) fun _ hc => (mem_fresh.mp hc).2

/-- **Every order ends alike** if the ranking with the new words takes nothing more. Here `old` says
which words are new, while `r` has some of the candidates already: `r` may hold a word that came
after that of `old` was given up, but not in the end. -/
theorem addAll_eq_of_refuses (old : Ranking) {merged : Ranking}
    (hmerged : ∀ c ∈ cs, merged.refuses c = true) (hw : (cs.map (·.word)).Nodup) (h : r.Ordered)
    (hnew : ∀ c ∈ old.fresh cs, r.contains c.word = false)
    (hr : r.addAll (old.fresh cs) = merged) : r.addAll cs = merged := by
  induction cs generalizing r with
  | nil => exact hr
  | cons c cs ih =>
    rw [List.map_cons, List.nodup_cons] at hw
    have hne : ∀ d ∈ cs, c.word ≠ d.word := fun d hd he => hw.1 (he ▸ List.mem_map_of_mem hd)
    have hlater : ∀ d ∈ old.fresh cs, r.contains d.word = false := fun d hd =>
      hnew d (mem_fresh.mpr ⟨List.mem_cons_of_mem c (mem_fresh.mp hd).1, (mem_fresh.mp hd).2⟩)
    refine ih (r := r.add c) (fun d hd => hmerged d (List.mem_cons_of_mem c hd)) hw.2 (h.add c)
      (fun d hd => contains_add_eq_false (hlater d hd) (hne d (mem_fresh.mp hd).1)) ?_
    rcases hold : old.contains c.word with _ | _
    · have hcons : old.fresh (c :: cs) = c :: old.fresh cs := by
        rw [fresh, List.filter_cons_of_pos (by simp [hold]), fresh]
      rw [hcons] at hr
      exact hr
    · have hskip : old.fresh (c :: cs) = old.fresh cs := by
        rw [fresh, List.filter_cons_of_neg (by simp [hold]), fresh]
      rw [hskip] at hr
      by_cases hcon : r.contains c.word = true
      · rw [add_of_contains hcon, hr]
      · -- the word is not held now, so that `c` could as well come last
        have hwords : ((r.items ++ c :: old.fresh cs).map (·.word)).Nodup := by
          refine nodup_append_of_new h ?_ ?_
          · exact (List.nodup_cons.mpr hw).sublist ((List.filter_sublist.cons_cons c).map _)
          · intro d hd
            rcases List.mem_cons.mp hd with rfl | hd
            · simpa using hcon
            · exact hlater d hd
        have hlast : (old.fresh cs ++ [c]).Perm (c :: old.fresh cs) :=
          List.perm_append_singleton _ _
        calc (r.add c).addAll (old.fresh cs)
            = r.addAll (c :: old.fresh cs) := rfl
          _ = r.addAll (old.fresh cs ++ [c]) := (addAll_perm h hwords hlast).symm
          _ = (r.addAll (old.fresh cs)).add c := addAll_append r _ [c]
          _ = merged.add c := by rw [hr]
          _ = merged := add_of_refuses (hmerged c List.mem_cons_self)

/-! ### Words that enter again -/

/-- The ranking is full of candidates that precede `c`. -/
structure Beyond (r : Ranking) (c : Candidate) : Prop where
  full : r.capacity ≤ r.items.length
  precede : ∀ d ∈ r.items, d.Precedes c

/-- A candidate taken by a full ranking pushes out the last item. -/
theorem Ordered.beyond_add (h : r.Ordered) (hr : r.refuses c = false)
    (hfull : r.capacity ≤ r.items.length) : ∃ last ∈ r.items, (r.add c).Beyond last := by
  obtain ⟨last, hlast, hc⟩ := exists_last_of_not_refuses hr hfull
  obtain ⟨init, hinit⟩ : ∃ init, r.items = init ++ [last] := List.getLast?_eq_some_iff.mp hlast
  have hitems : (r.add c).items = insert c init := by
    simp only [Ranking.add, hr, Bool.false_eq_true, if_false, if_pos hfull]
    rw [hinit, List.dropLast_concat]
  have hsorted := h.sorted
  rw [hinit, List.pairwise_append] at hsorted
  refine ⟨last, List.mem_of_getLast? hlast, ?_, fun d hd => ?_⟩
  · rw [hinit, List.length_append, List.length_singleton] at hfull
    rw [capacity_add, hitems, length_insert]
    exact hfull
  · rw [hitems, mem_insert] at hd
    rcases hd with rfl | hd
    · exact hc
    · exact hsorted.2.2 d hd last (List.mem_singleton_self last)

theorem Beyond.add (hb : r.Beyond c) (h : r.Ordered) (d : Candidate) : (r.add d).Beyond c := by
  rcases hr : r.refuses d with _ | _
  · obtain ⟨last, hlast, hbeyond⟩ := h.beyond_add hr hb.full
    exact ⟨hbeyond.full, fun e he => (hbeyond.precede e he).trans (hb.precede last hlast)⟩
  · rwa [add_of_refuses hr]

theorem Beyond.addAll (hb : r.Beyond c) (h : r.Ordered) (cs : List Candidate) :
    (r.addAll cs).Beyond c := by
  induction cs generalizing r with
  | nil => exact hb
  | cons d cs ih => exact ih (hb.add h d) (h.add d)

/-- A word that was given up was given up by a full ranking. -/
theorem full_of_given_up (h : r.Ordered) (hw : ((r.items ++ cs).map (·.word)).Nodup)
    (hold : r.contains c.word = true) (hlost : (r.addAll cs).contains c.word = false) :
    (r.addAll cs).capacity ≤ (r.addAll cs).items.length := by
  rw [capacity_addAll, items_addAll_eq_best h hw]
  by_contra hshort
  obtain ⟨d, hd, hdc⟩ := List.any_eq_true.mp hold
  have hall : best r.capacity (r.items ++ cs) = (r.items ++ cs).mergeSort comesFirst := by
    refine List.take_of_length_le ?_
    rw [best, List.length_take] at hshort
    omega
  have hmem : d ∈ (r.addAll cs).items := by
    rw [items_addAll_eq_best h hw, hall]
    exact (List.mergeSort_perm _ _).mem_iff.mpr (List.mem_append_left _ hd)
  exact contains_eq_false.mp hlost d hmem (by simpa using hdc)

/-- What is still taken after the new words is of a word that was held at first and given up. -/
theorem given_up_of_not_refuses (h : r.Ordered) (hw : (cs.map (·.word)).Nodup) (hc : c ∈ cs)
    (htaken : (r.addAll (r.fresh cs)).refuses c = false) :
    r.contains c.word = true ∧ (r.addAll (r.fresh cs)).contains c.word = false := by
  constructor
  · by_contra hnew
    have hfresh : c ∈ r.fresh cs := mem_fresh.mpr ⟨hc, by simpa using hnew⟩
    rw [refuses_addAll h (nodup_append_fresh h hw) hfresh] at htaken
    exact nomatch htaken
  · rw [← Bool.not_eq_true]
    intro hcon
    simp [refuses, hcon] at htaken

theorem addAll_of_contains (hcs : ∀ c ∈ cs, r.contains c.word = true) : r.addAll cs = r := by
  induction cs with
  | nil => rfl
  | cons c cs ih =>
    rw [addAll, List.foldl_cons, add_of_contains (hcs c List.mem_cons_self)]
    exact ih fun d hd => hcs d (List.mem_cons_of_mem c hd)

theorem held_append_fresh_perm (r : Ranking) (cs : List Candidate) :
    (cs.filter (fun c => r.contains c.word) ++ r.fresh cs).Perm cs :=
  List.filter_append_perm _ cs

/-- In one order all that is held comes first, and is ignored. -/
theorem exists_perm_ignored (r : Ranking) (cs : List Candidate) :
    ∃ ds : List Candidate, ds.Perm cs ∧ r.addAll ds = r.addAll (r.fresh cs) := by
  refine ⟨_, r.held_append_fresh_perm cs, ?_⟩
  rw [addAll_append, addAll_of_contains fun c hc => (List.mem_filter.mp hc).2]

/-- In another order a word that is held comes after the new ones. -/
theorem exists_perm_later (hc : c ∈ cs) (hheld : r.contains c.word = true) :
    ∃ ds es : List Candidate, ds.Perm cs ∧
      r.addAll ds = ((r.addAll (r.fresh cs)).add c).addAll es := by
  let held := cs.filter fun c => r.contains c.word
  have hmem : c ∈ held := List.mem_filter.mpr ⟨hc, hheld⟩
  have hfirst : (r.fresh cs ++ c :: held.erase c).Perm (r.fresh cs ++ held) :=
    (List.perm_cons_erase hmem).symm.append_left _
  refine ⟨r.fresh cs ++ c :: held.erase c, held.erase c, ?_, addAll_append r _ _⟩
  exact hfirst.trans (List.perm_append_comm.trans (r.held_append_fresh_perm cs))

/-- **When the order does not matter**: candidates of distinct words are offered to a ranking that
was filled from another list. Their order has no influence exactly if the ranking with the new words
takes none of them any more. -/
theorem merge_perm_iff (capacity : Nat) (atStart : Bool) (as bs : List Candidate)
    (hbs : (bs.map (·.word)).Nodup) :
    let r := (new capacity atStart).addAll as
    let merged := r.addAll (r.fresh bs)
    (∀ cs : List Candidate, cs.Perm bs → (r.addAll cs).items = (r.addAll bs).items) ↔
      ∀ b ∈ bs, merged.refuses b = true := by
  intro r merged
  have h : r.Ordered := (ordered_new capacity atStart).addAll as
  have hw : ((r.items ++ r.fresh bs).map (·.word)).Nodup := nodup_append_fresh h hbs
  constructor
  · intro hsame b hb
    by_contra hnot
    rw [Bool.not_eq_true] at hnot
    obtain ⟨hheld, hlost⟩ := given_up_of_not_refuses h hbs hb hnot
    obtain ⟨last, hlast, hbeyond⟩ :=
      (h.addAll (r.fresh bs)).beyond_add hnot (full_of_given_up h hw hheld hlost)
    obtain ⟨cs, hcs, hignored⟩ := r.exists_perm_ignored bs
    obtain ⟨ds, es, hds, hlater⟩ := exists_perm_later hb hheld
    have hitems : merged.items = ((merged.add b).addAll es).items := by
      calc merged.items = (r.addAll cs).items := by rw [hignored]
        _ = (r.addAll bs).items := hsame cs hcs
        _ = (r.addAll ds).items := (hsame ds hds).symm
        _ = ((merged.add b).addAll es).items := by rw [hlater]
    have hend : ((merged.add b).addAll es).Beyond last :=
      hbeyond.addAll ((h.addAll (r.fresh bs)).add b) es
    exact Precedes.irrefl last (hend.precede last (hitems ▸ hlast))
  · intro hrefuses cs hcs
    have hend : ∀ ds : List Candidate, ds.Perm bs → r.addAll ds = merged := fun ds hds => by
      have hwds : (ds.map (·.word)).Nodup := (hds.map _).nodup_iff.mpr hbs
      refine addAll_eq_of_refuses r (fun c hc => hrefuses c (hds.mem_iff.mp hc)) hwds h
        (fun c hc => (mem_fresh.mp hc).2) ?_
      exact addAll_perm h hw (hds.filter _)
    rw [hend cs hcs, hend bs (List.Perm.refl bs)]

/-- A full ranking gives up a word that the other list has as well, but with a score that is too low
for it to come back. -/
theorem merge_perm_iff_given_up :
    let c (w : Char) (score : Int) : Candidate := ⟨[w], [], score, ⟨Kind.correction⟩, ⟨.main, none⟩⟩
    let r := (new 2 false).addAll [c 'a' 10, c 'b' 20]
    let bs := [c 'd' 40, c 'a' 15, c 'b' 50]
    (bs.map (·.word)).Nodup ∧ (r.addAll bs).items = [c 'd' 40, c 'b' 20] ∧
      ∀ cs : List Candidate, cs.Perm bs → (r.addAll cs).items = (r.addAll bs).items := by
  intro c r bs
  have hbs : (bs.map (·.word)).Nodup := by decide
  exact ⟨hbs, by decide, (merge_perm_iff 2 false [c 'a' 10, c 'b' 20] bs hbs).mpr (by decide)⟩

/-- **A word that enters again**: offered after its first candidate was given up, a second one of
the same word takes the place of a word that is better than the first. -/
theorem given_up_word_enters_again :
    let c (w : Char) (score : Int) : Candidate := ⟨[w], [], score, ⟨Kind.correction⟩, ⟨.main, none⟩⟩
    let as := [c 'a' 10]
    let bs := [c 'b' 20, c 'a' 30]
    (as.map (·.word)).Nodup ∧ (bs.map (·.word)).Nodup ∧ bs.reverse.Perm bs ∧
      (((new 1 false).addAll as).addAll bs).items = [c 'a' 30] ∧
      (((new 1 false).addAll as).addAll bs.reverse).items = [c 'b' 20] := by
  intro c as bs
  exact ⟨by decide, by decide, List.reverse_perm bs, by decide, by decide⟩

end Typeahead.Ranking
