import Typeahead.Proofs.Ranking.Best

/-! # Rankings with room

A ranking that has room for all that is offered gives up nothing. What it holds of a word is then
the first candidate of that word, whatever comes later (`find?_addAll`): a candidate of a new word
is put in somewhere (`find?_insert`), and one of a word that is held is refused
(`refuses_eq_contains`). -/

namespace Typeahead.Ranking

variable {r : Ranking} {c : Candidate} {w : Text}

theorem find?_insert : ∀ {cs : List Candidate}, (∀ d ∈ cs, d.word ≠ c.word) →
    (insert c cs).find? (·.word == w) = (cs.find? (·.word == w)).or ([c].find? (·.word == w))
  | [], _ => rfl
  | d :: cs, h => by
    unfold insert
    split_ifs
    · rcases hc : c.word == w with _ | _
      · have hnone : [c].find? (·.word == w) = none := by simp [hc]
        rw [List.find?_cons, hc, hnone, Option.or_none]
      · -- the word of `c` is no other one
        have hnone : (d :: cs).find? (·.word == w) = none := by
          refine List.find?_eq_none.mpr fun e he hew => h e he ?_
          rw [beq_iff_eq.mp hew, beq_iff_eq.mp hc]
        rw [List.find?_cons, hc, hnone, Option.none_or, List.find?_cons, hc]
    · have hcs := fun e he => h e (List.mem_cons_of_mem d he)
      rw [List.find?_cons, List.find?_cons, find?_insert hcs]
      cases d.word == w <;> rfl

theorem refuses_eq_contains (hroom : r.items.length < r.capacity) :
    r.refuses c = r.contains c.word := by
  have hcapacity : (r.capacity == 0) = false := beq_false_of_ne (by omega)
  have hplace : decide (r.capacity ≤ r.items.length) = false := decide_eq_false (by omega)
  rw [refuses, hcapacity, hplace, Bool.false_or, Bool.false_and, Bool.or_false]

/-- A ranking with room keeps the candidate that it has of a word, and takes one that is new. -/
theorem find?_add (hroom : r.items.length < r.capacity) :
    (r.add c).find? w = (r.find? w).or ([c].find? (·.word == w)) := by
  unfold add
  rw [refuses_eq_contains hroom]
  split_ifs with hheld hfull
  · rcases hc : c.word == w with _ | _
    · simp [hc]
    · -- the word is held already
      rw [beq_iff_eq.mp hc] at hheld
      have hsome := List.find?_isSome.mpr (List.any_eq_true.mp hheld)
      obtain ⟨d, hd⟩ := Option.isSome_iff_exists.mp hsome
      rw [find?, hd, Option.some_or]
  · omega
  · exact find?_insert (contains_eq_false.mp (by simpa using hheld))

theorem length_items_add_le : (r.add c).items.length ≤ r.items.length + 1 := by
  unfold add
  split_ifs
  · exact Nat.le_succ _
  · rw [length_insert, List.length_dropLast]
    omega
  · exact Nat.le_of_eq (length_insert _ _)

/-- **A ranking with room** keeps the first candidate of each word. -/
theorem find?_addAll : ∀ {cs : List Candidate} {r : Ranking},
    r.items.length + cs.length ≤ r.capacity →
      (r.addAll cs).find? w = (r.find? w).or (cs.find? (·.word == w))
  | [], r, _ => (Option.or_none).symm
  | c :: cs, r, hroom => by
    rw [List.length_cons] at hroom
    have hlength := length_items_add_le (r := r) (c := c)
    have hrest : (r.add c).items.length + cs.length ≤ (r.add c).capacity := by
      rw [capacity_add]
      omega
    calc (r.addAll (c :: cs)).find? w = ((r.add c).addAll cs).find? w := rfl
      _ = ((r.find? w).or ([c].find? (·.word == w))).or (cs.find? (·.word == w)) := by
        rw [find?_addAll hrest, find?_add (by omega)]
      _ = (r.find? w).or ((c :: cs).find? (·.word == w)) := by
        rw [Option.or_assoc, ← List.find?_append]
        rfl

theorem find?_addAll_new {capacity : Nat} {atStart : Bool} {cs : List Candidate}
    (hroom : cs.length ≤ capacity) :
    ((new capacity atStart).addAll cs).find? w = cs.find? (·.word == w) := by
  have hempty : (new capacity atStart).items.length + cs.length ≤ capacity := by
    rw [new, List.length_nil, Nat.zero_add]
    exact hroom
  rw [find?_addAll hempty]
  rfl

end Typeahead.Ranking
