import Mathlib.Data.List.Basic
import Mathlib.Data.List.Induction
import Mathlib.Tactic.SplitIfs
import Typeahead.Distance

/-! # The distance by edits

`edits a b i j` is the distance of the first `i` characters of `a` from the first `j` of `b`, by
recursion on their last characters. The computation by rows has the numbers `edits a b i` in the row
after `i` characters (`foldl_nextRow_take`); the one in two rows that are written over has them in
the cells written so far, and behind these what is left of an earlier row (`Written`). So both end
with the recursion (`editDistance_eq_edits`, `editCount_eq_edits`), and what holds of it holds of
them: it is a metric, between the difference and the maximum of the lengths. -/

namespace Typeahead.Distance

variable {a b c : Text} {x y : Char} {i j k : Nat}

/-! ### The recursion -/

/-- What it costs to read the character at the place `i` of `a` where the one at the place `j` of
`b` is wanted. -/
def costAt (a b : Text) (i j : Nat) : Nat := if a[i]? = b[j]? then 0 else 1

/-- **The edits** between the first `i` characters of `a` and the first `j` of `b`: the last
character is replaced or kept, the last one of `a` is deleted, or the last one of `b` inserted. -/
def edits (a b : Text) : Nat → Nat → Nat
  | 0, j => j
  | i + 1, 0 => i + 1
  | i + 1, j + 1 =>
    min (edits a b i j + costAt a b i j) (min (edits a b i (j + 1) + 1) (edits a b (i + 1) j + 1))

theorem costAt_eq_cost (ha : a[i]? = some x) (hb : b[j]? = some y) :
    costAt a b i j = cost x y := by
  simp [costAt, cost, ha, hb]

theorem costAt_comm (a b : Text) (i j : Nat) : costAt a b i j = costAt b a j i := by
  simp [costAt, eq_comm]

theorem costAt_le_one (a b : Text) (i j : Nat) : costAt a b i j ≤ 1 := by
  unfold costAt
  split_ifs <;> omega

theorem costAt_eq_zero_iff : costAt a b i j = 0 ↔ a[i]? = b[j]? := by
  simp [costAt]

/-- Two replacements at one place cost at least what one replacement costs. -/
theorem costAt_triangle (a b c : Text) (i j k : Nat) :
    costAt a c i k ≤ costAt a b i j + costAt b c j k := by
  unfold costAt
  split_ifs with hac hab hbc <;> simp_all

@[simp] theorem edits_zero_left (a b : Text) (j : Nat) : edits a b 0 j = j := by rw [edits]

@[simp] theorem edits_zero_right (a b : Text) (i : Nat) : edits a b i 0 = i := by
  cases i <;> rw [edits]

theorem edits_succ_succ (a b : Text) (i j : Nat) : edits a b (i + 1) (j + 1) =
    min (edits a b i j + costAt a b i j)
      (min (edits a b i (j + 1) + 1) (edits a b (i + 1) j + 1)) := by
  rw [edits]

/-- **The last step**: a replacement, a deletion or an insertion. -/
theorem edits_cases (a b : Text) (i j : Nat) :
    edits a b (i + 1) (j + 1) = edits a b i j + costAt a b i j ∨
      edits a b (i + 1) (j + 1) = edits a b i (j + 1) + 1 ∨
      edits a b (i + 1) (j + 1) = edits a b (i + 1) j + 1 := by
  rw [edits_succ_succ]
  omega

theorem edits_succ_succ_le (a b : Text) (i j : Nat) :
    edits a b (i + 1) (j + 1) ≤ edits a b i j + costAt a b i j := by
  rw [edits_succ_succ]
  exact Nat.min_le_left _ _

theorem edits_succ_left_le (a b : Text) (i j : Nat) :
    edits a b (i + 1) j ≤ edits a b i j + 1 := by
  cases j with
  | zero => simp
  | succ j =>
    rw [edits_succ_succ]
    omega

theorem edits_succ_right_le (a b : Text) (i j : Nat) :
    edits a b i (j + 1) ≤ edits a b i j + 1 := by
  cases i with
  | zero => simp
  | succ i =>
    rw [edits_succ_succ]
    omega

/-! ### Row by row -/

/-- The row of `f`, for a text of `n` characters. -/
def rowOf (n : Nat) (f : Nat → Nat) : List Nat := (List.range' 0 (n + 1)).map f

theorem rowOf_eq_cons (n : Nat) (f : Nat → Nat) :
    rowOf n f = f 0 :: (List.range' 1 n).map f := by
  rw [rowOf, List.range'_succ, List.map_cons]

theorem getLastD_rowOf (n : Nat) (f : Nat → Nat) : (rowOf n f).getLastD 0 = f n := by
  rw [rowOf, List.range'_concat, List.map_append, List.map_singleton, List.getLastD_concat]
  simp

theorem firstRow_eq_rowOf (b : Text) : firstRow b = rowOf b.length id := by
  rw [firstRow, rowOf, List.map_id, List.range_eq_range']

theorem getElem?_of_drop {ys : Text} (h : b.drop j = y :: ys) : b[j]? = some y := by
  rw [← List.head?_drop, h, List.head?_cons]

theorem drop_succ_of_drop {ys : Text} (h : b.drop j = y :: ys) : b.drop (j + 1) = ys := by
  rw [← List.tail_drop, h, List.tail_cons]

theorem cells_edits (ha : a[i]? = some x) {ys : Text} (hys : b.drop j = ys) :
    cells x (edits a b (i + 1) j) (edits a b i j) ys
        ((List.range' (j + 1) ys.length).map (edits a b i)) =
      (List.range' (j + 1) ys.length).map (edits a b (i + 1)) := by
  induction ys generalizing j with
  | nil => rfl
  | cons y ys ih =>
    have hcell : min (edits a b i j + cost x y)
        (min (edits a b i (j + 1) + 1) (edits a b (i + 1) j + 1)) = edits a b (i + 1) (j + 1) := by
      rw [edits_succ_succ, costAt_eq_cost ha (getElem?_of_drop hys)]
    rw [List.length_cons, List.range'_succ, List.map_cons, List.map_cons, cells, hcell,
      ih (drop_succ_of_drop hys)]

theorem nextRow_rowOf_edits (ha : a[i]? = some x) :
    nextRow b (rowOf b.length (edits a b i)) x = rowOf b.length (edits a b (i + 1)) := by
  have hcells := cells_edits (j := 0) ha (List.drop_zero (l := b))
  rw [edits_zero_right, edits_zero_right] at hcells
  rw [rowOf_eq_cons, rowOf_eq_cons, edits_zero_right, edits_zero_right, nextRow, hcells]

/-- **The row after `i` characters.** -/
theorem foldl_nextRow_take (h : i ≤ a.length) :
    (a.take i).foldl (nextRow b) (firstRow b) = rowOf b.length (edits a b i) := by
  induction i with
  | zero =>
    rw [List.take_zero, List.foldl_nil, firstRow_eq_rowOf, funext (edits_zero_left a b)]
    rfl
  | succ i ih =>
    rw [List.take_succ_eq_append_getElem h, List.foldl_concat, ih (Nat.le_of_succ_le h),
      nextRow_rowOf_edits (List.getElem?_eq_getElem h)]

theorem editDistance_eq_edits (a b : Text) :
    editDistance a b = edits a b a.length b.length := by
  have hrow := foldl_nextRow_take (b := b) (Nat.le_refl a.length)
  rw [List.take_length] at hrow
  rw [editDistance, hrow, getLastD_rowOf]

/-! ### In two rows that are written over -/

/-- What each step over a text preserves, with the place it is at, the whole run preserves. -/
theorem foldl_zipIdx_induction {σ : Type} {P : Nat → σ → Prop} {f : σ → Char → Nat → σ} {t : Text}
    (hstep : ∀ i x s, t[i]? = some x → P i s → P (i + 1) (f s x i)) {s : σ} (h : P 0 s) :
    P t.length (t.zipIdx.foldl (fun s p => f s p.1 p.2) s) := by
  induction t using List.reverseRecOn with
  | nil => exact h
  | append_singleton t x ih =>
    have hbefore := ih fun i y s hy => by
      have hi : i < t.length := (List.getElem?_eq_some_iff.mp hy).1
      exact hstep i y s ((List.getElem?_append_left hi).trans hy)
    have hlast := hstep t.length x _ List.getElem?_concat_length hbefore
    simpa [List.zipIdx_append] using hlast

namespace TwoRows

variable {r : TwoRows}

/-- The row above has the edits of the first `i` characters. -/
structure HasRead (a b : Text) (i : Nat) (r : TwoRows) : Prop where
  room : b.length < r.below.size
  above : ∀ k ≤ b.length, r.above[k]? = some (edits a b i k)

/-- The row below has those of the first `i + 1`, up to the place `j`. Behind that it may hold
anything. -/
structure Written (a b : Text) (i j : Nat) (r : TwoRows) : Prop extends HasRead a b i r where
  below : ∀ k ≤ j, r.below[k]? = some (edits a b (i + 1) k)

theorem Written.write (h : Written a b i j r) (ha : a[i]? = some x) (hb : b[j]? = some y) :
    Written a b i (j + 1) (r.write x y j) where
  room := by
    simpa [TwoRows.write] using h.room
  above := h.above
  below k hk := by
    have hj : j < b.length := (List.getElem?_eq_some_iff.mp hb).1
    have hroom : j + 1 < r.below.size := Nat.lt_of_le_of_lt hj h.room
    rw [TwoRows.write, Array.getElem?_setIfInBounds]
    by_cases hkj : j + 1 = k
    · subst hkj
      rw [if_pos rfl, if_pos hroom, edits_succ_succ, costAt_eq_cost ha hb,
        Array.getD_eq_getD_getElem?, Array.getD_eq_getD_getElem?, Array.getD_eq_getD_getElem?,
        h.above j (Nat.le_of_lt hj), h.above (j + 1) hj, h.below j (Nat.le_refl j),
        Option.getD_some, Option.getD_some, Option.getD_some, Nat.min_assoc]
    · rw [if_neg hkj]
      exact h.below k (by omega)

theorem HasRead.begin (h : HasRead a b i r) :
    Written a b i 0 { r with below := r.below.setIfInBounds 0 (i + 1) } where
  room := by simpa using h.room
  above := h.above
  below k hk := by
    have hroom : 0 < r.below.size := Nat.zero_lt_of_lt h.room
    rw [Nat.le_zero.mp hk, Array.getElem?_setIfInBounds, if_pos rfl, if_pos hroom,
      edits_zero_right]

theorem HasRead.read (h : HasRead a b i r) (ha : a[i]? = some x) :
    HasRead a b (i + 1) (r.read b x i) := by
  have hwritten : Written a b i b.length _ :=
    foldl_zipIdx_induction (fun j y r hb hr => hr.write ha hb) h.begin
  have hroom := (Array.getElem?_eq_some_iff.mp (hwritten.above b.length (Nat.le_refl _))).1
  exact ⟨hroom, hwritten.below⟩

theorem hasRead_first (a b : Text) : HasRead a b 0 (first b) where
  room := by simp [first]
  above k hk := by
    rw [first, firstRow, List.getElem?_toArray, List.getElem?_range (Nat.lt_succ_of_le hk),
      edits_zero_left]

end TwoRows

theorem editCount_eq_edits (a b : Text) : editCount a b = edits a b a.length b.length := by
  have hread : TwoRows.HasRead a b a.length _ :=
    foldl_zipIdx_induction (fun i x r ha hr => hr.read ha) (TwoRows.hasRead_first a b)
  rw [editCount, Array.getD_eq_getD_getElem?, hread.above b.length (Nat.le_refl _),
    Option.getD_some]

/-! ### A metric -/

theorem edits_comm (a b : Text) (i j : Nat) : edits a b i j = edits b a j i := by
  fun_induction edits a b i j with
  | case1 j => rw [edits_zero_right]
  | case2 i => rw [edits_zero_left]
  | case3 i j ih ihdelete ihinsert =>
    rw [edits_succ_succ b a j i, ih, ihdelete, ihinsert, costAt_comm a b, Nat.min_comm (_ + 1)]

theorem le_add_edits (a b : Text) (i j : Nat) : i ≤ j + edits a b i j := by
  fun_induction edits a b i j <;> omega

theorem edits_le_max (a b : Text) (i j : Nat) : edits a b i j ≤ max i j := by
  fun_induction edits a b i j with
  | case1 j => omega
  | case2 i => omega
  | case3 i j ih ihdelete ihinsert =>
    have hcost := costAt_le_one a b i j
    omega

/-- No edits are needed exactly if the beginnings are the same. -/
theorem edits_eq_zero_iff (a b : Text) (i j : Nat) :
    edits a b i j = 0 ↔ i = j ∧ ∀ k < i, a[k]? = b[k]? := by
  fun_induction edits a b i j with
  | case1 j => simp [eq_comm]
  | case2 i => simp
  | case3 i j ih ihdelete ihinsert =>
    have hmin : min (edits a b i j + costAt a b i j)
        (min (edits a b i (j + 1) + 1) (edits a b (i + 1) j + 1)) = 0 ↔
          edits a b i j = 0 ∧ costAt a b i j = 0 := by omega
    rw [hmin, ih, costAt_eq_zero_iff, Nat.forall_lt_succ_right, Nat.succ_inj]
    constructor
    · rintro ⟨⟨rfl, hk⟩, hi⟩
      exact ⟨rfl, hk, hi⟩
    · rintro ⟨rfl, hk, hi⟩
      exact ⟨⟨rfl, hk⟩, hi⟩

theorem eq_iff_forall_lt (a b : Text) :
    a = b ↔ a.length = b.length ∧ ∀ k < a.length, a[k]? = b[k]? := by
  constructor
  · rintro rfl
    exact ⟨rfl, fun _ _ => rfl⟩
  · rintro ⟨hlen, hk⟩
    refine List.ext_getElem? fun k => ?_
    by_cases h : k < a.length
    · exact hk k h
    · rw [List.getElem?_eq_none (by omega), List.getElem?_eq_none (by omega)]

/-- **The triangle inequality**, by the last step on the way from `a` to `b` and the last one on the
way from `b` to `c`. -/
theorem edits_triangle (a b c : Text) :
    ∀ i j k, edits a c i k ≤ edits a b i j + edits b c j k
  | 0, j, k => by
    have hk := le_add_edits c b k j
    rw [edits_comm c b] at hk
    simpa using hk
  | i + 1, j, 0 => by
    simpa [Nat.add_comm] using le_add_edits a b (i + 1) j
  | i + 1, 0, k + 1 => by
    have hmax := edits_le_max a c (i + 1) (k + 1)
    rw [edits_zero_right, edits_zero_left]
    omega
  | i + 1, j + 1, k + 1 => by
    have hdelete := edits_succ_left_le a c i (k + 1)
    have hinsert := edits_succ_right_le a c (i + 1) k
    rcases edits_cases b c j k with hbc | hbc | hbc
    · rcases edits_cases a b i j with hab | hab | hab
      · -- two replacements at one place
        have hac := edits_succ_succ_le a c i k
        have hcost := costAt_triangle a b c i j k
        have ih := edits_triangle a b c i j k
        omega
      · have ih := edits_triangle a b c i (j + 1) (k + 1)
        omega
      · -- the character that was inserted is replaced
        have ih := edits_triangle a b c (i + 1) j k
        omega
    · rcases edits_cases a b i j with hab | hab | hab
      · -- the character that was replaced is deleted
        have ih := edits_triangle a b c i j (k + 1)
        omega
      · have ih := edits_triangle a b c i (j + 1) (k + 1)
        omega
      · -- the character that was inserted is deleted
        have ih := edits_triangle a b c (i + 1) j (k + 1)
        omega
    · have ih := edits_triangle a b c (i + 1) (j + 1) k
      omega

/-- **Both computations give the distance**, a metric that lies between the difference of the
lengths and the longer one. -/
theorem edits_metric (a b c : Text) :
    editDistance a b = editCount a b ∧
      editDistance a b = edits a b a.length b.length ∧
      editDistance a b = editDistance b a ∧
      (editDistance a b = 0 ↔ a = b) ∧
      max a.length b.length - min a.length b.length ≤ editDistance a b ∧
      editDistance a b ≤ max a.length b.length ∧
      editDistance a c ≤ editDistance a b + editDistance b c := by
  simp only [editDistance_eq_edits, editCount_eq_edits]
  refine ⟨trivial, trivial, edits_comm .., ?_, ?_, edits_le_max .., edits_triangle ..⟩
  · rw [edits_eq_zero_iff, eq_iff_forall_lt]
  · have hab := le_add_edits a b a.length b.length
    have hba := le_add_edits b a b.length a.length
    rw [edits_comm b a] at hba
    omega

end Typeahead.Distance
