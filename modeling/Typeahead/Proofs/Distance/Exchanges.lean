import Typeahead.Proofs.Distance.Edits
import Typeahead.Proofs.Lexicon.AsciiWalk

/-! # The distance with exchanges

`slips a b i j` is the distance of two beginnings when the exchange of their last two characters is
one step too. The computation keeps two rows above the one it writes; after `i` characters these are
the rows `i - 1` and `i` of the recursion (`typingRows`, `foldl_next_take`). An exchange spares at
most one edit: it stands for two replacements (`edits_le_two_mul_slips`). So a single slip is at
most two edits, within the reach of the walk of corrections. -/

namespace Typeahead.Distance

variable {a b : Text} {x y z : Char} {i j : Nat}

/-! ### The recursion -/

/-- The characters at the places `i` and `j` and those before them stand crosswise. -/
def Crossed (a b : Text) (i j : Nat) : Prop :=
  0 < i ∧ 0 < j ∧ a[i]? = b[j - 1]? ∧ a[i - 1]? = b[j]?

instance (a b : Text) (i j : Nat) : Decidable (Crossed a b i j) := by
  unfold Crossed; infer_instance

/-- **The slips** between the first `i` characters of `a` and the first `j` of `b`: an edit at their
ends, or the exchange of the last two characters. -/
def slips (a b : Text) : Nat → Nat → Nat
  | 0, j => j
  | i + 1, 0 => i + 1
  | i + 1, j + 1 =>
    let plain := min (slips a b i j + costAt a b i j)
      (min (slips a b i (j + 1) + 1) (slips a b (i + 1) j + 1))
    if Crossed a b i j then min plain (slips a b (i - 1) (j - 1) + 1) else plain

theorem crossed_comm : Crossed a b i j ↔ Crossed b a j i := by
  unfold Crossed
  constructor <;> rintro ⟨hi, hj, h, h'⟩ <;> exact ⟨hj, hi, h'.symm, h.symm⟩

theorem not_crossed_zero_left (a b : Text) (j : Nat) : ¬ Crossed a b 0 j := fun h =>
  Nat.lt_irrefl 0 h.1

theorem not_crossed_zero_right (a b : Text) (i : Nat) : ¬ Crossed a b i 0 := fun h =>
  Nat.lt_irrefl 0 h.2.1

theorem crossed_succ_iff (ha : a[i + 1]? = some x) (hz : b[j]? = some z)
    (hy : b[j + 1]? = some y) :
    Crossed a b (i + 1) (j + 1) ↔ x = z ∧ a[i]? = some y := by
  simp [Crossed, ha, hz, hy]

@[simp] theorem slips_zero_left (a b : Text) (j : Nat) : slips a b 0 j = j := by rw [slips]

@[simp] theorem slips_zero_right (a b : Text) (i : Nat) : slips a b i 0 = i := by
  cases i <;> rw [slips]

/-- What the last characters cost without an exchange. -/
def plainSlips (a b : Text) (i j : Nat) : Nat :=
  min (slips a b i j + costAt a b i j) (min (slips a b i (j + 1) + 1) (slips a b (i + 1) j + 1))

theorem slips_succ_succ (a b : Text) (i j : Nat) : slips a b (i + 1) (j + 1) =
    if Crossed a b i j then min (plainSlips a b i j) (slips a b (i - 1) (j - 1) + 1)
    else plainSlips a b i j := by
  rw [slips]
  rfl

theorem slips_succ_succ_le (a b : Text) (i j : Nat) :
    slips a b (i + 1) (j + 1) ≤ plainSlips a b i j := by
  rw [slips_succ_succ]
  split_ifs
  · exact Nat.min_le_left _ _
  · exact Nat.le_refl _

/-! ### Row by row -/

/-- A cell with only one row above it. -/
theorem exchangeCells_nil (x' y' : Option Char) (x y : Char) (left corner up : Nat) (ys : Text)
    (above : List Nat) :
    exchangeCells x' x left corner y' (y :: ys) (up :: above) [] =
      min (corner + cost x y) (min (up + 1) (left + 1)) ::
        exchangeCells x' x (min (corner + cost x y) (min (up + 1) (left + 1))) up (some y) ys
          above [] := by
  cases y' <;> rfl

/-- The first cell of a row. -/
theorem exchangeCells_none (x' : Option Char) (x y : Char) (left corner up : Nat) (ys : Text)
    (above two : List Nat) :
    exchangeCells x' x left corner none (y :: ys) (up :: above) two =
      min (corner + cost x y) (min (up + 1) (left + 1)) ::
        exchangeCells x' x (min (corner + cost x y) (min (up + 1) (left + 1))) up (some y) ys
          above two := rfl

/-- In the first row nothing can be exchanged. -/
theorem exchangeCells_first (ha : a[0]? = some x) (y' : Option Char) {ys : Text}
    (hys : b.drop j = ys) :
    exchangeCells none x (slips a b 1 j) (slips a b 0 j) y' ys
        ((List.range' (j + 1) ys.length).map (slips a b 0)) [] =
      (List.range' (j + 1) ys.length).map (slips a b 1) := by
  induction ys generalizing j y' with
  | nil => cases y' <;> rfl
  | cons y ys ih =>
    have hcell : min (slips a b 0 j + cost x y)
        (min (slips a b 0 (j + 1) + 1) (slips a b 1 j + 1)) = slips a b 1 (j + 1) := by
      rw [slips_succ_succ, if_neg (not_crossed_zero_left a b j), plainSlips,
        costAt_eq_cost ha (getElem?_of_drop hys)]
    rw [List.length_cons, List.range'_succ, List.map_cons, List.map_cons, exchangeCells_nil, hcell,
      ih _ (drop_succ_of_drop hys)]

/-- The cells behind the first two, in a row that has two above it. -/
theorem exchangeCells_later (ha : a[i + 1]? = some x) (hz : b[j]? = some z) {ys : Text}
    (hys : b.drop (j + 1) = ys) :
    exchangeCells a[i]? x (slips a b (i + 2) (j + 1)) (slips a b (i + 1) (j + 1)) (some z) ys
        ((List.range' (j + 2) ys.length).map (slips a b (i + 1)))
        ((List.range' j (ys.length + 2)).map (slips a b i)) =
      (List.range' (j + 2) ys.length).map (slips a b (i + 2)) := by
  induction ys generalizing j z with
  | nil => rfl
  | cons y ys ih =>
    have hy : b[j + 1]? = some y := getElem?_of_drop hys
    have hplain : min (slips a b (i + 1) (j + 1) + cost x y)
        (min (slips a b (i + 1) (j + 2) + 1) (slips a b (i + 2) (j + 1) + 1)) =
          plainSlips a b (i + 1) (j + 1) := by
      rw [plainSlips, costAt_eq_cost ha hy]
    have hcell : (if x = z ∧ a[i]? = some y then
        min (plainSlips a b (i + 1) (j + 1)) (slips a b i j + 1)
        else plainSlips a b (i + 1) (j + 1)) = slips a b (i + 2) (j + 2) := by
      rw [slips_succ_succ, Nat.add_sub_cancel, Nat.add_sub_cancel]
      exact if_congr (crossed_succ_iff ha hz hy).symm rfl rfl
    rw [List.length_cons, List.range'_succ, List.range'_succ, List.map_cons, List.map_cons,
      List.map_cons, exchangeCells, hplain, hcell, ih hy (drop_succ_of_drop hys)]

theorem exchangeCells_slips (ha : a[i + 1]? = some x) {ys : Text} (hys : b.drop 0 = ys) :
    exchangeCells a[i]? x (i + 2) (i + 1) none ys
        ((List.range' 1 ys.length).map (slips a b (i + 1)))
        ((List.range' 0 (ys.length + 1)).map (slips a b i)) =
      (List.range' 1 ys.length).map (slips a b (i + 2)) := by
  cases ys with
  | nil => rfl
  | cons y ys =>
    have hy : b[0]? = some y := getElem?_of_drop hys
    -- the first cell has nothing before it to exchange
    have hcell : min (i + 1 + cost x y) (min (slips a b (i + 1) 1 + 1) (i + 2 + 1)) =
        slips a b (i + 2) 1 := by
      rw [slips_succ_succ a b (i + 1) 0, if_neg (not_crossed_zero_right a b (i + 1)), plainSlips,
        costAt_eq_cost ha hy, slips_zero_right, slips_zero_right]
    rw [List.length_cons, List.range'_succ, List.map_cons, List.map_cons, exchangeCells_none, hcell,
      exchangeCells_later ha hy (drop_succ_of_drop hys)]

/-- Where the computation stands after `i` characters. -/
def typingRows (a b : Text) : Nat → Rows
  | 0 => ⟨none, [], rowOf b.length (slips a b 0)⟩
  | i + 1 => ⟨a[i]?, rowOf b.length (slips a b i), rowOf b.length (slips a b (i + 1))⟩

theorem next_typingRows (ha : a[i]? = some x) :
    (typingRows a b i).next b x = typingRows a b (i + 1) := by
  cases i with
  | zero =>
    have hcells := exchangeCells_first ha none (List.drop_zero (l := b))
    rw [slips_zero_right, slips_zero_right] at hcells
    rw [typingRows, typingRows, ha, rowOf_eq_cons b.length (slips a b 1), slips_zero_right,
      ← hcells, rowOf_eq_cons, slips_zero_right]
    rfl
  | succ i =>
    have hcells := exchangeCells_slips ha (List.drop_zero (l := b))
    rw [typingRows, typingRows, ha, rowOf_eq_cons b.length (slips a b (i + 1 + 1)),
      slips_zero_right, ← hcells, rowOf_eq_cons b.length (slips a b (i + 1)), slips_zero_right]
    rfl

theorem foldl_next_take (h : i ≤ a.length) :
    (a.take i).foldl (Rows.next b) ⟨none, [], firstRow b⟩ = typingRows a b i := by
  induction i with
  | zero =>
    rw [List.take_zero, List.foldl_nil, firstRow_eq_rowOf, typingRows, funext (slips_zero_left a b)]
    rfl
  | succ i ih =>
    rw [List.take_succ_eq_append_getElem h, List.foldl_concat, ih (Nat.le_of_succ_le h),
      next_typingRows (List.getElem?_eq_getElem h)]

theorem one_typingRows (a b : Text) (i : Nat) :
    (typingRows a b i).one = rowOf b.length (slips a b i) := by
  cases i <;> rfl

theorem typingDistance_eq_slips (a b : Text) :
    typingDistance a b = slips a b a.length b.length := by
  have hrow := foldl_next_take (b := b) (Nat.le_refl a.length)
  rw [List.take_length] at hrow
  rw [typingDistance, hrow, one_typingRows, getLastD_rowOf]

/-! ### Slips and edits -/

theorem slips_comm (a b : Text) (i j : Nat) : slips a b i j = slips b a j i := by
  fun_induction slips a b i j with
  | case1 j => rw [slips_zero_right]
  | case2 i => rw [slips_zero_left]
  | case3 i j plain hcrossed ih ihdelete ihinsert ihboth =>
    rw [slips_succ_succ, if_pos (crossed_comm.mp hcrossed), plainSlips, ← ih, ← ihdelete,
      ← ihinsert, ← ihboth, costAt_comm b a, Nat.min_comm (slips a b (i + 1) j + 1)]
  | case4 i j plain hcrossed ih ihdelete ihinsert =>
    rw [slips_succ_succ, if_neg fun h => hcrossed (crossed_comm.mp h), plainSlips, ← ih,
      ← ihdelete, ← ihinsert, costAt_comm b a, Nat.min_comm (slips a b (i + 1) j + 1)]

/-- No slips are needed exactly if no edits are: an exchange is never for free. -/
theorem slips_eq_zero_iff (a b : Text) (i j : Nat) : slips a b i j = 0 ↔ edits a b i j = 0 := by
  fun_induction edits a b i j with
  | case1 j => rw [slips_zero_left]
  | case2 i => rw [slips_zero_right]
  | case3 i j ih ihdelete ihinsert =>
    rw [slips_succ_succ, plainSlips]
    split_ifs <;> omega

theorem slips_le_edits (a b : Text) (i j : Nat) : slips a b i j ≤ edits a b i j := by
  fun_induction edits a b i j with
  | case1 j => exact Nat.le_of_eq (slips_zero_left a b j)
  | case2 i => exact Nat.le_of_eq (slips_zero_right a b _)
  | case3 i j ih ihdelete ihinsert =>
    refine Nat.le_trans (slips_succ_succ_le a b i j) ?_
    unfold plainSlips
    omega

/-- Two more characters on each side, whichever they are, are at most two more edits. -/
theorem edits_add_two_le (a b : Text) (i j : Nat) :
    edits a b (i + 2) (j + 2) ≤ edits a b i j + 2 := by
  have hone := edits_succ_succ_le a b i j
  have htwo : edits a b (i + 2) (j + 2) ≤ _ := edits_succ_succ_le a b (i + 1) (j + 1)
  have hcost := costAt_le_one a b i j
  have hcost' := costAt_le_one a b (i + 1) (j + 1)
  omega

/-- **An exchange is at most two edits.** -/
theorem edits_le_two_mul_slips (a b : Text) (i j : Nat) : edits a b i j ≤ 2 * slips a b i j := by
  fun_induction slips a b i j with
  | case1 j =>
    rw [edits_zero_left]
    omega
  | case2 i =>
    rw [edits_zero_right]
    omega
  | case3 i j plain hcrossed ih ihdelete ihinsert ihboth =>
    -- both characters on each side are replaced
    have hboth := edits_add_two_le a b (i - 1) (j - 1)
    have hi : i - 1 + 2 = i + 1 := by have := hcrossed.1; omega
    have hj : j - 1 + 2 = j + 1 := by have := hcrossed.2.1; omega
    rw [hi, hj] at hboth
    have hplain : edits a b (i + 1) (j + 1) ≤ 2 * plain := by
      rw [edits_succ_succ]
      omega
    show edits a b (i + 1) (j + 1) ≤ _
    omega
  | case4 i j plain hcrossed ih ihdelete ihinsert =>
    rw [edits_succ_succ]
    omega

/-- **The distance with exchanges** is symmetric, zero on equal texts only, and at most the distance
by edits, which is at most twice as great. So a single slip is within the two edits that the walk
allows, and the walk finds the word if it is not misled. -/
theorem slips_within_edits (a b : Text) :
    typingDistance a b = slips a b a.length b.length ∧
      typingDistance a b = typingDistance b a ∧
      (typingDistance a b = 0 ↔ a = b) ∧
      typingDistance a b ≤ editDistance a b ∧
      editDistance a b ≤ 2 * typingDistance a b ∧
      (typingDistance a b ≤ 1 →
        editDistance a b ≤ 2 ∧ (a.IsAscii ∨ b.IsAscii → Walk.finds a b)) := by
  have htwo : editDistance a b ≤ 2 * typingDistance a b := by
    rw [editDistance_eq_edits, typingDistance_eq_slips]
    exact edits_le_two_mul_slips ..
  refine ⟨typingDistance_eq_slips a b, ?_, ?_, ?_, htwo, fun hone => ⟨by omega, fun hascii => ?_⟩⟩
  · rw [typingDistance_eq_slips, typingDistance_eq_slips, slips_comm]
  · rw [typingDistance_eq_slips, slips_eq_zero_iff, edits_eq_zero_iff, eq_iff_forall_lt]
  · rw [editDistance_eq_edits, typingDistance_eq_slips]
    exact slips_le_edits ..
  · have hread : Walk.Unmistaken a b :=
      hascii.elim Walk.unmistaken_of_isAscii_left Walk.unmistaken_of_isAscii
    rw [Walk.finds_iff hread, editDistance_eq_edits, edits_comm, ← editDistance_eq_edits]
    omega

/-- An exchange is a single slip. -/
theorem slips_within_edits_teh :
    typingDistance "teh".toList "the".toList ≤ 1 ∧
      editDistance "teh".toList "the".toList ≤ 2 ∧
      (Text.IsAscii "teh".toList ∧ Walk.finds "teh".toList "the".toList) := by
  have hone : typingDistance "teh".toList "the".toList ≤ 1 := by decide
  have hascii : Text.IsAscii "teh".toList := by decide
  have hreach := (slips_within_edits "teh".toList "the".toList).2.2.2.2.2 hone
  exact ⟨hone, hreach.1, hascii, hreach.2 (.inl hascii)⟩

end Typeahead.Distance
