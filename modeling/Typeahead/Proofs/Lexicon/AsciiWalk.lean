import Mathlib.Data.List.Forall2
import Typeahead.Lexicon.Walk
import Typeahead.Proofs.Text.Ascii

/-! # The walk on ASCII keys

The walk of corrections keeps rows of distances capped at three and gives up on a row without a
distance up to two. It may be misled by a character, but not on a key of ASCII, nor when a text of
ASCII is looked up (`Unmistaken`). Then neither the cap nor giving up loses anything: its rows agree
with those of `editDistance` up to the cap (`SameCapped`), and a row of greater distances only leads
to such rows (`far_nextRow`). So the walk finds exactly the keys within two insertions, deletions
and replacements (`finds_iff`). -/

namespace Typeahead.Walk

variable {q k : Text} {x : Char} {row row' : List Nat}

/-! ### Rows up to the cap -/

/-- The rows have the same distances as far as these are at most two. -/
def SameCapped (row row' : List Nat) : Prop := List.Forall₂ (fun u v => min 3 u = min 3 v) row row'

theorem sameCapped_refl (row : List Nat) : SameCapped row row :=
  List.forall₂_same.mpr fun _ _ => rfl

theorem le_two_iff {u v : Nat} (h : min 3 u = min 3 v) : u ≤ 2 ↔ v ≤ 2 := by omega

theorem capped_add {u v : Nat} (h : min 3 u = min 3 v) (n : Nat) :
    min 3 (u + n) = min 3 (v + n) := by omega

theorem capped_min {u u' v v' : Nat} (h : min 3 u = min 3 u') (h' : min 3 v = min 3 v') :
    min 3 (min u v) = min 3 (min u' v') := by omega

theorem SameCapped.cells (h : SameCapped row row') {left left' corner corner' : Nat}
    (hl : min 3 left = min 3 left') (hc : min 3 corner = min 3 corner') (q : Text) :
    SameCapped (Walk.cells x left corner q row) (Distance.cells x left' corner' q row') := by
  induction h generalizing left left' corner corner' q with
  | nil => cases q <;> exact .nil
  | @cons up up' above above' hup habove ih =>
    cases q with
    | nil => exact .nil
    | cons y ys =>
      have hv : min 3 (min 3 (min (min (left + 1) (up + 1)) (corner + Distance.cost x y))) =
          min 3 (min (corner' + Distance.cost x y) (min (up' + 1) (left' + 1))) := by
        rw [← Nat.min_assoc 3 3, Nat.min_self, Nat.min_comm (corner' + _), Nat.min_comm (up' + 1)]
        exact capped_min (capped_min (capped_add hl 1) (capped_add hup 1)) (capped_add hc _)
      exact .cons hv (ih hv hup ys)

theorem SameCapped.step (h : SameCapped row row') :
    SameCapped (step q row x) (Distance.nextRow q row' x) := by
  cases h with
  | nil => exact .nil
  | @cons corner corner' above above' hc habove =>
    have hl : min 3 (corner + 1) = min 3 (corner' + 1) := capped_add hc 1
    exact .cons hl (SameCapped.cells habove hl hc q)

theorem SameCapped.alive_iff (h : SameCapped row row') : alive row ↔ ∃ v ∈ row', v ≤ 2 := by
  induction h with
  | nil => simp [alive]
  | @cons u v row row' huv hrow ih =>
    rw [alive, List.any_cons, Bool.or_eq_true, decide_eq_true_eq, le_two_iff huv,
      List.exists_mem_cons_iff]
    exact or_congr_right ih

theorem SameCapped.getLast?_le_iff (h : SameCapped row row') :
    row.getLast?.any (· ≤ 2) ↔ row'.getLast?.any (· ≤ 2) := by
  induction h with
  | nil => rfl
  | @cons u v row row' huv hrow ih =>
    cases hrow with
    | nil => simpa using le_two_iff huv
    | cons => simpa only [List.getLast?_cons_cons] using ih

/-! ### Rows beyond the cap -/

/-- All distances of the row are greater than two. -/
def Far (row : List Nat) : Prop := ∀ v ∈ row, 2 < v

theorem far_cells (h : Far row) {left corner : Nat} (hl : 2 < left) (hc : 2 < corner) (q : Text) :
    Far (Distance.cells x left corner q row) := by
  induction row generalizing left corner q with
  | nil => cases q <;> exact fun _ hv => nomatch hv
  | cons up above ih =>
    obtain ⟨hup, habove⟩ := List.forall_mem_cons.mp h
    cases q with
    | nil => exact fun _ hv => nomatch hv
    | cons y ys =>
      have hv : 2 < min (corner + Distance.cost x y) (min (up + 1) (left + 1)) := by omega
      exact List.forall_mem_cons.mpr ⟨hv, ih habove hv hup ys⟩

theorem far_nextRow (h : Far row) : Far (Distance.nextRow q row x) := by
  cases row with
  | nil => exact h
  | cons corner above =>
    obtain ⟨hc, habove⟩ := List.forall_mem_cons.mp h
    have hl : 2 < corner + 1 := by omega
    exact List.forall_mem_cons.mpr ⟨hl, far_cells habove hl hc q⟩

theorem far_foldl (h : Far row) (k : Text) : Far (k.foldl (Distance.nextRow q) row) := by
  induction k generalizing row with
  | nil => exact h
  | cons x k ih => exact ih (far_nextRow h)

/-! ### The walk -/

/-- A character of ASCII is not mistaken for another one. -/
theorem misled_of_lt (h : x.toNat < 0x80) : misled q row x = false := by
  rw [misled, Text.byteWidth_of_lt h]
  rfl

theorem mem_of_mem_expected {c : Char} (h : c ∈ expected q row) : c ∈ q := by
  obtain ⟨⟨c', d⟩, hmem, hc⟩ := List.mem_filterMap.mp h
  dsimp only at hc
  split_ifs at hc
  rw [← Option.some.inj hc]
  exact (List.of_mem_zip hmem).1

/-- The first byte tells whether a character is of ASCII. -/
theorem leadByte_lt_iff {c : Char} : leadByte c < 0x80 ↔ c.toNat < 0x80 := by
  unfold leadByte
  dsimp only
  split_ifs <;> omega

/-- No character of `k` is mistaken for another one when `q` is looked up. -/
def Unmistaken (q k : Text) : Prop := ∀ x ∈ k, ∀ row, misled q row x = false

theorem unmistaken_of_isAscii (hk : k.IsAscii) : Unmistaken q k := fun x hx _ =>
  misled_of_lt (hk x hx)

/-- A character that is not of ASCII does not begin as one that is. -/
theorem unmistaken_of_isAscii_left (hq : q.IsAscii) : Unmistaken q k := by
  intro x _ row
  by_cases hx : x.toNat < 0x80
  · exact misled_of_lt hx
  · have hnone : (expected q row).reverse.find? (leadByte · == leadByte x) = none := by
      refine List.find?_eq_none.mpr fun c hc heq => hx ?_
      have hc' := leadByte_lt_iff.mpr (hq c (mem_of_mem_expected (List.mem_reverse.mp hc)))
      rw [beq_iff_eq.mp heq] at hc'
      exact leadByte_lt_iff.mp hc'
    rw [misled, hnone, Option.any_none, Bool.and_false]

theorem run_any_iff (hk : Unmistaken q k) (h : SameCapped row row') :
    ((run q row k).bind (·.getLast?)).any (· ≤ 2) ↔
      (k.foldl (Distance.nextRow q) row').getLast?.any (· ≤ 2) := by
  induction k generalizing row row' with
  | nil => exact h.getLast?_le_iff
  | cons x k ih =>
    obtain ⟨hx, hk⟩ := List.forall_mem_cons.mp hk
    have hnext : SameCapped (step q row x) (Distance.nextRow q row' x) := h.step
    rw [run, read, hx row, if_neg Bool.false_ne_true, List.foldl_cons]
    by_cases hlive : alive (step q row x)
    · rw [if_pos hlive]
      exact ih hk hnext
    · -- a row that is given up has no way back to a distance up to two
      have hfar : Far (Distance.nextRow q row' x) := fun v hv => by
        by_contra hle
        exact hlive (hnext.alive_iff.mpr ⟨v, hv, by omega⟩)
      rw [if_neg hlive]
      refine iff_of_false (by simp) fun hany => ?_
      obtain ⟨v, hv, hle⟩ := (Option.any_eq_true _ _).mp hany
      exact Nat.not_le.mpr (far_foldl hfar k v (List.mem_of_getLast? hv)) (of_decide_eq_true hle)

theorem foldl_nextRow_ne_nil (h : row ≠ []) (k : Text) :
    k.foldl (Distance.nextRow q) row ≠ [] := by
  induction k generalizing row with
  | nil => exact h
  | cons x k ih =>
    refine ih ?_
    cases row with
    | nil => exact h
    | cons corner above => exact List.cons_ne_nil _ _

/-- **The walk finds the keys within two edits**, where it is not misled. -/
theorem finds_iff (hk : Unmistaken q k) : finds q k ↔ editDistance k q ≤ 2 := by
  rw [finds, run_any_iff hk (sameCapped_refl _), editDistance]
  have hne : k.foldl (Distance.nextRow q) (Distance.firstRow q) ≠ [] :=
    foldl_nextRow_ne_nil (by simp [Distance.firstRow]) k
  rw [List.getLast?_eq_some_getLast hne, List.getLastD_eq_getLast?,
    List.getLast?_eq_some_getLast hne, Option.any_some, Option.getD_some, decide_eq_true_eq]

/-! ### The size of the automaton -/

theorem isTooLarge_of_isAscii (hq : q.IsAscii) (hlen : q.length < 40) : isTooLarge q = false := by
  have hall : q.all (·.toNat < 0x80) = true := by simpa [Text.IsAscii] using hq
  have hshort : isShort q = true := by
    rw [isShort, hall, if_pos rfl, decide_eq_true_eq]
    exact hlen
  rw [isTooLarge, hshort]
  rfl

end Typeahead.Walk
