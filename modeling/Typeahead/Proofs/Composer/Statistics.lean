import Mathlib.Data.List.Basic
import Mathlib.Data.List.Induction
import Typeahead.Proofs.Composer

/-! # What a composer says of its word

The counts are those of the word after any inputs, so whatever is asked of a composer can be
answered from its word and the shift state (`Counted.describes`). The touch points are one list of
`Pointer`s here. Kept in four lists instead, each of which is changed by itself, they are the
columns of that list at all times (`traced_eq`), so the four lists never differ in length. As long
as there is nothing but typing, every character has its touch point, and these are counted from zero
(`Keyed.inputs`). -/

namespace Typeahead

/-! ### Touch points in four lists -/

/-- Touch points as four lists. -/
structure Trace where
  xs : List Int := []
  ys : List Int := []
  fingers : List Int := []
  times : List Int := []
  deriving DecidableEq, Repr

namespace Trace

variable {t : Trace} {ps : List Pointer}

/-- The lists are of one length. -/
structure IsEven (t : Trace) : Prop where
  ys : t.ys.length = t.xs.length
  fingers : t.fingers.length = t.xs.length
  times : t.times.length = t.xs.length

/-- The columns of a list of touch points. -/
def ofPointers (ps : List Pointer) : Trace :=
  ⟨ps.map (·.x), ps.map (·.y), ps.map (·.finger), ps.map (·.time)⟩

/-- Each list with one more item. -/
def push (t : Trace) (p : Pointer) : Trace :=
  ⟨t.xs ++ [p.x], t.ys ++ [p.y], t.fingers ++ [p.finger], t.times ++ [p.time]⟩

/-- Each list without its last item. -/
def pop (t : Trace) : Trace :=
  ⟨t.xs.dropLast, t.ys.dropLast, t.fingers.dropLast, t.times.dropLast⟩

theorem ofPointers_concat (ps : List Pointer) (p : Pointer) :
    ofPointers (ps ++ [p]) = (ofPointers ps).push p := by simp [ofPointers, push]

theorem ofPointers_dropLast (ps : List Pointer) :
    ofPointers ps.dropLast = (ofPointers ps).pop := by simp [ofPointers, pop, List.map_dropLast]

theorem isEven_ofPointers (ps : List Pointer) : (ofPointers ps).IsEven := by
  constructor <;> simp [ofPointers]

/-- **Four lists of one length** are the columns of touch points. -/
theorem exists_ofPointers : ∀ {t : Trace}, t.IsEven → ∃ ps, ofPointers ps = t
  | ⟨[], ys, fingers, times⟩, h => by
    obtain rfl := List.length_eq_zero_iff.mp h.ys
    obtain rfl := List.length_eq_zero_iff.mp h.fingers
    obtain rfl := List.length_eq_zero_iff.mp h.times
    exact ⟨[], rfl⟩
  | ⟨x :: xs, ys, fingers, times⟩, h => by
    obtain ⟨y, ys, rfl⟩ := List.exists_cons_of_length_eq_add_one h.ys
    obtain ⟨finger, fingers, rfl⟩ := List.exists_cons_of_length_eq_add_one h.fingers
    obtain ⟨time, times, rfl⟩ := List.exists_cons_of_length_eq_add_one h.times
    have hrest : (⟨xs, ys, fingers, times⟩ : Trace).IsEven :=
      ⟨Nat.succ.inj h.ys, Nat.succ.inj h.fingers, Nat.succ.inj h.times⟩
    obtain ⟨ps, hps⟩ := exists_ofPointers hrest
    obtain ⟨rfl, rfl, rfl, rfl⟩ := Trace.mk.inj hps
    exact ⟨⟨x, y, finger, time⟩ :: ps, rfl⟩

end Trace

namespace Composer

variable {c : Composer}

/-! ### Deletions -/

theorem word_deleteLast (c : Composer) : c.deleteLast.2.word = c.word.dropLast := by
  unfold deleteLast
  split_ifs with hempty
  · rw [List.isEmpty_iff.mp hempty]
    rfl
  · rfl

theorem pointers_deleteLast (c : Composer) : c.deleteLast.2.pointers =
    if c.word.isEmpty then c.pointers
    else if c.word.dropLast.length < c.pointers.length then c.pointers.dropLast
    else c.pointers := by
  unfold deleteLast
  split <;> rfl

theorem deleteLast_of_nil (h : c.word = []) : c.deleteLast = (false, c) := by
  unfold deleteLast
  rw [h]
  rfl

theorem deleteLast_eq_false_iff : c.deleteLast.1 = false ↔ c.word = [] := by
  refine ⟨fun h => ?_, fun h => by rw [deleteLast_of_nil h]⟩
  unfold deleteLast at h
  split_ifs at h with hempty
  exact List.isEmpty_iff.mp hempty

/-! ### Four lists next to a composer -/

/-- What an input does to four lists of touch points, `w` being the word before it. -/
def Input.trace (w : Text) (t : Trace) : Input → Trace
  | .key _ x y => t.push ⟨x, y, 0, t.xs.length⟩
  | .delete => if w.isEmpty then t else if w.dropLast.length < t.xs.length then t.pop else t
  | .setBatchPointers ps => .ofPointers ps
  | .setWord _ | .reset => {}
  | .setBatchWord _ | .setCaps _ | .setResumed _ | .setRejected _ => t

/-- A composer next to four lists of touch points, after some inputs. -/
def traced (is : List Input) : Composer × Trace :=
  is.foldl (fun (c, t) i => (c.input i, i.trace c.word t)) ({}, {})

theorem trace_ofPointers (c : Composer) (i : Input) :
    i.trace c.word (.ofPointers c.pointers) = .ofPointers (c.input i).pointers := by
  cases i with
  | key ch x y =>
    have hlength : (Trace.ofPointers c.pointers).xs.length = c.pointers.length := List.length_map _
    show (Trace.ofPointers c.pointers).push ⟨x, y, 0, (Trace.ofPointers c.pointers).xs.length⟩ =
      .ofPointers (c.pointers ++ [⟨x, y, 0, c.pointers.length⟩])
    rw [hlength, Trace.ofPointers_concat]
  | delete =>
    have hlength : (Trace.ofPointers c.pointers).xs.length = c.pointers.length := List.length_map _
    show (if c.word.isEmpty then _ else if c.word.dropLast.length <
      (Trace.ofPointers c.pointers).xs.length then _ else _) =
        Trace.ofPointers c.deleteLast.2.pointers
    rw [hlength, pointers_deleteLast]
    split_ifs
    · rfl
    · exact (Trace.ofPointers_dropLast c.pointers).symm
    · rfl
  | setWord | setBatchWord | setBatchPointers | setCaps | setResumed | setRejected | reset => rfl

/-- **Four lists**, each changed by itself, are the columns of the touch points. -/
theorem traced_eq (is : List Input) :
    traced is = (inputs {} is, .ofPointers (inputs {} is).pointers) := by
  induction is using List.reverseRecOn with
  | nil => rfl
  | append_singleton is i ih =>
    have htraced : traced (is ++ [i]) =
        ((traced is).1.input i, i.trace (traced is).1.word (traced is).2) := by
      rw [traced, List.foldl_concat]
      rfl
    have hinputs : inputs {} (is ++ [i]) = (inputs {} is).input i := List.foldl_concat ..
    rw [htraced, ih, hinputs, trace_ofPointers]

/-! ### What is asked of a composer -/

/-- The answers of a composer are those of its word and the shift state. -/
structure Describes (c : Composer) : Prop where
  hasDigits : c.hasDigits = c.word.any Text.isNumeric
  isMostlyCaps : c.isMostlyCaps = true ↔ 2 ≤ (c.word.filter Text.isUpper).length
  isFirstCapital : c.isFirstCapital =
    match c.word with
    | [] => c.caps != .off
    | first :: rest => Text.isUpper first && rest.all (!Text.isUpper ·)
  isAllUpper : c.isAllUpper =
    if c.word.length ≤ 1 then c.caps.isLocked else c.word.all Text.isUpper

theorem isFirstCapital_eq (h : c.Counted) : c.isFirstCapital =
    match c.word with
    | [] => c.caps != .off
    | first :: rest => Text.isUpper first && rest.all (!Text.isUpper ·) := by
  unfold isFirstCapital isComposing
  rw [h]
  rcases c.word with _ | ⟨first, rest⟩
  · rfl
  · show (((first :: rest).countP Text.isUpper == 1) && Text.isUpper first) = _
    rw [Bool.eq_iff_iff, Bool.and_eq_true, Bool.and_eq_true, beq_iff_eq, List.all_eq_true,
      List.countP_cons, and_comm]
    refine and_congr_right fun hfirst => ?_
    rw [if_pos hfirst, Nat.add_eq_right, List.countP_eq_zero]
    simp only [Bool.not_eq_true, Bool.not_eq_true']

theorem isAllUpper_eq (h : c.Counted) : c.isAllUpper =
    if c.word.length ≤ 1 then c.caps.isLocked else c.word.all Text.isUpper := by
  unfold isAllUpper
  rw [h]
  split_ifs
  · rfl
  · show (c.word.countP Text.isUpper == c.word.length) = _
    rw [Bool.eq_iff_iff, beq_iff_eq, List.countP_eq_length, List.all_eq_true]

/-- **Right counts** give right answers. -/
theorem Counted.describes (h : c.Counted) : c.Describes := by
  refine ⟨?_, ?_, isFirstCapital_eq h, isAllUpper_eq h⟩
  · rw [Bool.eq_iff_iff, ← not_iff_not, Bool.not_eq_true, hasDigits_eq_false_iff h,
      List.any_eq_true]
    simp only [not_exists, not_and, Bool.not_eq_true]
  · rw [← not_iff_not, Bool.not_eq_true, isMostlyCaps_eq_false_iff h, List.countP_eq_length_filter,
      Nat.not_le, Nat.lt_succ_iff]

/-! ### Typing -/

/-- The input is a key, a deletion or a new start. -/
def Input.IsTyping : Input → Prop
  | .key .. | .delete | .reset => True
  | _ => False

instance (i : Input) : Decidable i.IsTyping := by
  cases i <;> unfold Input.IsTyping <;> infer_instance

/-- Every character has its touch point, and these are counted from zero. -/
def Keyed (c : Composer) : Prop :=
  c.pointers.map (·.time) = (List.range c.word.length).map Int.ofNat

theorem Keyed.length_eq (h : c.Keyed) : c.pointers.length = c.word.length := by
  have hlength := congrArg List.length h
  simpa using hlength

theorem Keyed.input (h : c.Keyed) {i : Input} (hi : i.IsTyping) : (c.input i).Keyed := by
  cases i with
  | key ch x y =>
    show (c.pointers ++ [_]).map _ = (List.range (c.word ++ [ch]).length).map _
    rw [List.map_append, h, List.length_append, List.length_singleton, List.range_succ,
      List.map_append, ← h.length_eq]
    rfl
  | delete =>
    show c.deleteLast.2.pointers.map _ = (List.range c.deleteLast.2.word.length).map _
    rw [pointers_deleteLast, word_deleteLast, List.length_dropLast]
    split_ifs with hempty hshorter
    · rw [h, List.isEmpty_iff.mp hempty]
      rfl
    · have hpos : 0 < c.word.length := List.length_pos_iff.mpr (by simpa using hempty)
      rw [List.map_dropLast, h, ← List.map_dropLast]
      obtain ⟨n, hn⟩ := Nat.exists_eq_add_of_lt hpos
      rw [hn, Nat.zero_add, Nat.add_sub_cancel, List.range_succ, List.dropLast_concat]
    · -- there are as many touch points as characters, so one of them is left over
      have hpos : 0 < c.word.length := List.length_pos_iff.mpr (by simpa using hempty)
      rw [h.length_eq] at hshorter
      omega
  | reset => rfl
  | setWord | setBatchWord | setBatchPointers | setCaps | setResumed | setRejected =>
    exact False.elim hi

theorem Keyed.inputs (is : List Input) : ∀ {c : Composer}, c.Keyed → (∀ i ∈ is, i.IsTyping) →
    (c.inputs is).Keyed := by
  induction is with
  | nil => exact fun h _ => h
  | cons i is ih =>
    intro c h his
    exact ih (h.input (his i List.mem_cons_self)) fun j hj => his j (List.mem_cons_of_mem i hj)

/-! ### After any inputs -/

/-- **What a composer says is right** after any inputs: its answers are those of the word and the
shift state. Four lists of touch points, in which a gesture may leave any four of one length, stay
of one length and hold what the composer has. A deletion fails on the empty word only, and then
changes nothing. After nothing but typing there is one touch point for each character, counted from
zero. -/
theorem describes_inputs (is : List Input) :
    let c := inputs {} is
    c.Describes ∧
      ((traced is).2.IsEven ∧ (traced is).2 = .ofPointers c.pointers ∧
        ∀ t : Trace, t.IsEven → ∃ ps, t = (traced (is ++ [.setBatchPointers ps])).2) ∧
      (c.deleteLast.1 = false ↔ c.word = []) ∧ (c.deleteLast.1 = false → c.deleteLast.2 = c) ∧
      ((∀ i ∈ is, i.IsTyping) → c.pointers.length = c.word.length ∧
        c.pointers.map (·.time) = (List.range c.word.length).map Int.ofNat) := by
  intro c
  refine ⟨(counted_inputs is counted_new).describes, ⟨?_, ?_, fun t ht => ?_⟩,
    deleteLast_eq_false_iff, fun hfalse => ?_, fun his => ?_⟩
  · rw [traced_eq]
    exact Trace.isEven_ofPointers _
  · rw [traced_eq]
  · obtain ⟨ps, rfl⟩ := Trace.exists_ofPointers ht
    have hinputs : inputs {} (is ++ [.setBatchPointers ps]) = c.setBatchPointers ps :=
      List.foldl_concat ..
    exact ⟨ps, by rw [traced_eq, hinputs]; rfl⟩
  · rw [deleteLast_of_nil (deleteLast_eq_false_iff.mp hfalse)]
  · have hkeyed : c.Keyed := Keyed.inputs is (c := {}) rfl his
    exact ⟨hkeyed.length_eq, hkeyed⟩

/-- Letters and a digit are typed after a new start; the digit is deleted again. -/
theorem describes_inputs_typed :
    let is : List Input := [.key 'x' 1 1, .reset, .key 'H' 5 2, .key 'i' 8 2, .key '2' 9 4, .delete]
    let c := inputs {} is
    (∀ i ∈ is, i.IsTyping) ∧ c.word = ['H', 'i'] ∧ c.hasDigits = false ∧
      c.isFirstCapital = true ∧ c.pointers.length = 2 ∧ c.pointers.map (·.time) = [0, 1] := by
  intro is c
  have htyping : ∀ i ∈ is, i.IsTyping := by decide
  have h := (describes_inputs is).2.2.2.2 htyping
  exact ⟨htyping, by decide, by decide, by decide, h.1, h.2⟩

end Composer

end Typeahead
