import Mathlib.Data.List.Basic
import Mathlib.Data.List.Induction
import Typeahead.Candidate

/-! # Lists without repeated words

`firstOccurrences` keeps of each word the candidate that comes first: the result is in the order of
the list, has no word twice, and holds a candidate exactly when a search for its word finds it
(`firstOf_firstOccurrences`). Taking out one word commutes with that (`FirstOf.withoutWord`). The
loops, which take out of a list what repeats while they run over it, arrive there: what is before
the place where they are stays, and behind it the first occurrences are left
(`takeOutRepeated_eq`). In terms of places, those stay at which a word stands for the first time;
the typed word goes wherever it stands, and its first place is reported
(`removeTypedAndRepeated_by_places`). -/

namespace Typeahead

variable {cs shown : List Candidate} {c : Candidate} {w v : Text}

/-- Candidates without those of the word `w`. -/
def withoutWord (w : Text) (cs : List Candidate) : List Candidate := cs.filter (·.word != w)

/-- Candidates of which each word keeps its first occurrence only. -/
def firstOccurrences : List Candidate → List Candidate
  | [] => []
  | c :: rest => c :: withoutWord c.word (firstOccurrences rest)

theorem mem_withoutWord : c ∈ withoutWord w cs ↔ c ∈ cs ∧ c.word ≠ w := by
  simp [withoutWord]

theorem withoutWord_eq_self (h : ∀ c ∈ cs, c.word ≠ w) : withoutWord w cs = cs :=
  List.filter_eq_self.mpr fun c hc => by simpa using h c hc

theorem withoutWord_cons_self (h : c.word = w) : withoutWord w (c :: cs) = withoutWord w cs :=
  List.filter_cons_of_neg (by simpa using h)

theorem withoutWord_cons (h : c.word ≠ w) : withoutWord w (c :: cs) = c :: withoutWord w cs :=
  List.filter_cons_of_pos (by simpa using h)

theorem find?_withoutWord (hv : v ≠ w) :
    (withoutWord w cs).find? (·.word == v) = cs.find? (·.word == v) := by
  rw [withoutWord, List.find?_filter]
  congr 1
  funext c
  by_cases hc : c.word = v
  · simp [hc, hv]
  · simp [hc]

/-- `shown` holds each word of `cs` once, at its first occurrence. -/
structure FirstOf (cs shown : List Candidate) : Prop where
  sublist : shown.Sublist cs
  nodup : (shown.map (·.word)).Nodup
  mem_iff : ∀ c, c ∈ shown ↔ cs.find? (·.word == c.word) = some c

theorem firstOf_nil : FirstOf [] [] := ⟨.slnil, List.nodup_nil, fun _ => by simp⟩

theorem FirstOf.cons (h : FirstOf cs shown) (c : Candidate) :
    FirstOf (c :: cs) (c :: Typeahead.withoutWord c.word shown) where
  sublist := (List.filter_sublist.trans h.sublist).cons_cons c
  nodup := by
    rw [List.map_cons, List.nodup_cons]
    refine ⟨fun hc => ?_, h.nodup.sublist (List.filter_sublist.map _)⟩
    obtain ⟨x, hx, hw⟩ := List.mem_map.mp hc
    exact (mem_withoutWord.mp hx).2 hw
  mem_iff x := by
    rw [List.mem_cons, mem_withoutWord, List.find?_cons]
    by_cases hx : c.word = x.word
    · have hb : (c.word == x.word) = true := by simpa using hx
      simp only [hb, Option.some.injEq]
      exact ⟨fun h' => h'.elim Eq.symm fun h' => absurd hx.symm h'.2, fun h' => .inl h'.symm⟩
    · have hb : (c.word == x.word) = false := by simpa using hx
      simp only [hb]
      rw [← h.mem_iff]
      refine ⟨fun h' => h'.elim (fun h' => ?_) (·.1), fun h' => .inr ⟨h', Ne.symm hx⟩⟩
      exact absurd (congrArg Candidate.word h'.symm) hx

theorem FirstOf.withoutWord (h : FirstOf cs shown) (w : Text) :
    FirstOf (withoutWord w cs) (withoutWord w shown) where
  sublist := h.sublist.filter _
  nodup := h.nodup.sublist (List.filter_sublist.map _)
  mem_iff c := by
    rw [mem_withoutWord]
    by_cases hc : c.word = w
    · refine iff_of_false (fun h' => h'.2 hc) fun hf => ?_
      exact (mem_withoutWord.mp (List.mem_of_find?_eq_some hf)).2 hc
    · rw [find?_withoutWord hc, ← h.mem_iff]
      exact and_iff_left hc

/-- **Each word once, at its first occurrence.** -/
theorem firstOf_firstOccurrences (cs : List Candidate) : FirstOf cs (firstOccurrences cs) := by
  induction cs with
  | nil => exact firstOf_nil
  | cons c cs ih => exact ih.cons c

theorem firstOccurrences_eq_nil_iff : firstOccurrences cs = [] ↔ cs = [] := by
  cases cs with
  | nil => exact Iff.rfl
  | cons c cs => simp [firstOccurrences]

theorem firstOccurrences_eq_self (h : (cs.map (·.word)).Nodup) : firstOccurrences cs = cs := by
  induction cs with
  | nil => rfl
  | cons c cs ih =>
    obtain ⟨hc, hcs⟩ := List.nodup_cons.mp h
    rw [firstOccurrences, ih hcs, withoutWord_eq_self]
    intro d hd hw
    exact hc (List.mem_map.mpr ⟨d, hd, hw⟩)

theorem withoutWord_comm (w v : Text) (cs : List Candidate) :
    withoutWord w (withoutWord v cs) = withoutWord v (withoutWord w cs) :=
  List.filter_comm ..

theorem firstOccurrences_withoutWord (w : Text) (cs : List Candidate) :
    firstOccurrences (withoutWord w cs) = withoutWord w (firstOccurrences cs) := by
  induction cs with
  | nil => rfl
  | cons c cs ih =>
    by_cases hc : c.word = w
    · have htwice : withoutWord w (withoutWord w (firstOccurrences cs)) =
          withoutWord w (firstOccurrences cs) :=
        withoutWord_eq_self fun d hd => (mem_withoutWord.mp hd).2
      rw [withoutWord_cons_self hc, ih, firstOccurrences, withoutWord_cons_self hc, hc, htwice]
    · rw [withoutWord_cons hc, firstOccurrences, ih, firstOccurrences, withoutWord_cons hc,
        withoutWord_comm]

/-! ### The loops -/

/-- One word is taken out, from the place `i` on. -/
theorem snd_takeOut (w : Text) (first : Option Nat) (i : Nat) (cs : List Candidate) :
    (takeOut w first i cs).2 = cs.take i ++ withoutWord w (cs.drop i) := by
  fun_induction takeOut w first i cs with
  | case1 first i cs h hw ih =>
    have hlen : (cs.take i).length = i := List.length_take_of_le (Nat.le_of_lt h)
    rw [ih, List.eraseIdx_eq_take_drop_succ, List.take_left' hlen, List.drop_left' hlen,
      List.drop_eq_getElem_cons h, withoutWord_cons_self hw]
  | case2 first i cs h hw ih =>
    rw [ih, List.take_succ_eq_append_getElem h, List.drop_eq_getElem_cons h, withoutWord_cons hw,
      List.append_assoc, List.singleton_append]
  | case3 first i cs h =>
    have hle := Nat.le_of_not_lt h
    rw [List.take_of_length_le hle, List.drop_of_length_le hle]
    exact (List.append_nil cs).symm

/-- The place that is kept is the first one of the word: when it is found nothing before it has been
taken out, and later ones are not kept. -/
theorem fst_takeOut (w : Text) (first : Option Nat) (i : Nat) (cs : List Candidate) :
    (takeOut w first i cs).1 = first.or (((cs.drop i).findIdx? (·.word == w)).map (· + i)) := by
  fun_induction takeOut w first i cs with
  | case1 first i cs h hw ih =>
    rw [ih, Option.or_assoc, Option.some_or, List.drop_eq_getElem_cons h, List.findIdx?_cons,
      if_pos (beq_iff_eq.mpr hw), Option.map_some, Nat.zero_add]
  | case2 first i cs h hw ih =>
    have hshift : (fun n => n + (i + 1)) = (fun n => n + i) ∘ (fun n => n + 1) := by
      funext n
      exact (Nat.add_right_comm n 1 i).symm
    rw [ih, List.drop_eq_getElem_cons h, List.findIdx?_cons, if_neg (by simpa using hw),
      Option.map_map, hshift]
  | case3 first i cs h =>
    rw [List.drop_of_length_le (Nat.le_of_not_lt h)]
    exact Option.or_none.symm

/-- **What the loop over the list leaves.** -/
theorem takeOutRepeated_eq (i : Nat) (cs : List Candidate) :
    takeOutRepeated i cs = cs.take i ++ firstOccurrences (cs.drop i) := by
  fun_induction takeOutRepeated i cs with
  | case1 i cs h ih =>
    have hlen : (cs.take (i + 1)).length = i + 1 := List.length_take_of_le h
    rw [ih, snd_takeOut, List.take_left' hlen, List.drop_left' hlen, firstOccurrences_withoutWord,
      List.take_succ_eq_append_getElem h, List.drop_eq_getElem_cons h, firstOccurrences,
      List.append_assoc, List.singleton_append]
  | case2 i cs h =>
    have hle := Nat.le_of_not_lt h
    rw [List.take_of_length_le hle, List.drop_of_length_le hle]
    exact (List.append_nil cs).symm

theorem takeOutRepeated_zero (cs : List Candidate) :
    takeOutRepeated 0 cs = firstOccurrences cs := takeOutRepeated_eq 0 cs

theorem removeTypedAndRepeated_none (cs : List Candidate) :
    removeTypedAndRepeated none cs = (none, firstOccurrences cs) := by
  cases cs with
  | nil => rfl
  | cons c cs => exact congrArg (Prod.mk none) (takeOutRepeated_zero (c :: cs))

theorem removeTypedAndRepeated_nil (cs : List Candidate) :
    removeTypedAndRepeated (some []) cs = (none, firstOccurrences cs) := by
  rw [← removeTypedAndRepeated_none]
  rfl

theorem removeTypedAndRepeated_some (hw : w ≠ []) (cs : List Candidate) :
    removeTypedAndRepeated (some w) cs =
      (cs.findIdx? (·.word == w), firstOccurrences (withoutWord w cs)) := by
  have htake : takeOut w none 0 cs = (cs.findIdx? (·.word == w), withoutWord w cs) :=
    Prod.ext ((fst_takeOut w none 0 cs).trans (by simp)) (snd_takeOut w none 0 cs)
  unfold removeTypedAndRepeated
  simp only [htake, takeOutRepeated_zero, List.isEmpty_iff, hw, if_false]
  cases cs <;> rfl

/-! ### By places -/

theorem withoutWord_concat_self (h : c.word = w) :
    withoutWord w (cs ++ [c]) = withoutWord w cs := by
  rw [withoutWord, List.filter_append, List.filter_cons_of_neg (by simpa using h), List.filter_nil,
    List.append_nil, withoutWord]

theorem withoutWord_concat (h : c.word ≠ w) :
    withoutWord w (cs ++ [c]) = withoutWord w cs ++ [c] := by
  rw [withoutWord, List.filter_append, List.filter_cons_of_pos (by simpa using h), List.filter_nil,
    withoutWord]

/-- A candidate behind all others stays if its word is new. -/
theorem firstOccurrences_concat_of_new (h : ∀ d ∈ cs, d.word ≠ c.word) :
    firstOccurrences (cs ++ [c]) = firstOccurrences cs ++ [c] := by
  induction cs with
  | nil => rfl
  | cons d cs ih =>
    obtain ⟨hd, hcs⟩ := List.forall_mem_cons.mp h
    rw [List.cons_append, firstOccurrences, ih hcs, withoutWord_concat hd.symm, firstOccurrences,
      List.cons_append]

theorem firstOccurrences_concat_of_known (h : ∃ d ∈ cs, d.word = c.word) :
    firstOccurrences (cs ++ [c]) = firstOccurrences cs := by
  induction cs with
  | nil => simp at h
  | cons d cs ih =>
    rw [List.cons_append, firstOccurrences, firstOccurrences]
    by_cases hcs : ∃ e ∈ cs, e.word = c.word
    · rw [ih hcs]
    · -- only the word of `d` makes that of `c` known
      have hd : c.word = d.word := (((List.exists_mem_cons_iff ..).mp h).resolve_right hcs).symm
      rw [firstOccurrences_concat_of_new fun e he hw => hcs ⟨e, he, hw⟩, withoutWord_concat_self hd]

/-- The candidate is not of the typed word, if there is one. -/
def isOther (typed : Option Text) (c : Candidate) : Bool := typed != some c.word || c.word.isEmpty

/-- The candidate that stands at a place is the first one of its word there, and this is not the
typed word. -/
def stays (typed : Option Text) (cs : List Candidate) (p : Candidate × Nat) : Bool :=
  isOther typed p.1 && (cs.take p.2).all (·.word != p.1.word)

theorem isOther_nil (c : Candidate) : isOther (some []) c = true := by
  cases hc : c.word <;> simp [isOther, hc]

theorem isOther_some (hw : w ≠ []) (c : Candidate) : isOther (some w) c = (c.word != w) := by
  rw [isOther, bne_comm]
  by_cases hc : c.word = w
  · simp [hc, hw]
  · have hb : (some c.word != some w) = true := by simpa using hc
    rw [hb, Bool.true_or, bne_iff_ne.mpr hc]

theorem isOther_congr {d : Candidate} (h : c.word = d.word) (typed : Option Text) :
    isOther typed c = isOther typed d := by
  rw [isOther, isOther, h]

theorem snd_removeTypedAndRepeated (typed : Option Text) (cs : List Candidate) :
    (removeTypedAndRepeated typed cs).2 = firstOccurrences (cs.filter (isOther typed)) := by
  cases typed with
  | none =>
    have hall : cs.filter (isOther none) = cs := List.filter_eq_self.mpr fun _ _ => rfl
    rw [hall, removeTypedAndRepeated_none]
  | some w =>
    by_cases hw : w = []
    · rw [hw, List.filter_eq_self.mpr fun c _ => isOther_nil c, removeTypedAndRepeated_nil]
    · rw [removeTypedAndRepeated_some hw, funext (isOther_some hw), withoutWord]

/-- **The first occurrences by their places.** -/
theorem firstOccurrences_filter (typed : Option Text) (cs : List Candidate) :
    firstOccurrences (cs.filter (isOther typed)) =
      (cs.zipIdx.filter (stays typed cs)).map (·.1) := by
  induction cs using List.reverseRecOn with
  | nil => rfl
  | append_singleton cs c ih =>
    have hbefore : cs.zipIdx.filter (stays typed (cs ++ [c])) =
        cs.zipIdx.filter (stays typed cs) := by
      refine List.filter_congr fun p hp => ?_
      have hlt : p.2 < cs.length :=
        (List.getElem?_eq_some_iff.mp (List.mem_zipIdx_iff_getElem?.mp hp)).1
      rw [stays, stays, List.take_append_of_le_length (Nat.le_of_lt hlt)]
    have hlast : stays typed (cs ++ [c]) (c, cs.length) =
        (isOther typed c && cs.all (·.word != c.word)) := by
      rw [stays, List.take_left]
    rw [List.zipIdx_append, List.filter_append, List.filter_append, List.map_append, hbefore, ← ih,
      List.zipIdx_singleton, Nat.zero_add, List.filter_singleton, List.filter_singleton, hlast]
    cases hother : isOther typed c with
    | false => simp
    | true =>
      cases hnew : cs.all (·.word != c.word) with
      | true =>
        have hnew : ∀ d ∈ cs, d.word ≠ c.word := by simpa using hnew
        exact firstOccurrences_concat_of_new fun d hd => hnew d (List.mem_of_mem_filter hd)
      | false =>
        obtain ⟨d, hd, hw⟩ : ∃ d ∈ cs, d.word = c.word := by simpa using hnew
        have hmem : d ∈ cs.filter (isOther typed) :=
          List.mem_filter.mpr ⟨hd, (isOther_congr hw typed).trans hother⟩
        exact (firstOccurrences_concat_of_known ⟨d, hmem, hw⟩).trans (List.append_nil _).symm

section Places

variable {typed : Option Text} {i : Nat}

/-- The place that is reported is the first one of the typed word. -/
theorem fst_removeTypedAndRepeated_eq_some_iff :
    (removeTypedAndRepeated typed cs).1 = some i ↔ ∃ w, typed = some w ∧ w ≠ [] ∧
      cs[i]?.map (·.word) = some w ∧ ∀ c ∈ cs.take i, c.word ≠ w := by
  cases typed with
  | none => simp [removeTypedAndRepeated_none]
  | some w =>
    by_cases hw : w = []
    · simp [removeTypedAndRepeated_nil, hw]
    · rw [removeTypedAndRepeated_some hw, List.findIdx?_eq_some_iff_getElem]
      constructor
      · rintro ⟨hi, hc, hbefore⟩
        refine ⟨w, rfl, hw, ?_, fun c hmem => ?_⟩
        · rw [List.getElem?_eq_getElem hi, Option.map_some, beq_iff_eq.mp hc]
        · obtain ⟨j, hj, rfl⟩ := List.mem_take_iff_getElem.mp hmem
          simpa using hbefore j (by omega)
      · rintro ⟨v, hv, -, hc, hbefore⟩
        obtain rfl := Option.some.inj hv
        obtain ⟨c, hc, hcw⟩ := Option.map_eq_some_iff.mp hc
        obtain ⟨hi, rfl⟩ := List.getElem?_eq_some_iff.mp hc
        refine ⟨hi, beq_iff_eq.mpr hcw, fun j hj => ?_⟩
        simpa using hbefore _ (List.mem_take_iff_getElem.mpr ⟨j, by omega, rfl⟩)

/-- No place is reported where there is no typed word. -/
theorem fst_removeTypedAndRepeated_eq_none_iff :
    (removeTypedAndRepeated typed cs).1 = none ↔
      ∀ w, typed = some w → w = [] ∨ ∀ c ∈ cs, c.word ≠ w := by
  cases typed with
  | none => simp [removeTypedAndRepeated_none]
  | some w =>
    by_cases hw : w = []
    · simp [removeTypedAndRepeated_nil, hw]
    · simp [removeTypedAndRepeated_some hw, hw]

/-- Where no word repeats and none is the typed one, nothing is taken out. -/
theorem removeTypedAndRepeated_of_clean (hnodup : (cs.map (·.word)).Nodup)
    (hother : ∀ c ∈ cs, isOther typed c) : removeTypedAndRepeated typed cs = (none, cs) := by
  refine Prod.ext (fst_removeTypedAndRepeated_eq_none_iff.mpr fun w hw => ?_) ?_
  · by_cases hnil : w = []
    · exact .inl hnil
    · refine .inr fun c hc => ?_
      have h := hother c hc
      rw [hw, isOther_some hnil] at h
      exact bne_iff_ne.mp h
  · rw [snd_removeTypedAndRepeated, List.filter_eq_self.mpr hother, firstOccurrences_eq_self hnodup]

/-- **What is taken out**: of the candidates those stay, in their order, that are the first of their
word, the typed word apart; its first place is reported. Once done, there is nothing left to do. -/
theorem removeTypedAndRepeated_by_places (typed : Option Text) (cs : List Candidate) :
    let r := removeTypedAndRepeated typed cs
    r.2 = (cs.zipIdx.filter (stays typed cs)).map (·.1) ∧
      (∀ i, r.1 = some i ↔ ∃ w, typed = some w ∧ w ≠ [] ∧ cs[i]?.map (·.word) = some w ∧
        ∀ c ∈ cs.take i, c.word ≠ w) ∧
      (r.1 = none ↔ ∀ w, typed = some w → w = [] ∨ ∀ c ∈ cs, c.word ≠ w) ∧
      removeTypedAndRepeated typed r.2 = (none, r.2) := by
  have hsnd := snd_removeTypedAndRepeated typed cs
  have hfirst := firstOf_firstOccurrences (cs.filter (isOther typed))
  refine ⟨hsnd.trans (firstOccurrences_filter typed cs),
    fun i => fst_removeTypedAndRepeated_eq_some_iff, fst_removeTypedAndRepeated_eq_none_iff, ?_⟩
  rw [hsnd]
  exact removeTypedAndRepeated_of_clean hfirst.nodup fun c hc =>
    (List.mem_filter.mp (hfirst.sublist.subset hc)).2

end Places

end Typeahead
