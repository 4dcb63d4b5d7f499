import Mathlib.Data.List.Basic
import Mathlib.Data.List.Nodup
import Mathlib.Data.Option.Basic
import Typeahead.WordMap

/-! # Maps from texts, by their look-ups

A map is `Sorted` if its keys increase strictly. On sorted maps `alter` changes the look-up of its
key and of no other (`get?_alter`), and a sorted map is known by its look-ups (`Sorted.ext`): two
ways of filling a map give the same list of entries as soon as they give the same look-ups. -/

namespace Typeahead.WordMap

variable {α : Type} {m : WordMap α} {k j : Text} {v : α}

/-- The keys of the map increase strictly. -/
def Sorted (m : WordMap α) : Prop := m.Pairwise fun a b => compare a.1 b.1 = .lt

theorem sorted_nil : Sorted ([] : WordMap α) := List.Pairwise.nil

theorem sorted_cons {e : Text × α} : Sorted (e :: m) ↔
    (∀ a ∈ m, compare e.1 a.1 = .lt) ∧ Sorted m := List.pairwise_cons

theorem ne_of_lt (h : compare k j = .lt) : k ≠ j := by
  rintro rfl
  have hk : compare k k = .eq := Std.ReflOrd.compare_self
  rw [hk] at h
  cases h

theorem lt_trans {l : Text} (h : compare k j = .lt) (h' : compare j l = .lt) :
    compare k l = .lt := Std.TransCmp.lt_trans h h'

/-! ### Look-ups -/

@[simp] theorem get?_nil : get? ([] : WordMap α) k = none := rfl

theorem get?_cons {e : Text × α} : get? (e :: m) k = if e.1 = k then some e.2 else get? m k := by
  unfold get?
  rw [List.find?_cons]
  split_ifs with h
  · simp [h]
  · have hb : (e.1 == k) = false := by simpa using h
    simp [hb]

theorem get?_eq_none_of_lt (h : ∀ a ∈ m, compare k a.1 = .lt) : get? m k = none := by
  simp only [get?, Option.map_eq_none_iff, List.find?_eq_none, beq_iff_eq]
  exact fun a ha he => ne_of_lt (h a ha) he.symm

theorem ne_nil_iff : m ≠ [] ↔ ∃ k, (get? m k).isSome := by
  constructor
  · intro hm
    obtain ⟨e, rest, rfl⟩ := List.exists_cons_of_ne_nil hm
    exact ⟨e.1, by rw [get?_cons, if_pos rfl]; rfl⟩
  · rintro ⟨k, hk⟩ rfl
    simp at hk

theorem has_eq : has m k = (get? m k).isSome := by
  rw [Bool.eq_iff_iff, has, get?, Option.isSome_map, List.any_eq_true, List.find?_isSome]

theorem mem_of_get? (h : get? m k = some v) : (k, v) ∈ m := by
  unfold get? at h
  obtain ⟨⟨j, w⟩, hf, rfl⟩ := Option.map_eq_some_iff.mp h
  have hk := List.find?_some hf
  simp only [beq_iff_eq] at hk
  rw [← hk]
  exact List.mem_of_find?_eq_some hf

/-- On a sorted map the look-ups are the entries. -/
theorem get?_eq_some_iff (hm : Sorted m) : get? m k = some v ↔ (k, v) ∈ m := by
  refine ⟨mem_of_get?, fun h => ?_⟩
  induction m with
  | nil => cases h
  | cons e m ih =>
    obtain ⟨he, hm'⟩ := sorted_cons.mp hm
    rw [get?_cons]
    rcases List.mem_cons.mp h with rfl | h
    · rw [if_pos rfl]
    · rw [if_neg (ne_of_lt (he _ h)), ih hm' h]

/-- In a sorted map a key stands once. -/
theorem Sorted.eq_of_key (hm : Sorted m) {e e' : Text × α} (he : e ∈ m) (he' : e' ∈ m)
    (h : e.1 = e'.1) : e = e' := by
  have hv := (get?_eq_some_iff hm).mpr he
  rw [h, (get?_eq_some_iff hm).mpr he'] at hv
  exact Prod.ext h (Option.some.inj hv).symm

theorem Sorted.nodup_keys (hm : Sorted m) : (m.map (·.1)).Nodup :=
  List.pairwise_map.mpr (hm.imp ne_of_lt)

theorem Sorted.nodup (hm : Sorted m) : m.Nodup := List.Nodup.of_map _ hm.nodup_keys

/-- The first entries of a sorted map are those with few smaller keys. -/
theorem Sorted.mem_take_iff (hm : Sorted m) {n : Nat} {e : Text × α} :
    e ∈ m.take n ↔ e ∈ m ∧ m.countP (fun a => compare a.1 e.1 == .lt) < n := by
  induction m generalizing n with
  | nil => simp
  | cons a m ih =>
    obtain ⟨ha, hm'⟩ := sorted_cons.mp hm
    cases n with
    | zero => simp
    | succ n =>
      have hbehind (he : e ∈ m) : (a :: m).countP (fun a => compare a.1 e.1 == .lt) =
          m.countP (fun a => compare a.1 e.1 == .lt) + 1 :=
        List.countP_cons_of_pos (beq_iff_eq.mpr (ha e he))
      rw [List.take_succ_cons, List.mem_cons, ih hm', List.mem_cons]
      constructor
      · rintro (rfl | ⟨he, hcount⟩)
        · have hnone : (e :: m).countP (fun a => compare a.1 e.1 == .lt) = 0 := by
            refine List.countP_eq_zero.mpr fun b hb hlt => ?_
            rw [beq_iff_eq] at hlt
            rcases List.mem_cons.mp hb with rfl | hb
            · exact ne_of_lt hlt rfl
            · exact ne_of_lt (lt_trans hlt (ha b hb)) rfl
          exact ⟨.inl rfl, by omega⟩
        · exact ⟨.inr he, by rw [hbehind he]; omega⟩
      · rintro ⟨rfl | he, hcount⟩
        · exact .inl rfl
        · rw [hbehind he] at hcount
          exact .inr ⟨he, by omega⟩

/-- **A sorted map is known by its look-ups.** -/
theorem Sorted.ext : ∀ {m m' : WordMap α}, Sorted m → Sorted m' →
    (∀ k, get? m k = get? m' k) → m = m'
  | [], [], _, _, _ => rfl
  | [], e :: m', _, _, h => by
    have := h e.1
    rw [get?_cons, if_pos rfl] at this
    cases this
  | e :: m, [], _, _, h => by
    have := h e.1
    rw [get?_cons, if_pos rfl] at this
    cases this
  | (k, v) :: m, (k', v') :: m', hm, hm', h => by
    obtain ⟨hk, hs⟩ := sorted_cons.mp hm
    obtain ⟨hk', hs'⟩ := sorted_cons.mp hm'
    -- a smaller first key would be missing on the other side
    have hkk : k = k' := by
      rcases hc : compare k k' with _ | _ | _
      · have hn : get? ((k', v') :: m') k = none := get?_eq_none_of_lt fun a ha => by
          rcases List.mem_cons.mp ha with rfl | ha
          · exact hc
          · exact lt_trans hc (hk' a ha)
        rw [← h, get?_cons, if_pos rfl] at hn
        cases hn
      · exact Std.LawfulEqOrd.eq_of_compare hc
      · have hc' : compare k' k = .lt := Std.OrientedCmp.lt_of_gt hc
        have hn : get? ((k, v) :: m) k' = none := get?_eq_none_of_lt fun a ha => by
          rcases List.mem_cons.mp ha with rfl | ha
          · exact hc'
          · exact lt_trans hc' (hk a ha)
        rw [h, get?_cons, if_pos rfl] at hn
        cases hn
    subst hkk
    have hv : v = v' := by
      have := h k
      rw [get?_cons, get?_cons, if_pos rfl, if_pos rfl] at this
      exact Option.some.inj this
    have hrest : m = m' := hs.ext hs' fun j => by
      have hj := h j
      rw [get?_cons, get?_cons] at hj
      by_cases hkj : k = j
      · subst hkj
        rw [get?_eq_none_of_lt hk, get?_eq_none_of_lt hk']
      · simpa only [if_neg hkj] using hj
    rw [hv, hrest]

/-! ### Changes -/

variable {f : Option α → Option α}

/-- An entry of a changed map is an old one or has the key of the change. -/
theorem fst_of_mem_alter {a : Text × α} : ∀ {m : WordMap α}, a ∈ alter k f m →
    a.1 = k ∨ a ∈ m
  | [], h => by
    unfold alter at h
    obtain ⟨w, -, rfl⟩ := Option.map_eq_some_iff.mp (Option.mem_toList.mp h)
    exact Or.inl rfl
  | (k', v) :: m, h => by
    unfold alter at h
    split at h
    · rcases List.mem_append.mp h with h | h
      · obtain ⟨w, -, rfl⟩ := Option.map_eq_some_iff.mp (Option.mem_toList.mp h)
        exact Or.inl rfl
      · exact Or.inr h
    · rcases List.mem_append.mp h with h | h
      · obtain ⟨w, -, rfl⟩ := Option.map_eq_some_iff.mp (Option.mem_toList.mp h)
        exact Or.inl rfl
      · exact Or.inr (List.mem_cons_of_mem _ h)
    · rcases List.mem_cons.mp h with rfl | h
      · exact Or.inr List.mem_cons_self
      · exact (fst_of_mem_alter h).imp_right (List.mem_cons_of_mem _)

/-- An entry of the key, or none, in front of larger keys. -/
theorem sorted_toList_append (hk : ∀ a ∈ m, compare k a.1 = .lt) (hm : Sorted m) (o : Option α) :
    Sorted ((o.map (k, ·)).toList ++ m) := by
  cases o with
  | none => exact hm
  | some w => exact sorted_cons.mpr ⟨hk, hm⟩

theorem sorted_alter : ∀ {m : WordMap α}, Sorted m → Sorted (alter k f m)
  | [], _ => by
    have h := sorted_toList_append (k := k) (by simp) sorted_nil (f none)
    rwa [List.append_nil] at h
  | (k', v) :: m, hm => by
    obtain ⟨hk', hm'⟩ := sorted_cons.mp hm
    unfold alter
    split
    · next hc =>
      refine sorted_toList_append (fun a ha => ?_) hm _
      rcases List.mem_cons.mp ha with rfl | ha
      · exact hc
      · exact lt_trans hc (hk' a ha)
    · next hc =>
      have he : k = k' := Std.LawfulEqOrd.eq_of_compare hc
      exact sorted_toList_append (fun a ha => he ▸ hk' a ha) hm' _
    · next hc =>
      refine sorted_cons.mpr ⟨fun a ha => ?_, sorted_alter hm'⟩
      rcases fst_of_mem_alter ha with ha | ha
      · rw [ha]; exact Std.OrientedCmp.lt_of_gt hc
      · exact hk' a ha

theorem get?_toList_append (hk : get? m k = none) (o : Option α) :
    get? ((o.map (k, ·)).toList ++ m) j = if j = k then o else get? m j := by
  cases o with
  | none =>
    split_ifs with h
    · rw [h]; exact hk
    · rfl
  | some w =>
    show get? ((k, w) :: m) j = _
    rw [get?_cons]
    by_cases h : j = k
    · rw [if_pos h.symm, if_pos h]
    · rw [if_neg fun h' => h h'.symm, if_neg h]

/-- **A change is seen at its key and nowhere else.** -/
theorem get?_alter : ∀ {m : WordMap α}, Sorted m →
    get? (alter k f m) j = if j = k then f (get? m k) else get? m j
  | [], _ => by
    have h := get?_toList_append (m := []) (k := k) (j := j) rfl (f none)
    rwa [List.append_nil] at h
  | (k', v) :: m, hm => by
    obtain ⟨hk', hm'⟩ := sorted_cons.mp hm
    unfold alter
    split
    · next hc =>
      have hn : get? ((k', v) :: m) k = none := get?_eq_none_of_lt fun a ha => by
        rcases List.mem_cons.mp ha with rfl | ha
        · exact hc
        · exact lt_trans hc (hk' a ha)
      rw [get?_toList_append hn, hn]
    · next hc =>
      have he : k = k' := Std.LawfulEqOrd.eq_of_compare hc
      subst he
      rw [get?_toList_append (get?_eq_none_of_lt hk'), get?_cons, if_pos rfl, get?_cons]
      split_ifs with h h'
      · rfl
      · exact absurd h'.symm h
      · rfl
    · next hc =>
      have hne : k' ≠ k := ne_of_lt (Std.OrientedCmp.lt_of_gt hc)
      rw [get?_cons, get?_alter hm', get?_cons, get?_cons, if_neg hne]
      by_cases h : k' = j
      · rw [if_pos h, if_pos h, if_neg fun h' => hne (h.trans h')]
      · rw [if_neg h, if_neg h]

theorem sorted_erase (hm : Sorted m) : Sorted (erase k m) := sorted_alter hm

theorem get?_erase (hm : Sorted m) :
    get? (erase k m) j = if j = k then none else get? m j := get?_alter hm

theorem sorted_set (hm : Sorted m) : Sorted (set k v m) := sorted_alter hm

theorem get?_set (hm : Sorted m) :
    get? (set k v m) j = if j = k then some v else get? m j := get?_alter hm

theorem sorted_raise {m : WordMap Nat} {n : Nat} (hm : Sorted m) : Sorted (raise k n m) :=
  sorted_alter hm

/-- Raising joins a number to what a key has. -/
theorem get?_raise {m : WordMap Nat} {n : Nat} (hm : Sorted m) :
    get? (raise k n m) j = if j = k then (get? m k).merge max (some n) else get? m j := by
  rw [raise, get?_alter hm]
  cases get? m k <;> simp

theorem raise_ne_nil {m : WordMap Nat} {n : Nat} (hm : Sorted m) : raise k n m ≠ [] := by
  intro h
  have hg := get?_raise (k := k) (j := k) (n := n) hm
  rw [h, if_pos rfl] at hg
  cases hk : get? m k <;> simp [hk] at hg

end Typeahead.WordMap
