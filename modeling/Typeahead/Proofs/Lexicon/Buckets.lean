import Typeahead.Proofs.Lexicon.Views

/-! # Buckets

The index of a built lexicon leads from a key to a bucket of places, and the places to entries. Here
the detour is taken out: the bucket of a key holds the entries whose lower-case form is the key, in
order (`bucket_of_mem_index`), a key is in the index when some entry has it (`exists_mem_index`),
and the keys increase strictly and are as many as the buckets, as is asked of index and payload
(`ofParts_index_payload`). -/

namespace Typeahead.Draft

open WordMap (Sorted)

variable {d : Draft} {k w : Text} {n : Nat}

/-! ### Places by lower-case form -/

/-- Puts the place of one more entry into the bucket of its key. -/
def keep (m : WordMap (List Nat)) (p : Entry × Nat) : WordMap (List Nat) :=
  m.alter (Text.lower p.1.word) fun old => some (old.getD [] ++ [p.2])

theorem keyed_eq_foldl (es : List Entry) : keyed es = es.zipIdx.foldl keep [] := rfl

/-- The places of those entries whose lower-case form is `k`. -/
def placesOf (k : Text) (ps : List (Entry × Nat)) : List Nat :=
  (ps.filter fun p => Text.lower p.1.word == k).map (·.2)

theorem sorted_foldl_keep (ps : List (Entry × Nat)) {m : WordMap (List Nat)} (hm : Sorted m) :
    Sorted (ps.foldl keep m) := by
  induction ps generalizing m with
  | nil => exact hm
  | cons p ps ih => exact ih (WordMap.sorted_alter hm)

theorem sorted_keyed (es : List Entry) : Sorted (keyed es) :=
  sorted_foldl_keep es.zipIdx WordMap.sorted_nil

theorem get?_keyed (es : List Entry) (k : Text) : (keyed es).get? k =
    if placesOf k es.zipIdx = [] then none else some (placesOf k es.zipIdx) := by
  rw [keyed_eq_foldl]
  induction es.zipIdx using List.reverseRecOn with
  | nil => rfl
  | append_singleton ps p ih =>
    have hs : Sorted (ps.foldl keep []) := sorted_foldl_keep ps WordMap.sorted_nil
    rw [List.foldl_concat, keep, WordMap.get?_alter hs]
    by_cases hk : k = Text.lower p.1.word
    · subst hk
      have hp : placesOf (Text.lower p.1.word) (ps ++ [p]) =
          placesOf (Text.lower p.1.word) ps ++ [p.2] := by simp [placesOf]
      have hne : placesOf (Text.lower p.1.word) ps ++ [p.2] ≠ [] := by simp
      rw [if_pos rfl, ih, hp, if_neg hne]
      split_ifs with h
      · rw [h]; rfl
      · rfl
    · have hb : (Text.lower p.1.word == k) = false := by simpa using fun h => hk h.symm
      have hp : placesOf k (ps ++ [p]) = placesOf k ps := by simp [placesOf, hb]
      rw [if_neg hk, ih, hp]

/-- The entries at the places of a key. -/
theorem entries_at_placesOf (es : List Entry) (k : Text) :
    (placesOf k es.zipIdx).filterMap (es[·]?) = es.filter fun e => Text.lower e.word == k := by
  have hcongr : ∀ ps : List (Entry × Nat), (∀ p ∈ ps, p ∈ es.zipIdx) →
      (placesOf k ps).filterMap (es[·]?) =
        (ps.map (·.1)).filter fun e => Text.lower e.word == k := by
    intro ps hps
    induction ps with
    | nil => rfl
    | cons p ps ih =>
      have hp : es[p.2]? = some p.1 := List.mem_zipIdx_iff_getElem?.mp (hps p (by simp))
      have ih' := ih fun q hq => hps q (by simp [hq])
      unfold placesOf at ih' ⊢
      rw [List.filter_cons, List.map_cons, List.filter_cons]
      split_ifs
      · rw [List.map_cons, List.filterMap_cons, hp, ih']
      · exact ih'
  rw [hcongr es.zipIdx fun p hp => hp, List.zipIdx_map_fst]

/-! ### Index and buckets -/

theorem mem_index : (k, n) ∈ d.index ↔ ((keyed d.entries)[n]?).map (·.1) = some k := by
  simp only [index, List.mem_map, Prod.exists, List.mem_zipIdx_iff_getElem?, Prod.mk.injEq,
    Option.map_eq_some_iff]
  constructor
  · rintro ⟨k', is, i, h, rfl, rfl⟩
    exact ⟨k', is, h, rfl⟩
  · rintro ⟨k', is, h, rfl⟩
    exact ⟨k', is, n, h, rfl, rfl⟩

theorem keys_index (d : Draft) : d.index.map (·.1) = (keyed d.entries).map (·.1) := by
  have h : ∀ ps : List ((Text × List Nat) × Nat),
      (ps.map fun p => (p.1.1, p.2)).map (·.1) = (ps.map (·.1)).map (·.1) := by
    intro ps
    simp
  unfold index
  rw [← List.zipIdx_map_fst 0 (keyed d.entries), ← h]
  simp

theorem sorted_index (d : Draft) : Sorted d.index := by
  have hs : ((keyed d.entries).map (·.1)).Pairwise fun a b => compare a b = .lt :=
    List.pairwise_map.mpr (sorted_keyed d.entries)
  rw [← keys_index] at hs
  exact List.pairwise_map.mp hs

/-- **Index and payload fit together.** -/
theorem ofParts_index_payload (d : Draft) : Lexicon.ofParts d.index d.payload = .ok d.build := by
  have hl : d.index.length = d.payload.buckets.length := by simp [index, payload]
  rw [Lexicon.ofParts, if_pos hl]
  rfl

/-- **The bucket of a key**: the entries whose lower-case form is the key. -/
theorem bucket_of_mem_index (h : (k, n) ∈ d.index) :
    d.build.bucket n = d.entries.filter fun e => Text.lower e.word == k := by
  obtain ⟨⟨k', is⟩, hn, rfl⟩ := Option.map_eq_some_iff.mp (mem_index.mp h)
  have hg : (keyed d.entries).get? k' = some is :=
    (WordMap.get?_eq_some_iff (sorted_keyed _)).mpr (List.mem_of_getElem? hn)
  have his : is = placesOf k' d.entries.zipIdx := by
    rw [get?_keyed] at hg
    split_ifs at hg
    exact (Option.some.inj hg).symm
  have hb : d.build.payload.buckets.getD n [] = is := by
    show ((keyed d.entries).map (·.2)).getD n [] = is
    rw [List.getD_eq_getElem?_getD, List.getElem?_map, hn]
    rfl
  rw [Lexicon.bucket, hb, his]
  exact entries_at_placesOf d.entries k'

/-- A key is in the index when some entry has it. -/
theorem exists_mem_index : (∃ n, (k, n) ∈ d.index) ↔ ∃ e ∈ d.entries, Text.lower e.word = k := by
  have hkeys : (∃ n, (k, n) ∈ d.index) ↔ ((keyed d.entries).get? k).isSome := by
    rw [Option.isSome_iff_exists]
    constructor
    · rintro ⟨n, hn⟩
      obtain ⟨⟨_, is⟩, h, rfl⟩ := Option.map_eq_some_iff.mp (mem_index.mp hn)
      exact ⟨is, (WordMap.get?_eq_some_iff (sorted_keyed _)).mpr (List.mem_of_getElem? h)⟩
    · rintro ⟨is, h⟩
      obtain ⟨n, hn⟩ := List.mem_iff_getElem?.mp (WordMap.mem_of_get? h)
      exact ⟨n, mem_index.mpr (by rw [hn]; rfl)⟩
  have hempty : placesOf k d.entries.zipIdx = [] ↔ ∀ e ∈ d.entries, Text.lower e.word ≠ k := by
    rw [placesOf, List.map_eq_nil_iff, List.filter_eq_nil_iff]
    constructor
    · intro h e he hk
      obtain ⟨i, hi⟩ := List.mem_iff_getElem?.mp he
      exact h (e, i) (List.mem_zipIdx_iff_getElem?.mpr hi) (by simpa using hk)
    · intro h p hp hk
      exact h p.1 (List.fst_mem_of_mem_zipIdx hp) (by simpa using hk)
  rw [hkeys, get?_keyed]
  split_ifs with h
  · simpa using hempty.mp h
  · simpa [hempty] using h

/-! ### Entries -/

/-- The entry that the draft's knowledge of a word becomes. -/
def toEntry (w : Text) (e : DraftEntry) : Entry :=
  ⟨w, e.frequency, e.offensive, byFrequency e.nextWords⟩

theorem entries_eq (d : Draft) : d.entries = d.words.map fun p => toEntry p.1 p.2 := rfl

theorem entry?_build (d : Draft) (w : Text) :
    d.build.entry? w = (d.words.get? w).map (toEntry w) := by
  show d.entries.find? (·.word == w) = _
  have hword : ((fun e : Entry => e.word == w) ∘ fun p : Text × DraftEntry => toEntry p.1 p.2) =
      fun p => p.1 == w := rfl
  rw [entries_eq, List.find?_map, hword, WordMap.get?, Option.map_map]
  rcases hf : d.words.find? (·.1 == w) with _ | p
  · rw [hf]
    rfl
  · have hp : p.1 = w := by simpa using List.find?_some hf
    rw [hf, Option.map_some, Option.map_some, Function.comp_apply, hp]

theorem mem_entries (h : Sorted d.words) {e : Entry} :
    e ∈ d.entries ↔ (d.words.get? e.word).map (toEntry e.word) = some e := by
  simp only [entries_eq, List.mem_map, Prod.exists, Option.map_eq_some_iff]
  constructor
  · rintro ⟨w, x, hm, rfl⟩
    exact ⟨x, (WordMap.get?_eq_some_iff h).mpr hm, rfl⟩
  · rintro ⟨x, hx, he⟩
    exact ⟨e.word, x, WordMap.mem_of_get? hx, he⟩

end Typeahead.Draft
