import Typeahead.Proofs.Lexicon.Buckets

/-! # Reading a word list

What a lexicon answers is read off the entries of its word list, without the draft in between: a
frequency is the greatest one that the list names, and the words after a word are those the list
names, each once, in order (`Lexicon.Reads`). The words of a map by frequency are its entries,
strictly ordered (`ranked_byFrequency`), so that the views of the draft carry over to the lexicon
one by one. A view only depends on which entries the list has (`max?_filterMap_congr`), and a draft
is known by its views; hence the order of the list matters for replacements only
(`ofLines_congr`). -/

namespace Typeahead

open WordMap (Sorted)

/-! ### The greatest frequency -/

/-- The greatest of some frequencies, -1 if there are none. -/
def greatest (fs : List Nat) : Int := (fs.max?.map fun f : Nat => (f : Int)).getD (-1)

theorem greatest_concat (fs : List Nat) (f : Nat) :
    greatest (fs ++ [f]) = max (greatest fs) f := by
  rw [greatest, greatest, Draft.max?_concat]
  rcases fs.max? with _ | g
  · show (f : Int) = max (-1 : Int) f
    omega
  · show ((max g f : Nat) : Int) = max (g : Int) f
    omega

theorem foldl_max_eq_greatest {α : Type} (g : α → Nat) (xs : List α) :
    xs.foldl (fun m x => max m (g x : Int)) (-1) = greatest (xs.map g) := by
  induction xs using List.reverseRecOn with
  | nil => rfl
  | append_singleton xs x ih => rw [List.foldl_concat, ih, List.map_append, ← greatest_concat]; rfl

/-- Lists have the same maximum when each is dominated by the other. -/
theorem max?_congr {fs gs : List Nat} (hfg : ∀ f ∈ fs, ∃ g ∈ gs, f ≤ g)
    (hgf : ∀ g ∈ gs, ∃ f ∈ fs, g ≤ f) : fs.max? = gs.max? := by
  rcases hf : fs.max? with _ | a
  · rw [List.max?_eq_none_iff] at hf
    rcases hg : gs.max? with _ | b
    · rfl
    · obtain ⟨f, hm, -⟩ := hgf b (List.max?_mem hg)
      simp [hf] at hm
  · obtain ⟨ha, hmax⟩ := List.max?_eq_some_iff.mp hf
    obtain ⟨g, hg, hle⟩ := hfg a ha
    have hga : g = a := by
      obtain ⟨f, hf', hgf'⟩ := hgf g hg
      exact Nat.le_antisymm (Nat.le_trans hgf' (hmax f hf')) hle
    refine (List.max?_eq_some_iff.mpr ⟨hga ▸ hg, fun b hb => ?_⟩).symm
    obtain ⟨f, hf', hbf⟩ := hgf b hb
    exact Nat.le_trans hbf (hmax f hf')

theorem greatest_congr {fs gs : List Nat} (hfg : ∀ f ∈ fs, ∃ g ∈ gs, f ≤ g)
    (hgf : ∀ g ∈ gs, ∃ f ∈ fs, g ≤ f) : greatest fs = greatest gs := by
  rw [greatest, greatest, max?_congr hfg hgf]

/-- What is told by the elements of two lists has the same maximum, when the lists have the same
elements as far as these tell anything. -/
theorem max?_filterMap_congr {α : Type} {xs ys : List α} {told : α → Option Nat}
    (h : ∀ x, (told x).isSome → (x ∈ xs ↔ x ∈ ys)) :
    (xs.filterMap told).max? = (ys.filterMap told).max? := by
  have hmem (f : Nat) : f ∈ xs.filterMap told ↔ f ∈ ys.filterMap told := by
    simp only [List.mem_filterMap]
    constructor <;> rintro ⟨x, hx, hf⟩
    · exact ⟨x, (h x (by simp [hf])).mp hx, hf⟩
    · exact ⟨x, (h x (by simp [hf])).mpr hx, hf⟩
  exact max?_congr (fun f hf => ⟨f, (hmem f).mp hf, Nat.le_refl f⟩)
    fun f hf => ⟨f, (hmem f).mpr hf, Nat.le_refl f⟩

theorem isSome_max?_filterMap {α : Type} {xs : List α} {told : α → Option Nat} :
    (xs.filterMap told).max?.isSome ↔ ∃ x ∈ xs, (told x).isSome := by
  rw [List.isSome_max?_iff, ne_eq, List.filterMap_eq_nil_iff]
  simp [Option.isSome_iff_ne_none]

/-! ### Words by frequency -/

/-- The order of the words that may come next: falling frequency, then the words themselves. -/
def NextWord.Before (a b : NextWord) : Prop :=
  b.frequency < a.frequency ∨ a.frequency = b.frequency ∧ compare a.word b.word = .lt

/-- The words of which `told` has a frequency, each once with the greatest one, in order. -/
structure NextWord.Ranked (told : Text → List Nat) (ns : List NextWord) : Prop where
  sorted : ns.Pairwise NextWord.Before
  nodup : (ns.map (·.word)).Nodup
  mem_iff : ∀ n, n ∈ ns ↔ (told n.word).max? = some n.frequency

namespace Draft

theorem insertNext_perm (n : NextWord) (ns : List NextWord) : (insertNext n ns).Perm (n :: ns) := by
  induction ns with
  | nil => exact .refl _
  | cons m rest ih =>
    unfold insertNext
    split_ifs
    · exact .refl _
    · exact (ih.cons m).trans (.swap n m rest)

/-- A word is put in its place if it is less than the words that are there. -/
theorem sorted_insertNext {n : NextWord} {ns : List NextWord} (hs : ns.Pairwise NextWord.Before)
    (hn : ∀ m ∈ ns, compare n.word m.word = .lt) : (insertNext n ns).Pairwise NextWord.Before := by
  induction ns with
  | nil => exact List.pairwise_singleton _ n
  | cons m rest ih =>
    obtain ⟨hm, hrest⟩ := List.pairwise_cons.mp hs
    unfold insertNext
    split_ifs with hle
    · refine List.pairwise_cons.mpr ⟨fun a ha => ?_, hs⟩
      have hword := hn a ha
      have hfrequency : a.frequency ≤ m.frequency := by
        rcases List.mem_cons.mp ha with rfl | ha'
        · exact Nat.le_refl _
        · rcases hm a ha' with h | ⟨h, -⟩ <;> omega
      by_cases heq : n.frequency = a.frequency
      · exact .inr ⟨heq, hword⟩
      · exact .inl (by omega)
    · refine List.pairwise_cons.mpr ⟨fun a ha => ?_, ih hrest fun a ha => hn a (by simp [ha])⟩
      rcases List.mem_cons.mp ((insertNext_perm n rest).mem_iff.mp ha) with rfl | ha'
      · exact .inl (by omega)
      · exact hm a ha'

theorem byFrequency_cons (p : Text × Nat) (m : WordMap Nat) :
    byFrequency (p :: m) = insertNext ⟨p.1, p.2⟩ (byFrequency m) := rfl

theorem byFrequency_perm (m : WordMap Nat) :
    (byFrequency m).Perm (m.map fun p => (⟨p.1, p.2⟩ : NextWord)) := by
  induction m with
  | nil => exact .refl _
  | cons p m ih => rw [byFrequency_cons]; exact (insertNext_perm _ _).trans (ih.cons _)

theorem mem_byFrequency {m : WordMap Nat} {n : NextWord} :
    n ∈ byFrequency m ↔ (n.word, n.frequency) ∈ m := by
  rw [(byFrequency_perm m).mem_iff, List.mem_map]
  constructor
  · rintro ⟨p, hp, rfl⟩
    exact hp
  · exact fun h => ⟨_, h, rfl⟩

theorem sorted_byFrequency {m : WordMap Nat} (h : Sorted m) :
    (byFrequency m).Pairwise NextWord.Before := by
  induction m with
  | nil => exact List.Pairwise.nil
  | cons p m ih =>
    obtain ⟨hp, hm⟩ := WordMap.sorted_cons.mp h
    rw [byFrequency_cons]
    exact sorted_insertNext (ih hm) fun n hn => hp _ (mem_byFrequency.mp hn)

theorem nodup_byFrequency {m : WordMap Nat} (h : Sorted m) :
    ((byFrequency m).map (·.word)).Nodup := by
  rw [((byFrequency_perm m).map _).nodup_iff, List.map_map]
  exact List.pairwise_map.mpr (h.imp WordMap.ne_of_lt)

/-- **The words of a map** that holds the greatest frequencies told. -/
theorem ranked_byFrequency {m : WordMap Nat} (h : Sorted m) {told : Text → List Nat}
    (ht : ∀ w, m.get? w = (told w).max?) : NextWord.Ranked told (byFrequency m) where
  sorted := sorted_byFrequency h
  nodup := nodup_byFrequency h
  mem_iff n := by rw [mem_byFrequency, ← WordMap.get?_eq_some_iff h, ht]

/-! ### Views of the lexicon -/

variable {d : Draft}

theorem contains_build (w : Text) : d.build.contains w = (d.frequency? w).isSome := by
  rw [Lexicon.contains, entry?_build, frequency?, Option.isSome_map, Option.isSome_map]

theorem frequency_build (w : Text) :
    d.build.frequency w = ((d.frequency? w).map fun f : Nat => (f : Int)).getD (-1) := by
  rw [Lexicon.frequency, entry?_build, frequency?, Option.map_map, Option.map_map]
  rfl

theorem isOffensive_build (w : Text) : d.build.isOffensive w = d.offends w := by
  rw [Lexicon.isOffensive, entry?_build, Option.any_map, offends]
  rfl

theorem find?_contextOnly_build (w : Text) :
    (d.build.payload.contextOnly.find? (·.1 == w)).map (·.2) =
      (d.contextOnly.get? w).map byFrequency := by
  show ((d.contextOnly.map fun p => (p.1, byFrequency p.2)).find? (·.1 == w)).map (·.2) = _
  rw [List.find?_map, Option.map_map, WordMap.get?, Option.map_map]
  rfl

/-- **The words after a word** are its followers, wherever these were kept. -/
theorem nextWordsAfter_build (h : d.WellFormed) (w : Text) : d.build.nextWordsAfter w =
    if (d.frequency? w).isSome ∨ d.followers w ≠ [] then some (byFrequency (d.followers w))
    else none := by
  rw [Lexicon.nextWordsAfter, entry?_build, frequency?, Option.isSome_map]
  rcases he : d.words.get? w with _ | e
  · have hc := find?_contextOnly_build (d := d) w
    rw [h.get?_contextOnly, frequency?, he] at hc
    rw [Option.map_none]
    refine hc.trans ?_
    by_cases hf : d.followers w = [] <;> simp [hf]
  · rw [followers_of_word he, Option.isSome_some, if_pos (.inl rfl)]
    rfl

/-- The entries with the key of a word decide its greatest frequency. -/
theorem maxFrequency_build (w : Text) : d.build.maxFrequency w =
    greatest ((d.entries.filter fun e => Text.lower e.word == Text.lower w).map (·.frequency)) := by
  unfold Lexicon.maxFrequency
  split
  next k n hf =>
    have hk : k = Text.lower w := by simpa using List.find?_some hf
    rw [bucket_of_mem_index (List.mem_of_find?_eq_some hf), foldl_max_eq_greatest, hk]
  next hf =>
    have hnone : ∀ e ∈ d.entries, Text.lower e.word ≠ Text.lower w := by
      intro e he hk
      obtain ⟨n, hn⟩ := exists_mem_index.mpr ⟨e, he, hk⟩
      simpa using List.find?_eq_none.mp hf _ hn
    rw [List.filter_eq_nil_iff.mpr fun e he => by simpa using hnone e he]
    rfl

/-- A word has an entry with its frequency. -/
theorem exists_mem_entries (h : d.WellFormed) {w : Text} {f : Nat} :
    (∃ e ∈ d.entries, e.word = w ∧ e.frequency = f) ↔ d.frequency? w = some f := by
  simp only [mem_entries h.words, Option.map_eq_some_iff, frequency?]
  constructor
  · rintro ⟨e, ⟨x, hx, he⟩, rfl, rfl⟩
    exact ⟨x, hx, congrArg Entry.frequency he⟩
  · rintro ⟨x, hx, rfl⟩
    exact ⟨toEntry w x, ⟨x, hx, rfl⟩, rfl, rfl⟩

end Draft

/-! ### The reading -/

namespace SourceLine

/-- The frequency that an entry names for a word with the lower-case form `k`. -/
def frequencyUnder? (k : Text) : SourceLine → Option Nat
  | word v f | offensive v f => if Text.lower v = k then some f else none
  | _ => none

/-- The entry names a word or a pair. -/
def counts : SourceLine → Bool
  | word .. | offensive .. | pair .. => true
  | _ => false

theorem frequencyUnder?_eq_some_iff {k : Text} {s : SourceLine} {f : Nat} :
    s.frequencyUnder? k = some f ↔ ∃ v, Text.lower v = k ∧ s.frequencyOf? v = some f := by
  cases s with
  | word v g | offensive v g =>
    simp only [frequencyUnder?, frequencyOf?, Option.ite_none_right_eq_some, Option.some.injEq]
    constructor
    · rintro ⟨hk, hg⟩
      exact ⟨v, hk, rfl, hg⟩
    · rintro ⟨v', hk, rfl, hg⟩
      exact ⟨hk, hg⟩
  | blank | pair | replacement => simp [frequencyUnder?, frequencyOf?]

theorem exists_isSome_frequencyOf? {ss : List SourceLine} {w : Text} :
    (∃ s ∈ ss, (s.frequencyOf? w).isSome) ↔ ∃ f, word w f ∈ ss ∨ offensive w f ∈ ss := by
  constructor
  · rintro ⟨s, hs, h⟩
    cases s with
    | word v f | offensive v f =>
      obtain rfl : v = w := by simpa [frequencyOf?] using h
      exact ⟨f, by simp [hs]⟩
    | blank | pair | replacement => simp [frequencyOf?] at h
  · rintro ⟨f, hs | hs⟩
    · exact ⟨_, hs, by simp [frequencyOf?]⟩
    · exact ⟨_, hs, by simp [frequencyOf?]⟩

theorem exists_isSome_follows? {ss : List SourceLine} {w : Text} :
    (∃ v, ∃ s ∈ ss, (s.follows? w v).isSome) ↔
      w ≠ Slot.startTag ∧ ∃ v f, pair w v f ∈ ss := by
  constructor
  · rintro ⟨v, s, hs, h⟩
    cases s with
    | pair before n f =>
      obtain ⟨hb, rfl, rfl⟩ : before ≠ Slot.startTag ∧ before = w ∧ n = v := by
        simpa [follows?] using h
      exact ⟨hb, n, f, hs⟩
    | blank | word | offensive | replacement => simp [follows?] at h
  · rintro ⟨hw, v, f, hs⟩
    exact ⟨v, _, hs, by simp [follows?, hw]⟩

end SourceLine

/-- **The answers of a lexicon**, read off the entries of a word list. -/
structure Lexicon.Reads (ss : List SourceLine) (l : Lexicon) : Prop where
  contains : ∀ w, l.contains w ↔ ∃ f, .word w f ∈ ss ∨ .offensive w f ∈ ss
  isOffensive : ∀ w, l.isOffensive w ↔ ∃ f, .offensive w f ∈ ss
  frequency : ∀ w, l.frequency w = greatest (ss.filterMap (SourceLine.frequencyOf? w))
  maxFrequency : ∀ w, l.maxFrequency w =
    greatest (ss.filterMap (SourceLine.frequencyUnder? (Text.lower w)))
  nextWords : ∀ w, NextWord.Ranked (fun v => ss.filterMap (SourceLine.follows? w v))
    ((l.nextWordsAfter w).getD [])
  isContext : ∀ w, (l.nextWordsAfter w).isSome ↔
    l.contains w ∨ w ≠ Slot.startTag ∧ ∃ v f, .pair w v f ∈ ss
  starts : NextWord.Ranked (fun v => ss.filterMap (SourceLine.starts? v)) l.payload.starts
  replacements : ∀ k, (l.payload.replacements.find? (·.1 == k)).map (·.2) =
    (ss.filterMap (SourceLine.replaces? k)).getLast?

namespace Draft

variable {locale : Locale} (ss : List SourceLine)

theorem maxFrequency_ofLines (w : Text) : (ofLines locale ss).build.maxFrequency w =
    greatest (ss.filterMap (SourceLine.frequencyUnder? (Text.lower w))) := by
  have h : (ofLines locale ss).WellFormed := wellFormed_ofLines ss
  rw [maxFrequency_build]
  refine greatest_congr (fun f hf => ?_) fun f hf => ?_
  · obtain ⟨e, he, rfl⟩ := List.mem_map.mp hf
    obtain ⟨he, hk⟩ := List.mem_filter.mp he
    have hmax := (exists_mem_entries h).mp ⟨e, he, rfl, rfl⟩
    rw [frequency?_ofLines] at hmax
    obtain ⟨s, hs, hf⟩ := List.mem_filterMap.mp (List.max?_mem hmax)
    have hunder := SourceLine.frequencyUnder?_eq_some_iff.mpr ⟨e.word, beq_iff_eq.mp hk, hf⟩
    exact ⟨e.frequency, List.mem_filterMap.mpr ⟨s, hs, hunder⟩, Nat.le_refl _⟩
  · obtain ⟨s, hs, hunder⟩ := List.mem_filterMap.mp hf
    obtain ⟨v, hk, hv⟩ := SourceLine.frequencyUnder?_eq_some_iff.mp hunder
    have hmem : f ∈ ss.filterMap (SourceLine.frequencyOf? v) :=
      List.mem_filterMap.mpr ⟨s, hs, hv⟩
    -- the entry of `v` has the greatest frequency named for it, which is at least `f`
    rcases hmax : (ss.filterMap (SourceLine.frequencyOf? v)).max? with _ | g
    · simp [List.max?_eq_none_iff.mp hmax] at hmem
    · have hle := (List.max?_eq_some_iff.mp hmax).2 f hmem
      rw [← @frequency?_ofLines locale, ← exists_mem_entries h] at hmax
      obtain ⟨e, he, rfl, rfl⟩ := hmax
      exact ⟨_, List.mem_map.mpr ⟨e, List.mem_filter.mpr ⟨he, beq_iff_eq.mpr hk⟩, rfl⟩, hle⟩

theorem nextWordsAfter_getD_build {d : Draft} (h : d.WellFormed) (w : Text) :
    (d.build.nextWordsAfter w).getD [] = byFrequency (d.followers w) := by
  rw [nextWordsAfter_build h]
  split_ifs with hw
  · rfl
  · rw [not_or, not_not] at hw
    rw [hw.2]
    rfl

/-- **A built lexicon answers by the reading of its word list.** -/
theorem reads_build : Lexicon.Reads ss (ofLines locale ss).build := by
  have h : (ofLines locale ss).WellFormed := wellFormed_ofLines ss
  have hknown (w : Text) : ((ofLines locale ss).frequency? w).isSome ↔
      ∃ f, .word w f ∈ ss ∨ .offensive w f ∈ ss := by
    rw [frequency?_ofLines, isSome_max?_filterMap, SourceLine.exists_isSome_frequencyOf?]
  refine ⟨fun w => ?_, fun w => ?_, fun w => ?_, fun w => maxFrequency_ofLines ss w, fun w => ?_,
    fun w => ?_, ?_, fun k => get?_replacements_ofLines ss k⟩
  · rw [contains_build, hknown]
  · rw [isOffensive_build, offends_ofLines, List.any_eq_true]
    constructor
    · rintro ⟨s, hs, hm⟩
      cases s with
      | offensive v f =>
        obtain rfl : v = w := by simpa [SourceLine.marks] using hm
        exact ⟨f, hs⟩
      | blank | word | pair | replacement => simp [SourceLine.marks] at hm
    · rintro ⟨f, hs⟩
      exact ⟨_, hs, by simp [SourceLine.marks]⟩
  · rw [frequency_build, frequency?_ofLines, greatest]
  · rw [nextWordsAfter_getD_build h]
    exact ranked_byFrequency (h.followers w) fun v => get?_followers_ofLines ss w v
  · have hsome : (ofLines locale ss).followers w ≠ [] ↔
        w ≠ Slot.startTag ∧ ∃ v f, .pair w v f ∈ ss := by
      rw [WordMap.ne_nil_iff, ← SourceLine.exists_isSome_follows?]
      exact exists_congr fun v => by rw [get?_followers_ofLines, isSome_max?_filterMap]
    rw [nextWordsAfter_build h, contains_build, ← hsome]
    split_ifs with hw
    · exact iff_of_true rfl hw
    · exact iff_of_false (by simp) hw
  · exact ranked_byFrequency h.starts fun v => get?_starts_ofLines ss v

/-! ### Order and repetition -/

/-- A list without two different elements ends as any list with the same elements. -/
theorem getLast?_congr {α : Type} {rs rs' : List α} (h : ∀ r, r ∈ rs ↔ r ∈ rs')
    (hr : ∀ r r', r ∈ rs → r' ∈ rs → r = r') : rs.getLast? = rs'.getLast? := by
  rcases hl : rs.getLast? with _ | r
  · have hnil : rs' = [] := List.eq_nil_iff_forall_not_mem.mpr fun r' hr' => by
      simpa [List.getLast?_eq_none_iff.mp hl] using (h r').mpr hr'
    rw [hnil]
    rfl
  · have hmem := List.mem_of_getLast? hl
    rcases hl' : rs'.getLast? with _ | r'
    · simpa [List.getLast?_eq_none_iff.mp hl'] using (h r).mp hmem
    · rw [hr r r' hmem ((h r').mpr (List.mem_of_getLast? hl'))]

/-- **Order and repetition do not matter**, but for the last replacement of each form. -/
theorem ofLines_congr {ss ss' : List SourceLine} (h : ∀ s, s.counts → (s ∈ ss ↔ s ∈ ss'))
    (hr : ∀ k, (ss.filterMap (SourceLine.replaces? k)).getLast? =
      (ss'.filterMap (SourceLine.replaces? k)).getLast?) :
    ofLines locale ss = ofLines locale ss' := by
  have hcounts (told : SourceLine → Option Nat) (ht : ∀ s, (told s).isSome → s.counts) :
      (ss.filterMap told).max? = (ss'.filterMap told).max? :=
    max?_filterMap_congr fun s hs => h s (ht s hs)
  refine (wellFormed_ofLines ss).ext (wellFormed_ofLines ss') ?_ (fun w => ?_) (fun w => ?_)
    (fun w v => ?_) (fun v => ?_) fun k => ?_
  · rw [locale_ofLines, locale_ofLines]
  · rw [frequency?_ofLines, frequency?_ofLines]
    refine hcounts _ fun s hs => ?_
    cases s <;> simp [SourceLine.frequencyOf?, SourceLine.counts] at hs ⊢
  · rw [offends_ofLines, offends_ofLines, Bool.eq_iff_iff, List.any_eq_true, List.any_eq_true]
    refine exists_congr fun s => and_congr_left fun hs => h s ?_
    cases s <;> simp [SourceLine.marks, SourceLine.counts] at hs ⊢
  · rw [get?_followers_ofLines, get?_followers_ofLines]
    refine hcounts _ fun s hs => ?_
    cases s <;> simp [SourceLine.follows?, SourceLine.counts] at hs ⊢
  · rw [get?_starts_ofLines, get?_starts_ofLines]
    refine hcounts _ fun s hs => ?_
    cases s <;> simp [SourceLine.starts?, SourceLine.counts] at hs ⊢
  · rw [get?_replacements_ofLines, get?_replacements_ofLines, hr]

/-- **Every word list can be built**, into a lexicon that answers by the reading of the list and
does not depend on the order of its entries. -/
theorem built_and_read (locale : Locale) (ss : List SourceLine) :
    Lexicon.ofParts (ofLines locale ss).index (ofLines locale ss).payload =
        .ok (ofLines locale ss).build ∧
      Sorted (ofLines locale ss).index ∧
      Lexicon.Reads ss (ofLines locale ss).build ∧
      (∀ ss', (∀ s, s.counts → (s ∈ ss ↔ s ∈ ss')) →
        (∀ k, (ss.filterMap (SourceLine.replaces? k)).getLast? =
          (ss'.filterMap (SourceLine.replaces? k)).getLast?) →
        (ofLines locale ss').build = (ofLines locale ss).build) ∧
      ∀ ss', (∀ s, s ∈ ss ↔ s ∈ ss') →
        (∀ k r r', r ∈ ss.filterMap (SourceLine.replaces? k) →
          r' ∈ ss.filterMap (SourceLine.replaces? k) → r = r') →
        (ofLines locale ss').build = (ofLines locale ss).build := by
  refine ⟨ofParts_index_payload _, sorted_index _, reads_build ss, fun ss' h hr => ?_,
    fun ss' h hr => ?_⟩
  · rw [ofLines_congr h hr]
  · refine congrArg build (ofLines_congr (fun s _ => h s) fun k => ?_).symm
    exact getLast?_congr (fun r => by simp only [List.mem_filterMap, h]) (hr k)

/-- Pairs before and after their word, and a list in another order with a repetition. -/
theorem built_and_read_reordered :
    let en : Locale := ⟨"en".toList⟩
    let ss : List SourceLine := [.pair "good".toList "morning".toList 150,
      .word "good".toList 200, .offensive "Good".toList 210, .pair "good".toList "grief".toList 150,
      .pair "good".toList "morning".toList 90, .replacement "Teh".toList "the".toList]
    let ss' : List SourceLine := ss.reverse ++ [.word "good".toList 200]
    (ofLines en ss').build = (ofLines en ss).build ∧
      (ofLines en ss).build.maxFrequency "good".toList = 210 ∧
      (ofLines en ss).build.nextWordsAfter "good".toList =
        some [⟨"grief".toList, 150⟩, ⟨"morning".toList, 150⟩] := by
  refine ⟨(built_and_read _ _).2.2.2.2 _ (fun s => ?_) fun k r r' hr hr' => ?_, ?_, ?_⟩
  · rw [List.mem_append, List.mem_reverse, List.mem_singleton, or_iff_left_of_imp]
    rintro rfl
    decide
  · obtain ⟨-, rfl⟩ : Text.lower "Teh".toList = k ∧ "the".toList = r := by
      simpa [SourceLine.replaces?] using hr
    obtain ⟨-, rfl⟩ : Text.lower "Teh".toList = k ∧ "the".toList = r' := by
      simpa [SourceLine.replaces?] using hr'
    rfl
  · decide
  · decide

end Draft

end Typeahead
