import Mathlib.Data.List.Nodup
import Typeahead.Proofs.Lexicon.Reach
import Typeahead.Proofs.Text.Case

/-! # What a lookup offers

A lookup offers a forced replacement, and each entry whose key the walks reach, if it is not blocked
and scores: no other one, and none twice, although the walks overlap (`suggestions_perm`). The walk
of completions is cut off, so it reaches the keys before which few others begin as was typed
(`mem_completions_iff`). What was typed comes before all longer keys; so its own entries are always
reached (`isEarly_self`). -/

namespace Typeahead

/-- A text does not come before its own beginning. -/
theorem Text.compare_ne_lt_of_prefix {s t : Text} (h : s <+: t) : compare t s ≠ .lt := by
  obtain ⟨r, rfl⟩ := h
  induction s with
  | nil => cases r <;> exact fun h => nomatch h
  | cons c s ih =>
    intro hlt
    rw [List.cons_append] at hlt
    have hc : compare c c = .eq := Std.ReflOrd.compare_self
    have hstep : compare (c :: (s ++ r)) (c :: s) = (compare c c).then (compare (s ++ r) s) :=
      List.compareLex_cons_cons
    rw [hstep, hc] at hlt
    exact ih hlt

namespace Lexicon

variable {l : Lexicon} {q : Query} {e : Entry} {key k : Text} {p : Text × Nat}

/-! ### Keys that are reached -/

/-- The key begins with what was typed, as do few of the keys before it. -/
def isEarly (l : Lexicon) (key k : Text) : Bool :=
  key.isPrefixOf k &&
    l.index.countP (fun p => compare p.1 k == .lt && key.isPrefixOf p.1) < completionLimit

/-- The walk of corrections is made and finds the key. -/
def isFound (key k : Text) : Bool := !Walk.isTooLarge key && isCorrection key k

/-- One of the walks reaches the key. -/
def reaches (l : Lexicon) (key k : Text) : Bool := l.isEarly key k || isFound key k

theorem mem_completions_iff (hs : WordMap.Sorted l.index) :
    p ∈ l.completions key ↔ p ∈ l.index ∧ l.isEarly key p.1 := by
  have hfilter : WordMap.Sorted (l.index.filter fun e => key.isPrefixOf e.1) := hs.filter _
  rw [completions, hfilter.mem_take_iff, List.countP_filter, List.mem_filter, isEarly,
    Bool.and_eq_true, decide_eq_true_eq, and_assoc]

theorem mem_reached_iff_reaches (hs : WordMap.Sorted l.index) :
    p ∈ l.reached key ↔ p ∈ l.index ∧ l.reaches key p.1 := by
  have hcorrections : p ∈ l.corrections key ↔
      p ∈ l.index ∧ isFound key p.1 ∧ p ∉ l.completions key := by
    unfold corrections isFound
    split_ifs with hlarge <;> simp [hlarge, List.mem_filter]
  rw [reached, List.mem_append, hcorrections, mem_completions_iff hs, reaches, Bool.or_eq_true]
  tauto

theorem nodup_reached (hs : WordMap.Sorted l.index) : (l.reached key).Nodup := by
  have hcorrections : (l.corrections key).Nodup := by
    unfold corrections
    split_ifs
    · exact List.nodup_nil
    · exact hs.nodup.filter _
  refine List.Nodup.append ((hs.nodup.filter _).sublist (List.take_sublist _ _)) hcorrections ?_
  intro p hp hp'
  unfold corrections at hp'
  split_ifs at hp'
  · simp at hp'
  · have hnew := (List.mem_filter.mp hp').2
    rw [Bool.and_eq_true, Bool.not_eq_true', List.contains_eq_mem, decide_eq_false_iff_not] at hnew
    exact hnew.2 hp

/-- What was typed comes before all keys that begin with it. -/
theorem isEarly_self (l : Lexicon) (key : Text) : l.isEarly key key := by
  have hnone : l.index.countP (fun p => compare p.1 key == .lt && key.isPrefixOf p.1) = 0 := by
    refine List.countP_eq_zero.mpr fun p _ h => ?_
    rw [Bool.and_eq_true, beq_iff_eq, List.isPrefixOf_iff_prefix] at h
    exact Text.compare_ne_lt_of_prefix h.2 h.1
  rw [isEarly, hnone, Bool.and_eq_true, List.isPrefixOf_iff_prefix]
  exact ⟨List.prefix_rfl, rfl⟩

/-- Nothing is corrected for a single character. -/
theorem two_le_of_isFound (h : isFound key k) : 2 ≤ key.length := by
  rw [isFound, isCorrection, Bool.and_eq_true, Bool.and_eq_true, decide_eq_true_eq] at h
  exact reach_pos_iff.mp h.2.1

/-- For a short text of ASCII the walk finds the keys within two edits. -/
theorem isFound_iff (hkey : key.IsAscii) (hlen : key.length < 40) :
    isFound key k ↔ 2 ≤ key.length ∧ editDistance k key ≤ 2 := by
  rw [isFound, Walk.isTooLarge_of_isAscii hkey hlen, Bool.not_false, Bool.true_and,
    isCorrection_iff (Walk.unmistaken_of_isAscii_left hkey)]

/-! ### Candidates of entries -/

/-- The candidate of an entry that answers by `m`. -/
def offer (l : Lexicon) (q : Query) (e : Entry) (m : Match) : Candidate where
  word := e.word
  context := q.context.flatten
  score := Scoring.weighted m.score q.weight
  kind := if e.offensive then m.kind.set Kind.offensiveFlag else m.kind
  source := l.source

/-- The candidate of a replacement that is forced. -/
def forced (l : Lexicon) (q : Query) (w : Text) : Candidate where
  word := w
  context := q.context.flatten
  score := Candidate.maxScore
  kind := ⟨Kind.whitelist ||| Kind.appropriateFlag⟩
  source := l.source

end Lexicon

namespace Draft

variable {d : Draft} {q : Query} {e : Entry} {key : Text}

theorem nodup_entries (h : d.WellFormed) : (d.build.payload.entries.map (·.word)).Nodup := by
  have hwords : d.build.payload.entries.map (·.word) = d.words.map (·.1) := by
    show d.entries.map (·.word) = _
    rw [entries_eq, List.map_map]
    rfl
  rw [hwords]
  exact h.words.nodup_keys

/-- **The entries that are reached**, each once. -/
theorem flatMap_bucket_perm (h : d.WellFormed) (key : Text) :
    ((d.build.reached key).flatMap fun p => d.build.bucket p.2).Perm
      (d.build.payload.entries.filter fun e => d.build.reaches key (Text.lower e.word)) := by
  have hs : WordMap.Sorted d.build.index := sorted_index d
  have hentries : d.build.payload.entries.Nodup := List.Nodup.of_map _ (nodup_entries h)
  have hbucket {p : Text × Nat} (hp : p ∈ d.build.reached key) : d.build.bucket p.2 =
      d.build.payload.entries.filter fun e => Text.lower e.word == p.1 :=
    bucket_of_mem_index (mem_index_of_mem_reached hp)
  have hnodup : ((d.build.reached key).flatMap fun p => d.build.bucket p.2).Nodup := by
    refine List.nodup_flatMap.mpr ⟨fun p hp => by rw [hbucket hp]; exact hentries.filter _, ?_⟩
    refine (Lexicon.nodup_reached hs).imp_of_mem fun {p p'} hp hp' hne e
      (he : e ∈ d.build.bucket p.2) (he' : e ∈ d.build.bucket p'.2) => hne ?_
    -- an entry is in the bucket of its own key only
    rw [hbucket hp, List.mem_filter, beq_iff_eq] at he
    rw [hbucket hp', List.mem_filter, beq_iff_eq] at he'
    exact hs.eq_of_key (mem_index_of_mem_reached hp) (mem_index_of_mem_reached hp')
      (he.2.symm.trans he'.2)
  refine (List.perm_ext_iff_of_nodup hnodup (hentries.filter _)).mpr fun e => ?_
  rw [List.mem_flatMap, mem_bucket_reached_iff, List.mem_filter]
  refine and_congr_right fun he => ?_
  simp only [Lexicon.mem_reached_iff_reaches hs]
  obtain ⟨n, hn⟩ := exists_mem_index.mpr ⟨e, he, rfl⟩
  exact ⟨fun ⟨_, h⟩ => h.2, fun h => ⟨n, hn, h⟩⟩

/-- An entry makes its candidate, if it is not blocked and scores. -/
theorem candidate?_eq (l : Lexicon) (q : Query) (e : Entry) : l.candidate? q e =
    if !(e.offensive && q.block) then
      (Scoring.score? q.typed e.word e.frequency).map (l.offer q e)
    else none := by
  rw [Lexicon.candidate?]
  cases e.offensive && q.block <;> rfl

/-- A word that is what was typed but for case scores. -/
theorem exists_score? {typed word : Text} (frequency : Nat) (htyped : typed ≠ [])
    (h : Text.lower word = Text.lower typed) :
    ∃ m, Scoring.score? typed word frequency = some m := by
  have hword : word ≠ [] := by
    rintro rfl
    exact htyped (Text.lower_eq_nil_iff.mp h.symm)
  unfold Scoring.score?
  rw [if_neg (by simp [htyped, hword])]
  by_cases hsame : word = typed
  · exact ⟨_, if_pos hsame⟩
  · rw [if_neg hsame]
    exact ⟨_, if_pos h⟩

theorem replacement?_eq (l : Lexicon) (q : Query) : l.replacement? q =
    (WordMap.get? l.payload.replacements (Text.lower q.typed)).map (l.forced q) := by
  rw [WordMap.get?, Option.map_map]
  rfl

/-- **The candidates of a lookup**, each once. -/
theorem suggestions_perm (h : d.WellFormed) (hq : q.typed ≠ []) :
    (d.build.suggestions q).Perm
      (((WordMap.get? d.build.payload.replacements (Text.lower q.typed)).map
          (d.build.forced q)).toList ++
        (d.build.payload.entries.filter fun e =>
            d.build.reaches (Text.lower q.typed) (Text.lower e.word) &&
              !(e.offensive && q.block)).filterMap fun e =>
          (Scoring.score? q.typed e.word e.frequency).map (d.build.offer q e)) := by
  rw [Lexicon.suggestions, if_neg (by simpa using hq), replacement?_eq]
  refine (((flatMap_bucket_perm h _).filterMap _).trans (List.Perm.of_eq ?_)).append_left _
  rw [List.filterMap_filter, List.filterMap_filter]
  refine List.filterMap_congr fun e _ => ?_
  rw [candidate?_eq]
  cases d.build.reaches (Text.lower q.typed) (Text.lower e.word) <;> rfl

/-- **What a lookup offers.** -/
theorem suggestions_exact (locale : Locale) (ss : List SourceLine) (q : Query)
    (hq : q.typed ≠ []) :
    let l := (ofLines locale ss).build
    let key := Text.lower q.typed
    (l.suggestions q).Perm
        (((WordMap.get? l.payload.replacements key).map (l.forced q)).toList ++
          (l.payload.entries.filter fun e =>
              l.reaches key (Text.lower e.word) && !(e.offensive && q.block)).filterMap fun e =>
            (Scoring.score? q.typed e.word e.frequency).map (l.offer q e)) ∧
      (l.payload.entries.map (·.word)).Nodup ∧
      WordMap.Sorted l.index ∧
      (∀ p ∈ l.index, l.bucket p.2 = l.payload.entries.filter (Text.lower ·.word == p.1)) ∧
      (∀ k, Lexicon.isFound key k → 2 ≤ key.length) ∧
      (key.IsAscii → key.length < 40 → ∀ k,
        Lexicon.isFound key k ↔ 2 ≤ key.length ∧ editDistance k key ≤ 2) ∧
      ∀ e ∈ l.payload.entries, ¬ (e.offensive ∧ q.block) → Text.lower e.word = key →
        ∃ m, Scoring.score? q.typed e.word e.frequency = some m ∧
          l.offer q e m ∈ l.suggestions q := by
  intro l key
  have hwell : (ofLines locale ss).WellFormed := wellFormed_ofLines ss
  have hperm := suggestions_perm hwell hq
  refine ⟨hperm, nodup_entries hwell, sorted_index _, fun p hp => bucket_of_mem_index hp,
    fun k => Lexicon.two_le_of_isFound, fun hkey hlen k => Lexicon.isFound_iff hkey hlen,
    fun e he hblock hlower => ?_⟩
  obtain ⟨m, hm⟩ := exists_score? e.frequency hq hlower
  refine ⟨m, hm, hperm.mem_iff.mpr (List.mem_append_right _ (List.mem_filterMap.mpr ⟨e, ?_, ?_⟩))⟩
  · have hreached : l.reaches key (Text.lower e.word) := by
      rw [hlower, Lexicon.reaches, Lexicon.isEarly_self, Bool.true_or]
    have hfree : (!(e.offensive && q.block)) = true := by
      rw [Bool.not_eq_true', Bool.eq_false_iff, ne_eq, Bool.and_eq_true]
      exact hblock
    exact List.mem_filter.mpr ⟨he, by rw [hreached, hfree]; rfl⟩
  · rw [hm]
    rfl

/-- A replacement and two forms of the word; the word that is blocked is left out. -/
theorem suggestions_exact_capitals :
    let l := (ofLines ⟨"en".toList⟩ [.word "the".toList 100, .word "The".toList 80,
      .offensive "tho".toList 60, .replacement "the".toList "thee".toList]).build
    let q : Query := ⟨"THE".toList, Context.empty 3, true, 1⟩
    let key := Text.lower q.typed
    let e : Entry := ⟨"The".toList, 80, false, []⟩
    q.typed ≠ [] ∧
      ((l.suggestions q).map (·.word)).Perm ["thee".toList, "The".toList, "the".toList] ∧
      (key.IsAscii ∧ key.length < 40 ∧
        ∀ k, Lexicon.isFound key k ↔ 2 ≤ key.length ∧ editDistance k key ≤ 2) ∧
      e ∈ l.payload.entries ∧ ∃ m, Scoring.score? q.typed e.word e.frequency = some m ∧
        l.offer q e m ∈ l.suggestions q := by
  intro l q key e
  have hq : q.typed ≠ [] := by decide
  have hascii : key.IsAscii := by decide +kernel
  have hlen : key.length < 40 := by decide +kernel
  have he : e ∈ l.payload.entries := by decide +kernel
  have hfree : ¬ (e.offensive ∧ q.block) := by decide
  have hkey : Text.lower e.word = key := by decide +kernel
  obtain ⟨hperm, -, -, -, -, hfound, hown⟩ := suggestions_exact ⟨"en".toList⟩ _ q hq
  refine ⟨hq, (hperm.map (·.word)).trans (List.Perm.of_eq ?_), ⟨hascii, hlen, hfound hascii hlen⟩,
    he, hown e he hfree hkey⟩
  decide +kernel

end Draft

end Typeahead
