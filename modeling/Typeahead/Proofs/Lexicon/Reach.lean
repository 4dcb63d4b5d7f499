import Typeahead.Proofs.Lexicon.AsciiWalk
import Typeahead.Proofs.Lexicon.Buckets

/-! # The reach of a lookup

A lookup only scores the entries whose keys the two walks reach; here this is compared with scoring
every entry. The entries reached are those whose lower-case form is reached (`mem_suggestions_iff`).
On ASCII, and where the walk of completions is not cut off, these are the entries that what was
typed begins, or from which it is at most two insertions, deletions and replacements away
(`mem_reached_iff`, `isCorrection_iff`). The score however counts the exchange of two neighbours as
one slip, so that it accepts words that no walk reaches. -/

namespace Typeahead

namespace Lexicon

variable {l : Lexicon} {key : Text} {p : Text × Nat}

/-- The keys reached when neither walk is cut off. -/
theorem mem_reached_iff (hlarge : Walk.isTooLarge key = false)
    (hfew : (l.index.filter fun p => key.isPrefixOf p.1).length ≤ completionLimit) :
    p ∈ l.reached key ↔ p ∈ l.index ∧ (key <+: p.1 ∨ isCorrection key p.1) := by
  have hcompletions : p ∈ l.completions key ↔ p ∈ l.index ∧ key <+: p.1 := by
    rw [completions, List.take_of_length_le hfew, List.mem_filter, List.isPrefixOf_iff_prefix]
  rw [reached, List.mem_append, corrections, if_neg (by simp [hlarge]), List.mem_filter,
    Bool.and_eq_true, Bool.not_eq_true', List.contains_eq_mem, decide_eq_false_iff_not,
    hcompletions]
  tauto

theorem reach_pos_iff {n : Nat} : 0 < Scoring.reach n ↔ 2 ≤ n := by
  unfold Scoring.reach
  split_ifs <;> omega

/-- A key is found within two edits of what was typed, unless that is a single character. -/
theorem isCorrection_iff {k : Text} (hk : Walk.Unmistaken key k) :
    isCorrection key k ↔ 2 ≤ key.length ∧ editDistance k key ≤ 2 := by
  rw [isCorrection, Bool.and_eq_true, decide_eq_true_eq, Walk.finds_iff hk, reach_pos_iff]

/-- Where nothing was typed, the lookup predicts. -/
theorem suggestions_of_nil {q : Query} (h : q.typed = []) : l.suggestions q = l.predictions q := by
  rw [suggestions, h]
  rfl

end Lexicon

namespace Draft

variable {d : Draft} {q : Query} {e : Entry} {c : Candidate} {key : Text}

theorem mem_index_of_mem_reached {p : Text × Nat} (h : p ∈ d.build.reached key) : p ∈ d.index := by
  rw [Lexicon.reached, List.mem_append] at h
  rcases h with h | h
  · exact List.mem_of_mem_filter (List.mem_of_mem_take h)
  · unfold Lexicon.corrections at h
    split_ifs at h
    · simp at h
    · exact List.mem_of_mem_filter h

/-- The buckets that are reached hold the entries whose keys are. -/
theorem mem_bucket_reached_iff : (∃ p ∈ d.build.reached key, e ∈ d.build.bucket p.2) ↔
    e ∈ d.build.payload.entries ∧ ∃ n, (Text.lower e.word, n) ∈ d.build.reached key := by
  constructor
  · rintro ⟨⟨k, n⟩, hp, he⟩
    rw [bucket_of_mem_index (mem_index_of_mem_reached hp), List.mem_filter, beq_iff_eq] at he
    exact ⟨he.1, n, by rw [he.2]; exact hp⟩
  · rintro ⟨he, n, hp⟩
    refine ⟨_, hp, ?_⟩
    rw [bucket_of_mem_index (mem_index_of_mem_reached hp), List.mem_filter, beq_iff_eq]
    exact ⟨he, rfl⟩

/-- **The candidates of a lookup**: that of a forced replacement, and those of the entries whose
keys are reached. -/
theorem mem_suggestions_iff (hq : q.typed ≠ []) : c ∈ d.build.suggestions q ↔
    d.build.replacement? q = some c ∨ ∃ e ∈ d.build.payload.entries,
      (∃ n, (Text.lower e.word, n) ∈ d.build.reached (Text.lower q.typed)) ∧
        d.build.candidate? q e = some c := by
  rw [Lexicon.suggestions, if_neg (by simpa using hq), List.mem_append, Option.mem_toList]
  simp only [List.mem_filterMap, List.mem_flatMap, mem_bucket_reached_iff, and_assoc]

theorem exists_candidate? (hblock : ¬ (e.offensive ∧ q.block))
    (hscore : (Scoring.score? q.typed e.word e.frequency).isSome) :
    ∃ c, d.build.candidate? q e = some c := by
  obtain ⟨m, hm⟩ := Option.isSome_iff_exists.mp hscore
  rw [Lexicon.candidate?, if_neg (by simpa using hblock), hm]
  exact ⟨_, rfl⟩

theorem word_of_candidate? (h : d.build.candidate? q e = some c) : c.word = e.word := by
  unfold Lexicon.candidate? at h
  split at h
  · exact nomatch h
  · obtain ⟨m, -, rfl⟩ := Option.map_eq_some_iff.mp h
    rfl

/-- **Which accepted words are offered.** -/
theorem offers_iff (d : Draft) (q : Query) (e : Entry) (he : e ∈ d.build.payload.entries)
    (hword : e.word.IsAscii) (htyped : q.typed.IsAscii)
    (hlen : 2 ≤ q.typed.length ∧ q.typed.length < 40)
    (hfew : (d.build.index.filter fun p => (Text.lower q.typed).isPrefixOf p.1).length ≤ 256)
    (hblock : ¬ (e.offensive ∧ q.block))
    (hscore : (Scoring.score? q.typed e.word e.frequency).isSome) :
    (∃ c ∈ d.build.suggestions q, c.word = e.word) ↔
      Text.lower q.typed <+: Text.lower e.word ∨
        editDistance (Text.lower e.word) (Text.lower q.typed) ≤ 2 ∨
        ∃ c, d.build.replacement? q = some c ∧ c.word = e.word := by
  have hkey : (Text.lower q.typed).length = q.typed.length := Text.length_lower_of_isAscii htyped
  have hlarge : Walk.isTooLarge (Text.lower q.typed) = false :=
    Walk.isTooLarge_of_isAscii (Text.isAscii_lower htyped) (by omega)
  have hcorrection : Lexicon.isCorrection (Text.lower q.typed) (Text.lower e.word) ↔
      editDistance (Text.lower e.word) (Text.lower q.typed) ≤ 2 :=
    (Lexicon.isCorrection_iff (Walk.unmistaken_of_isAscii (Text.isAscii_lower hword))).trans
      (and_iff_right (by omega))
  have hne : q.typed ≠ [] := by
    intro h
    simp [h] at hlen
  rw [← hcorrection, ← or_assoc]
  constructor
  · rintro ⟨c, hc, hw⟩
    rcases (mem_suggestions_iff hne).mp hc with hr | ⟨e', -, ⟨n, hn⟩, hc'⟩
    · exact .inr ⟨c, hr, hw⟩
    · -- another entry may make the candidate, but only one with the same word
      rw [← word_of_candidate? hc', hw, Lexicon.mem_reached_iff hlarge hfew] at hn
      exact .inl hn.2
  · rintro (hreached | ⟨c, hr, hw⟩)
    · obtain ⟨c, hc⟩ := exists_candidate? (d := d) hblock hscore
      obtain ⟨n, hn⟩ := exists_mem_index.mpr ⟨e, he, rfl⟩
      have hmem := (Lexicon.mem_reached_iff (l := d.build) hlarge hfew).mpr ⟨hn, hreached⟩
      exact ⟨c, (mem_suggestions_iff hne).mpr (.inr ⟨e, he, ⟨n, hmem⟩, hc⟩), word_of_candidate? hc⟩
    · exact ⟨c, (mem_suggestions_iff hne).mpr (.inl hr), hw⟩

/-- An exchange alone is within two edits. -/
theorem offers_after_exchange :
    let d := ofLines ⟨"en".toList⟩ [.word "them".toList 100]
    let q : Query := ⟨"tehm".toList, Context.empty 3, true, 1⟩
    ∃ c ∈ d.build.suggestions q, c.word = "them".toList := by
  refine (offers_iff _ _ ⟨"them".toList, 100, false, []⟩ ?_ ?_ ?_ ?_ ?_ ?_ ?_).mpr (.inr (.inl ?_))
  all_goals decide +kernel

/-- **An accepted word that is not offered**: an exchange and an insertion are two slips for the
score and three edits for the walk. -/
theorem exchange_and_insertion_not_offered :
    let d := ofLines ⟨"en".toList⟩ [.word "them".toList 100]
    let q : Query := ⟨"hte".toList, Context.empty 3, true, 1⟩
    let e : Entry := ⟨"them".toList, 100, false, []⟩
    e ∈ d.build.payload.entries ∧ e.word.IsAscii ∧ q.typed.IsAscii ∧
      2 ≤ q.typed.length ∧ q.typed.length < 40 ∧
      (d.build.index.filter fun p => (Text.lower q.typed).isPrefixOf p.1).length ≤ 256 ∧
      ¬ (e.offensive ∧ q.block) ∧ (Scoring.score? q.typed e.word e.frequency).isSome ∧
      ¬ ∃ c ∈ d.build.suggestions q, c.word = e.word := by
  decide +kernel

end Draft

end Typeahead
