import Typeahead.Proofs.Store.Order

/-! # What a use leaves as it is

A use of a word changes the entry of no other word, and one row at most. The row belongs to the
newest slot of the context, but it is found by a text: a word by itself, and a sentence start by its
tag. So contexts with different newest slots have different rows, unless one of them stands at a
sentence start and the other behind a word that is written like the tag (`Context.Mistakable`,
`mistakable_of_rowKey?`). What is predicted in the one is then what is predicted in the other, and
whatever is learned there changes it, unless the score of the word is at its limit already
(`Store.use_keeps_predictions_iff`). -/

namespace Typeahead

open WordMap

namespace WordMap

variable {α β : Type} {m : WordMap α}

theorem sorted_map {f : α → β} (hm : Sorted m) : Sorted (m.map fun e => (e.1, f e.2)) :=
  List.pairwise_map.mpr hm

theorem get?_map (f : α → β) (m : WordMap α) (k : Text) :
    get? (m.map fun e => (e.1, f e.2)) k = (get? m k).map f := by
  unfold get?
  rw [List.find?_map, Option.map_map, Option.map_map]
  rfl

end WordMap

/-! ### Rows of contexts -/

namespace Context

/-- One of the contexts stands at a sentence start, and the other one behind a word that is written
like the tag of sentence starts. -/
def Mistakable (c d : Context) : Prop :=
  (c.slots.head? = some .sentenceStart ∧ d.slots.head? = some (.word Slot.startTag)) ∨
    (c.slots.head? = some (.word Slot.startTag) ∧ d.slots.head? = some .sentenceStart)

instance (c d : Context) : Decidable (c.Mistakable d) := inferInstanceAs (Decidable (_ ∨ _))

end Context

namespace Tables

variable {t : Tables} {c d : Context} {w k : Text} {valid : Bool} {n time : Nat}

/-- **The row of a context** goes by its newest slot. -/
theorem rowKey?_eq_some_iff : rowKey? c = some k ↔
    (c.slots.head? = some .sentenceStart ∧ k = Slot.startTag) ∨
      (c.slots.head? = some (.word k) ∧ k ≠ []) := by
  unfold rowKey? Context.isStart Context.word? Context.slot?
  rw [if_neg Nat.one_ne_zero, ← List.head?_eq_getElem?]
  rcases c.slots.head? with _ | _ | _ | v
  · simp
  · simp [Slot.isStart, Slot.word?]
  · simp [Slot.isStart, eq_comm]
  · have hfilter : (some v).filter (fun w : Text => !w.isEmpty) = some k ↔ v = k ∧ k ≠ [] := by
      rw [Option.filter_eq_some_iff, Option.some.injEq]
      refine and_congr_right fun hv => ?_
      simp
    simp [Slot.isStart, Slot.word?, hfilter]

/-- Contexts with different newest slots and one row are mistaken for each other. -/
theorem mistakable_of_rowKey? (hcd : c.slots.head? ≠ d.slots.head?) (hck : rowKey? c = some k)
    (hdk : rowKey? d = some k) : c.Mistakable d := by
  rcases rowKey?_eq_some_iff.mp hck with ⟨hc, htag⟩ | ⟨hc, -⟩
  · rcases rowKey?_eq_some_iff.mp hdk with ⟨hd, -⟩ | ⟨hd, -⟩
    · exact absurd (hc.trans hd.symm) hcd
    · exact .inl ⟨hc, htag ▸ hd⟩
  · rcases rowKey?_eq_some_iff.mp hdk with ⟨hd, htag⟩ | ⟨hd, -⟩
    · exact .inr ⟨htag ▸ hc, hd⟩
    · exact absurd (hc.trans hd.symm) hcd

theorem rowKey?_of_mistakable (h : c.Mistakable d) :
    rowKey? c = some Slot.startTag ∧ rowKey? d = some Slot.startTag := by
  have htag : Slot.startTag ≠ [] := by decide
  rcases h with ⟨hc, hd⟩ | ⟨hc, hd⟩
  · exact ⟨rowKey?_eq_some_iff.mpr (.inl ⟨hc, rfl⟩), rowKey?_eq_some_iff.mpr (.inr ⟨hd, htag⟩)⟩
  · exact ⟨rowKey?_eq_some_iff.mpr (.inr ⟨hc, htag⟩), rowKey?_eq_some_iff.mpr (.inl ⟨hd, rfl⟩)⟩

/-! ### Scores of rows -/

/-- What is predicted in a row: its words with their scores. -/
def scores (t : Tables) (k : Text) : WordMap Nat :=
  (t.row k).map fun e => (e.1, predictionScore e.2)

/-- More uses do not raise the score of a word that has followed four times. -/
theorem predictionScore_addCounts_eq_iff {m : Nat} :
    predictionScore (addCounts m n) = predictionScore m ↔ n = 0 ∨ 4 ≤ m := by
  unfold predictionScore addCounts countLimit
  omega

theorem get?_scores_use (h : t.AreMaps) (hk : k ∈ rowKey? c) (v : Text) :
    ((t.use c w valid n time).scores k).get? v =
      if v = w then some (predictionScore (addCounts (((t.row k).get? w).getD 0) n))
      else (t.scores k).get? v := by
  rw [scores, scores, get?_map, get?_map, row_use h.followers, if_pos hk, get?_alter (h.rows k)]
  split_ifs <;> rfl

/-- A use leaves the scores of the rows that it is not counted in. -/
theorem scores_use_of_other (h : t.AreMaps) (hk : k ∉ rowKey? c) :
    (t.use c w valid n time).scores k = t.scores k := by
  rw [scores, row_use h.followers, if_neg hk, scores]

/-- **The scores of a row** in which a use is counted stay exactly if they were there and could not
rise. -/
theorem scores_use_eq_iff (h : t.AreMaps) (hk : k ∈ rowKey? c) :
    (t.use c w valid n time).scores k = t.scores k ↔
      ∃ m, (t.row k).get? w = some m ∧ (n = 0 ∨ 4 ≤ m) := by
  have hget (v : Text) : ((t.use c w valid n time).scores k).get? v =
      if v = w then some (predictionScore (addCounts (((t.row k).get? w).getD 0) n))
      else (t.scores k).get? v := get?_scores_use h hk v
  constructor
  · intro heq
    have hw := hget w
    rw [heq, if_pos rfl, scores, get?_map] at hw
    obtain ⟨m, hm, hscore⟩ := Option.map_eq_some_iff.mp hw
    rw [hm, Option.getD_some] at hscore
    exact ⟨m, hm, predictionScore_addCounts_eq_iff.mp hscore.symm⟩
  · rintro ⟨m, hm, hstays⟩
    have hafter : (t.use c w valid n time).AreMaps := h.use
    refine (sorted_map (hafter.rows k)).ext (sorted_map (h.rows k)) fun v => ?_
    show ((t.use c w valid n time).scores k).get? v = (t.scores k).get? v
    rw [hget]
    split_ifs with hv
    · rw [hm, Option.getD_some, predictionScore_addCounts_eq_iff.mpr hstays, hv, scores, get?_map,
        hm, Option.map_some]
    · rfl

end Tables

namespace Store

variable {s s' : Store} {c d : Context} {w k : Text}

/-- The predictions in a context are the scores of its row. -/
theorem predictions_eq (hk : Tables.rowKey? d = some k) (block : Bool) (weight : Rat) :
    s.suggestions ⟨[], d, block, weight⟩ = (s.tables.scores k).map fun e =>
      ⟨e.1, d.flatten, Scoring.weighted e.2 weight, ⟨Kind.prediction⟩, s.source⟩ := by
  show s.predictions ⟨[], d, block, weight⟩ = _
  unfold predictions
  dsimp only
  rw [hk, Tables.scores, List.map_map]
  rfl

/-- Nothing is predicted without a row. -/
theorem predictions_of_none (hk : Tables.rowKey? d = none) (block : Bool) (weight : Rat) :
    s.suggestions ⟨[], d, block, weight⟩ = [] := by
  show s.predictions ⟨[], d, block, weight⟩ = _
  unfold predictions
  dsimp only
  rw [hk]
  rfl

/-- **The predictions of two stores** in a context are the same exactly if the scores are. -/
theorem predictions_eq_iff (hsource : s'.source = s.source) (hk : Tables.rowKey? d = some k) :
    (∀ block weight, s'.suggestions ⟨[], d, block, weight⟩ = s.suggestions ⟨[], d, block, weight⟩) ↔
      s'.tables.scores k = s.tables.scores k := by
  constructor
  · intro hsame
    -- a weight of one leaves the scores as they are
    have hone (score : Int) : Scoring.weighted score 1 = score := by
      rw [Scoring.weighted, if_pos (by simp)]
    have hfull := hsame false 1
    rw [predictions_eq hk, predictions_eq hk, hsource] at hfull
    simp only [hone] at hfull
    refine List.map_injective_iff.mpr (fun e e' hee => ?_) hfull
    injection hee with hword _ hscore
    exact Prod.ext hword (Int.ofNat_inj.mp hscore)
  · intro hscores block weight
    rw [predictions_eq hk, predictions_eq hk, hsource, hscores]

/-- **When learning stays in its context**: a use of a word succeeds and leaves the entries of all
other words as they are. It also leaves the predictions in a context with another newest slot as
they are, unless the contexts are mistaken for each other; then it does so only if the word is
predicted there already, and was counted four times there or is not counted now. -/
theorem use_keeps_predictions_iff (h : s.Teachable) (hw : w ≠ [])
    (hcd : c.slots.head? ≠ d.slots.head?) (valid : Bool) (n time : Nat) :
    ∃ s', s.use c w valid n time = .ok s' ∧
      (∀ v, v ≠ w → s'.tables.words.get? v = s.tables.words.get? v) ∧
      ((∀ block weight,
          s'.suggestions ⟨[], d, block, weight⟩ = s.suggestions ⟨[], d, block, weight⟩) ↔
        (c.Mistakable d →
          ∃ m, (s.tables.row Slot.startTag).get? w = some m ∧ (n = 0 ∨ 4 ≤ m))) := by
  have hlearn : s.use c w valid n time = .ok (s.learned (.use c w valid n time)) :=
    learn_eq (l := .use c w valid n time) h hw
  have hsource : (s.learned (.use c w valid n time)).source = s.source := rfl
  refine ⟨s.learned (.use c w valid n time), hlearn, fun v hv => ?_, ?_⟩
  · exact Tables.get?_words_learn h.tables fun hmem => hv (List.mem_singleton.mp hmem)
  · rcases hd : Tables.rowKey? d with _ | k
    · refine iff_of_true (fun block weight => ?_) fun hmistakable => ?_
      · rw [predictions_of_none hd, predictions_of_none hd]
      · exact nomatch hd.symm.trans (Tables.rowKey?_of_mistakable hmistakable).2
    · rw [predictions_eq_iff hsource hd]
      by_cases hc : k ∈ Tables.rowKey? c
      · have hmistakable := Tables.mistakable_of_rowKey? hcd hc hd
        obtain ⟨htag, -⟩ := Tables.rowKey?_of_mistakable hmistakable
        obtain rfl : Slot.startTag = k := Option.some.inj (htag.symm.trans hc)
        rw [imp_iff_right hmistakable]
        exact Tables.scores_use_eq_iff h.tables hc
      · refine iff_of_true (Tables.scores_use_of_other h.tables hc) fun hmistakable => ?_
        obtain ⟨htag, htag'⟩ := Tables.rowKey?_of_mistakable hmistakable
        exact absurd (htag.trans (htag'.symm.trans hd)) hc

/-- A word that followed the start of sentences four times is used behind a word that is written
like the tag, and the predictions at the start of a sentence stay. -/
theorem use_keeps_predictions_iff_four :
    let word : Text := "hello".toList
    let s : Store := { number := 0, origin := .history, locale := ⟨"en".toList⟩,
                       tables := ({} : Tables).use Context.start word true 4 10 }
    let c : Context := (Context.empty 3).next (.word Slot.startTag)
    (s.Teachable ∧ word ≠ [] ∧ c.slots.head? ≠ Context.start.slots.head?) ∧
      c.Mistakable Context.start ∧
      ∃ s', s.use c word true 1 20 = .ok s' ∧ (∀ v, v ≠ word →
          s'.tables.words.get? v = s.tables.words.get? v) ∧
        ∀ block weight, s'.suggestions ⟨[], Context.start, block, weight⟩ =
          s.suggestions ⟨[], Context.start, block, weight⟩ := by
  intro word s c
  have hmaps : (({} : Tables).use Context.start word true 4 10).AreMaps := Tables.areMaps_empty.use
  have h : s.Teachable := ⟨rfl, hmaps, fun f hf => nomatch hf⟩
  have hw : word ≠ [] := by decide
  have hcd : c.slots.head? ≠ Context.start.slots.head? := by decide
  obtain ⟨s', hs', hothers, hiff⟩ := use_keeps_predictions_iff h hw hcd true 1 20
  have hfour : (s.tables.row Slot.startTag).get? word = some 4 := by decide +kernel
  exact ⟨⟨h, hw, hcd⟩, by decide, s', hs', hothers,
    hiff.mpr fun _ => ⟨4, hfour, .inr (Nat.le_refl 4)⟩⟩

/-- **The word that is written like the tag** shares its row with the starts of sentences: what is
learned behind the word is predicted at the start of a sentence, where nothing was predicted
before. -/
theorem learned_behind_tag_predicted_at_start :
    let s : Store := { number := 0, origin := .history, locale := ⟨"en".toList⟩ }
    let c : Context := (Context.empty 3).next (.word "<S>".toList)
    c.slots.head? = some (.word "<S>".toList) ∧
      Context.start.slots.head? = some .sentenceStart ∧
      s.suggestions ⟨[], Context.start, true, 1⟩ = [] ∧
      (s.use c "x".toList false 1 0).toOption.map (fun s' =>
        (s'.suggestions ⟨[], Context.start, true, 1⟩).map fun p => (p.word, p.score)) =
          some [("x".toList, 170)] := by
  decide +kernel

end Store

end Typeahead
