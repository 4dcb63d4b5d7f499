import Typeahead.Proofs.Lexicon.Reach
import Typeahead.Proofs.Lexicon.Reading

/-! # Adding a word to a word list

One more word changes the entries of a lexicon, and it takes the words that follow it along. So the
words that come next stay what they were, save after the new word itself: there its own list counts,
be it empty, where before its lower-case form may have been looked at (`nextWordsIn_addWord`). That
is the only way in which predictions get lost (`kept_after_addition_iff`). -/

namespace Typeahead

namespace Lexicon

/-- The words that may come next, by the newest slot of the context. -/
theorem nextWordsIn_eq (l : Lexicon) (c : Context) : l.nextWordsIn c =
    match c.slots.head? with
    | some .sentenceStart => l.payload.starts
    | some (.word v) => ((l.nextWordsAfter v) <|> (l.nextWordsAfter (Text.lower v))).getD []
    | _ => [] := by
  obtain ⟨window, slots⟩ := c
  cases slots with
  | nil => rfl
  | cons s rest => cases s <;> rfl

end Lexicon

namespace Draft

variable {d : Draft} {w v : Text} {f : Nat} {c : Context} {q : Query}

/-! ### The words after a word -/

/-- A word that is added is known from then on, with the words that followed it before. -/
theorem nextWordsAfter_addWord (h : d.WellFormed) : (d.addWord w f).build.nextWordsAfter v =
    if v = w then some ((d.build.nextWordsAfter w).getD []) else d.build.nextWordsAfter v := by
  have hfollowers : (d.addWord w f).followers v = d.followers v := followers_addWord h
  rw [nextWordsAfter_build h.addWord, hfollowers, frequency?_addWord h]
  by_cases hv : v = w
  · have hknown : ((d.frequency? w).merge max (some f)).isSome := by
      cases d.frequency? w <;> rfl
    rw [if_pos hv, if_pos (.inl hknown), if_pos hv, nextWordsAfter_getD_build h, hv]
  · rw [if_neg hv, if_neg hv, nextWordsAfter_build h]

theorem getD_nextWordsAfter_addWord (h : d.WellFormed) :
    ((d.addWord w f).build.nextWordsAfter v).getD [] = (d.build.nextWordsAfter v).getD [] := by
  rw [nextWordsAfter_addWord h]
  split_ifs with hv
  · rw [hv, Option.getD_some]
  · rfl

theorem isOffensive_addWord (h : d.WellFormed) :
    (d.addWord w f).build.isOffensive v = d.build.isOffensive v := by
  rw [isOffensive_build, isOffensive_build, offends_addWord h]

/-! ### The words that come next -/

/-- **What a new word changes**: after the word itself, if it was unknown, nothing comes next any
more; everything else stays. -/
theorem nextWordsIn_addWord (h : d.WellFormed) : (d.addWord w f).build.nextWordsIn c =
    if c.slots.head? = some (.word w) ∧ d.build.nextWordsAfter w = none then []
    else d.build.nextWordsIn c := by
  rw [Lexicon.nextWordsIn_eq, Lexicon.nextWordsIn_eq]
  rcases c.slots.head? with _ | (_ | _ | v)
  · simp
  · simp
  · simp only [Option.some.injEq, reduceCtorEq, false_and, if_false]
    rfl
  · by_cases hv : v = w
    · subst hv
      rcases hknown : d.build.nextWordsAfter v with _ | ns
      · simp [nextWordsAfter_addWord h, hknown]
      · simp [nextWordsAfter_addWord h, hknown]
    · have hself : (d.addWord w f).build.nextWordsAfter v = d.build.nextWordsAfter v := by
        rw [nextWordsAfter_addWord h, if_neg hv]
      have hlower : ((d.addWord w f).build.nextWordsAfter (Text.lower v)).getD [] =
          (d.build.nextWordsAfter (Text.lower v)).getD [] := getD_nextWordsAfter_addWord h
      rw [if_neg (by simp [hv])]
      dsimp only
      rw [hself]
      rcases d.build.nextWordsAfter v with _ | ns
      · exact hlower
      · rfl

theorem predictions_addWord (h : d.WellFormed) : (d.addWord w f).build.predictions q =
    if q.context.slots.head? = some (.word w) ∧ d.build.nextWordsAfter w = none then []
    else d.build.predictions q := by
  have hsource : (d.addWord w f).build.source = d.build.source := rfl
  unfold Lexicon.predictions
  simp only [nextWordsIn_addWord h, isOffensive_addWord h, hsource]
  split_ifs <;> rfl

/-! ### Position in the list -/

/-- A word can be added at any place. -/
theorem ofLines_insert_word (locale : Locale) (before after : List SourceLine) (w : Text)
    (f : Nat) : ofLines locale (before ++ .word w f :: after) =
      (ofLines locale (before ++ after)).addWord w f := by
  have hlast : (ofLines locale (before ++ after)).addWord w f =
      ofLines locale ((before ++ after) ++ [.word w f]) :=
    (ofLines_concat (before ++ after) (.word w f)).symm
  rw [hlast]
  refine ofLines_congr (fun s _ => ?_) fun k => ?_
  · simp only [List.mem_append, List.mem_cons, List.not_mem_nil, or_false]
    tauto
  · simp [SourceLine.replaces?]

end Draft

/-! ### Words of the list -/

namespace Lexicon

variable {l : Lexicon} {ss : List SourceLine} {w v u : Text} {q : Query}

/-- The words that may come after `v` are those the list names in a pair with it. -/
theorem Reads.exists_mem_nextWordsAfter_iff (h : Reads ss l) :
    (∃ n ∈ (l.nextWordsAfter v).getD [], n.word = u) ↔
      v ≠ Slot.startTag ∧ ∃ f, .pair v u f ∈ ss := by
  have hnamed : (∃ n ∈ (l.nextWordsAfter v).getD [], n.word = u) ↔
      ((ss.filterMap (SourceLine.follows? v u)).max?).isSome := by
    rw [Option.isSome_iff_exists]
    constructor
    · rintro ⟨n, hn, rfl⟩
      exact ⟨n.frequency, ((h.nextWords v).mem_iff n).mp hn⟩
    · rintro ⟨f, hf⟩
      exact ⟨⟨u, f⟩, ((h.nextWords v).mem_iff ⟨u, f⟩).mpr hf, rfl⟩
  rw [hnamed, isSome_max?_filterMap]
  constructor
  · rintro ⟨s, hs, hfollows⟩
    cases s with
    | pair before n f =>
      obtain ⟨hstart, rfl, rfl⟩ : before ≠ Slot.startTag ∧ before = v ∧ n = u := by
        simpa [SourceLine.follows?] using hfollows
      exact ⟨hstart, f, hs⟩
    | blank | word | offensive | replacement => simp [SourceLine.follows?] at hfollows
  · rintro ⟨hstart, f, hs⟩
    exact ⟨_, hs, by simp [SourceLine.follows?, hstart]⟩

/-- A word is unknown when the list names it neither as a word nor before another. -/
theorem Reads.nextWordsAfter_eq_none_iff (h : Reads ss l) : l.nextWordsAfter w = none ↔
    (∀ f, .word w f ∉ ss ∧ .offensive w f ∉ ss) ∧
      (w = Slot.startTag ∨ ∀ v f, .pair w v f ∉ ss) := by
  have hcontext := h.isContext w
  rw [h.contains] at hcontext
  rw [← Option.not_isSome_iff_eq_none, hcontext]
  push Not
  rw [ne_eq, ← or_iff_not_imp_left]

end Lexicon

namespace Draft

variable {locale : Locale} {ss : List SourceLine} {w : Text} {f : Nat} {q : Query}

/-- **A new word hides predictions**: it is the newest word of the context, the list names it
neither as a word nor before another, and it names a word after its lower-case form that is not
blocked. -/
structure Hides (ss : List SourceLine) (w : Text) (q : Query) : Prop where
  newest : q.context.slots.head? = some (.word w)
  noWord : ∀ f, .word w f ∉ ss ∧ .offensive w f ∉ ss
  noContext : w = Slot.startTag ∨ ∀ v f, .pair w v f ∉ ss
  lowerCase : Text.lower w ≠ Slot.startTag
  follower : ∃ v f, .pair (Text.lower w) v f ∈ ss ∧ (q.block = true → ∀ g, .offensive v g ∉ ss)

/-- After an unknown word those words are predicted that follow its lower-case form. -/
theorem predictions_ne_nil_iff {l : Lexicon} (h : Lexicon.Reads ss l)
    (hnewest : q.context.slots.head? = some (.word w)) (hunknown : l.nextWordsAfter w = none) :
    l.predictions q ≠ [] ↔ Text.lower w ≠ Slot.startTag ∧
      ∃ v f, .pair (Text.lower w) v f ∈ ss ∧ (q.block = true → ∀ g, .offensive v g ∉ ss) := by
  have hnext : l.nextWordsIn q.context = (l.nextWordsAfter (Text.lower w)).getD [] := by
    rw [Lexicon.nextWordsIn_eq, hnewest]
    dsimp only
    rw [hunknown]
    rfl
  have hfree (v : Text) : (!(q.block && l.isOffensive v)) = true ↔
      (q.block = true → ∀ g, .offensive v g ∉ ss) := by
    have hmark := h.isOffensive v
    rw [Bool.not_eq_true', Bool.and_eq_false_imp, ← Bool.not_eq_true, hmark, not_exists]
  rw [Lexicon.predictions, ne_eq, List.map_eq_nil_iff, List.filter_eq_nil_iff, hnext]
  push Not
  simp only [hfree]
  constructor
  · rintro ⟨n, hn, hblock⟩
    obtain ⟨hstart, f, hf⟩ := h.exists_mem_nextWordsAfter_iff.mp ⟨n, hn, rfl⟩
    exact ⟨hstart, n.word, f, hf, hblock⟩
  · rintro ⟨hstart, v, f, hf, hblock⟩
    obtain ⟨n, hn, rfl⟩ := h.exists_mem_nextWordsAfter_iff.mpr ⟨hstart, f, hf⟩
    exact ⟨n, hn, hblock⟩

theorem hides_iff {l : Lexicon} (h : Lexicon.Reads ss l) : Hides ss w q ↔
    (q.context.slots.head? = some (.word w) ∧ l.nextWordsAfter w = none) ∧
      l.predictions q ≠ [] := by
  constructor
  · rintro ⟨hnewest, hword, hcontext, hlower, hfollower⟩
    have hunknown := h.nextWordsAfter_eq_none_iff.mpr ⟨hword, hcontext⟩
    exact ⟨⟨hnewest, hunknown⟩,
      (predictions_ne_nil_iff h hnewest hunknown).mpr ⟨hlower, hfollower⟩⟩
  · rintro ⟨⟨hnewest, hunknown⟩, hne⟩
    obtain ⟨hword, hcontext⟩ := h.nextWordsAfter_eq_none_iff.mp hunknown
    obtain ⟨hlower, hfollower⟩ := (predictions_ne_nil_iff h hnewest hunknown).mp hne
    exact ⟨hnewest, hword, hcontext, hlower, hfollower⟩

/-- **When a new word takes no prediction away**: at any place of the list, it takes predictions
away exactly if it hides them; otherwise all predictions stay as they are, with their scores. -/
theorem kept_after_addition_iff (locale : Locale) (before after : List SourceLine) (w : Text)
    (f : Nat) (q : Query) (hq : q.typed = []) :
    let ss := before ++ after
    let l := (ofLines locale ss).build
    let l' := (ofLines locale (before ++ .word w f :: after)).build
    ((∀ c ∈ l.suggestions q, ∃ c' ∈ l'.suggestions q, c'.word = c.word) ↔ ¬ Hides ss w q) ∧
      (¬ Hides ss w q → l'.suggestions q = l.suggestions q) ∧
      (Hides ss w q → l'.suggestions q = []) := by
  intro ss l l'
  have hreads : Lexicon.Reads ss l := reads_build ss
  have hadded : l'.predictions q =
      if q.context.slots.head? = some (.word w) ∧ l.nextWordsAfter w = none then []
      else l.predictions q := by
    show (ofLines locale (before ++ .word w f :: after)).build.predictions q = _
    rw [ofLines_insert_word]
    exact predictions_addWord (wellFormed_ofLines ss)
  have hhidden (h : Hides ss w q) : l'.predictions q = [] := by
    rw [hadded, if_pos ((hides_iff hreads).mp h).1]
  have hsame (h : ¬ Hides ss w q) : l'.predictions q = l.predictions q := by
    rw [hides_iff hreads, not_and, not_not] at h
    rw [hadded]
    split_ifs with hnew
    · exact (h hnew).symm
    · rfl
  simp only [Lexicon.suggestions_of_nil hq]
  refine ⟨⟨fun hkept h => ?_, fun h => ?_⟩, hsame, hhidden⟩
  · -- the lexicon without the word has a prediction, which the other one lacks
    obtain ⟨c, hc⟩ := List.exists_mem_of_ne_nil _ ((hides_iff hreads).mp h).2
    obtain ⟨c', hc', -⟩ := hkept c hc
    rw [hhidden h] at hc'
    exact absurd hc' List.not_mem_nil
  · rw [hsame h]
    exact fun c hc => ⟨c, hc, rfl⟩

/-- A word that was known as the context of others before takes them along. -/
theorem kept_after_addition_iff_context :
    let before : List SourceLine := [.pair "Good".toList "morning".toList 150]
    let after : List SourceLine := [.pair "good".toList "grief".toList 90]
    let q : Query := ⟨[], Context.ofSlots 3 [.word "Good".toList], true, 1⟩
    let l := (ofLines ⟨"en".toList⟩ (before ++ after)).build
    let l' := (ofLines ⟨"en".toList⟩ (before ++ .word "Good".toList 200 :: after)).build
    q.typed = [] ∧ (l.suggestions q).map (·.word) = ["morning".toList] ∧
      ∀ c ∈ l.suggestions q, ∃ c' ∈ l'.suggestions q, c'.word = c.word := by
  intro before after q l l'
  refine ⟨rfl, by decide +kernel, ?_⟩
  refine (kept_after_addition_iff ⟨"en".toList⟩ before after "Good".toList 200 q rfl).1.mpr ?_
  rintro ⟨-, -, hstart | hpair, -, -⟩
  · exact absurd hstart (by decide)
  · exact hpair "morning".toList 150 (by decide)

/-- **A word that takes a prediction away**: what follows "hello" was predicted after "Hello" too,
until that became a word of its own. -/
theorem capitalized_word_hides_predictions :
    let before : List SourceLine := [.pair "hello".toList "world".toList 90]
    let q : Query := ⟨[], Context.ofSlots 3 [.word "Hello".toList], true, 1⟩
    let l := (ofLines ⟨"en".toList⟩ (before ++ [])).build
    let l' := (ofLines ⟨"en".toList⟩ (before ++ .word "Hello".toList 10 :: [])).build
    q.typed = [] ∧ (∃ c ∈ l.suggestions q, c.word = "world".toList) ∧
      ¬ ∃ c ∈ l'.suggestions q, c.word = "world".toList := by
  decide +kernel

end Draft

end Typeahead
