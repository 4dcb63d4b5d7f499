import Typeahead.Engine.Suggest
import Typeahead.Lexicon.Draft
import Typeahead.Proofs.Candidate.Repeats
import Typeahead.Proofs.Correction
import Typeahead.Proofs.Text.Case

/-! # The strip of a typed word

What a strip shows is said by `TypingCase.Shows`: the typed word leads, all other words of the
candidates follow in order, each once, and with a correction the second word is the one that
replaces the typed word, which is shown again behind it. The words besides the typed one are the
same wherever the typed word is put in (`firstOf_withoutWord_words`). A correction has a second word
to show because it is never decided about the typed word itself: when the typed word is all there
is, it may not be replaced (`others_of_corrects`). -/

namespace Typeahead

/-! ### Letter case -/

theorem Candidate.isKind_ofTyped (w : Text) (s : Source) :
    (Candidate.ofTyped w s).isKind Kind.typed := by
  show ((0 : UInt32) &&& 0xFF == 0) = true
  decide

theorem Strip.suggestions_of_typed {s : Strip} {first : Candidate} {rest : List Candidate}
    (hwords : s.words = first :: rest) (hkind : first.isKind Kind.typed)
    (hinfo : s.typedInfo.isSome) : s.suggestions = rest := by
  simp only [suggestions, hwords, hkind, hinfo, Bool.and_self, if_true]

theorem ShownCase.apply_eq_nil_iff {s : ShownCase} {w : Text} : s.apply w = [] ↔ w = [] := by
  cases s with
  | asIs => exact Iff.rfl
  | capitalized => exact Text.capitalize_eq_nil_iff
  | allUpper => exact Text.upper_eq_nil_iff

theorem withoutWord_insertAt {w : Text} {c : Candidate} (h : c.word = w) (i : Nat)
    (cs : List Candidate) : withoutWord w (insertAt i c cs) = withoutWord w cs := by
  have hsplit : withoutWord w cs = withoutWord w (cs.take i) ++ withoutWord w (cs.drop i) := by
    rw [withoutWord, withoutWord, withoutWord, ← List.filter_append, List.take_append_drop]
  have hcons : withoutWord w (c :: cs.drop i) = withoutWord w (cs.drop i) := withoutWord_cons_self h
  rw [insertAt, hsplit, ← hcons]
  exact List.filter_append _ _

namespace TypingCase

variable {t : TypingCase}

theorem typed_eq_nil_iff : t.typed = [] ↔ t.composer.word = [] := ShownCase.apply_eq_nil_iff

/-- The entry that shows the typed word once more. -/
def again (t : TypingCase) : Candidate :=
  t.typedOccurrence.getD ⟨t.typed, [], 0, ⟨Kind.typed⟩, .userTyped⟩

theorem word_again (t : TypingCase) : t.again.word = t.typed := by
  unfold again
  rcases ho : t.typedOccurrence with _ | c
  · rfl
  · have hc := List.find?_some ho
    rw [Option.getD_some]
    exact beq_iff_eq.mp hc

/-- The words of the strip before the typed word is shown again. -/
def led (t : TypingCase) : List Candidate := t.typedInfo.toList ++ t.others

theorem words_eq (t : TypingCase) : t.words =
    if t.showsTyped ∧ t.typedPlace ≤ t.led.length then insertAt t.typedPlace t.again t.led
    else t.led := by
  simp only [words, led, again, Bool.and_eq_true, decide_eq_true_eq]
  congr

/-! ### The words besides the typed one -/

theorem typedInfo_of_nil (h : t.typed = []) : t.typedInfo = none := by
  rw [typedInfo, h]
  rfl

theorem exists_typedInfo (h : t.typed ≠ []) :
    ∃ s, t.typedInfo = some (.ofTyped t.typed s) := by
  rw [typedInfo, if_neg (by simpa using h)]
  exact ⟨_, rfl⟩

theorem others_of_nil (h : t.typed = []) : t.others = firstOccurrences t.transformed := by
  rw [others, h, removeTypedAndRepeated_nil]

theorem others_of_ne_nil (h : t.typed ≠ []) :
    t.others = firstOccurrences (withoutWord t.typed t.transformed) := by
  rw [others, removeTypedAndRepeated_some h]

theorem word_ne_of_mem_others (h : t.typed ≠ []) {c : Candidate} (hc : c ∈ t.others) :
    c.word ≠ t.typed := by
  rw [others_of_ne_nil h] at hc
  exact (mem_withoutWord.mp ((firstOf_firstOccurrences _).sublist.subset hc)).2

theorem withoutWord_words_eq_led (t : TypingCase) :
    withoutWord t.typed t.words = withoutWord t.typed t.led := by
  rw [words_eq]
  split_ifs
  · exact withoutWord_insertAt t.word_again _ _
  · rfl

/-- **The words besides the typed one**, wherever that is shown. -/
theorem firstOf_withoutWord_words (t : TypingCase) :
    FirstOf (withoutWord t.typed t.transformed) (withoutWord t.typed t.words) := by
  rw [withoutWord_words_eq_led, led]
  by_cases h : t.typed = []
  · rw [typedInfo_of_nil h, others_of_nil h]
    exact (firstOf_firstOccurrences _).withoutWord _
  · obtain ⟨s, hs⟩ := exists_typedInfo h
    have hothers := withoutWord_eq_self fun c hc => word_ne_of_mem_others h (c := c) hc
    rw [hs, Option.toList_some, List.singleton_append, withoutWord_cons_self (w := t.typed) rfl,
      hothers, others_of_ne_nil h]
    exact firstOf_firstOccurrences _

/-! ### The correction -/

/-- **A correction is about the first of the other words**, never about the typed word. -/
theorem others_of_corrects (h : t.decision.corrects) : t.typed ≠ [] ∧
    ∃ c rest, t.others = c :: rest ∧ t.correctionCase.applied? = some c ∧
      CorrectionCase.exceedsThreshold t.settings c t.correctionCase.considered ∧
      t.decision = t.correctionCase.compete c := by
  obtain ⟨hd, first, hfirst, hthreshold, hcompete⟩ := CorrectionCase.exists_of_corrects h
  obtain ⟨hallows, hword, hitems⟩ := CorrectionCase.of_isDisqualified_eq_false hd
  have htyped : t.typed ≠ [] := fun h => hword (typed_eq_nil_iff.mp h)
  have hne : t.others ≠ [] := by
    rcases CorrectionCase.first_or_unknown_of_allows hallows with hsome | hnone
    · intro hnil
      simp [correctionCase, hnil] at hsome
    · -- the typed word is no candidate, so none of the candidates is taken out
      have hunknown : ∀ c ∈ t.transformed, c.word ≠ t.typed := fun c hc => by
        simpa using List.find?_eq_none.mp (Option.isNone_iff_eq_none.mp hnone) c hc
      rw [others_of_ne_nil htyped, withoutWord_eq_self hunknown, ne_eq,
        firstOccurrences_eq_nil_iff]
      exact fun hnil => hitems (List.map_eq_nil_iff.mp hnil)
  obtain ⟨c, rest, hothers⟩ := List.exists_cons_of_ne_nil hne
  have hc : t.correctionCase.applied? = some c := by
    show (t.others.head? <|> _) = _
    rw [hothers]
    rfl
  rw [hc] at hfirst
  obtain rfl := Option.some.inj hfirst
  exact ⟨htyped, c, rest, hothers, hc, hthreshold, hcompete⟩

/-! ### What is shown -/

/-- **What a strip shows** for a typed word. -/
structure Shows (t : TypingCase) (s : Strip) : Prop where
  leads : t.composer.word ≠ [] → ∃ first rest, s.words = first :: rest ∧
    first.isKind Kind.typed ∧ first.word = t.typed ∧ s.typedInfo = some first
  others : FirstOf (withoutWord t.typed t.transformed) (withoutWord t.typed s.words)
  correction : s.corrects → ∃ first c again rest, s.words = first :: c :: again :: rest ∧
    again.word = t.typed ∧ s.correction = some c ∧ c.word ≠ t.typed ∧
    t.correctionCase.applied? = some c ∧
    CorrectionCase.exceedsThreshold t.settings c t.correctionCase.considered ∧
    t.decision = t.correctionCase.compete c ∧
    t.scores = ⟨(t.nextWords.find? c.word).map (·.score), (t.nextWords.find? t.typed).map (·.score)⟩
  noCorrection : ¬ s.corrects → s.correction = none
  predicts : t.composer.word = [] → s.typedInfo = none ∧ FirstOf t.transformed s.words ∧
    ¬ s.corrects

theorem words_of_corrects (h : t.decision.corrects) {first c : Candidate} {rest : List Candidate}
    (hinfo : t.typedInfo = some first) (hothers : t.others = c :: rest) :
    t.words = first :: c :: t.again :: rest := by
  have htyped := (others_of_corrects h).1
  have hled : t.led = first :: c :: rest := by rw [led, hinfo, hothers]; rfl
  have hshows : t.showsTyped = true := by
    rw [showsTyped, h]
    simpa using htyped
  have hplace : t.typedPlace = 2 := if_pos h
  rw [words_eq, if_pos ⟨hshows, by simp [hplace, hled]⟩, hplace, hled]
  rfl

theorem words_of_nil (h : t.typed = []) : t.words = firstOccurrences t.transformed := by
  have hshows : t.showsTyped = false := by simp [showsTyped, h]
  rw [words_eq, if_neg (by simp [hshows]), led, typedInfo_of_nil h, others_of_nil h]
  rfl

theorem exists_words (h : t.typed ≠ []) : ∃ s rest, t.words = .ofTyped t.typed s :: rest ∧
    t.typedInfo = some (.ofTyped t.typed s) := by
  obtain ⟨s, hs⟩ := exists_typedInfo h
  have hled : t.led = .ofTyped t.typed s :: t.others := by rw [led, hs]; rfl
  obtain ⟨i, hi⟩ : ∃ i, t.typedPlace = i + 1 := by
    unfold typedPlace
    split_ifs
    · exact ⟨1, rfl⟩
    · exact ⟨0, rfl⟩
  rw [words_eq, hled, hi, insertAt, List.take_succ_cons, List.cons_append]
  split_ifs
  · exact ⟨s, _, rfl, hs⟩
  · exact ⟨s, _, rfl, hs⟩

theorem shows_strip (t : TypingCase) : t.Shows t.strip where
  leads hw := by
    obtain ⟨s, rest, hwords, hinfo⟩ := exists_words fun h => hw (typed_eq_nil_iff.mp h)
    exact ⟨_, rest, hwords, Candidate.isKind_ofTyped _ s, rfl, hinfo⟩
  others := t.firstOf_withoutWord_words
  correction h := by
    obtain ⟨htyped, c, rest, hothers, happlied, hthreshold, hcompete⟩ := others_of_corrects h
    obtain ⟨s, hinfo⟩ := exists_typedInfo htyped
    have hwords := words_of_corrects h hinfo hothers
    refine ⟨_, c, t.again, rest, hwords, t.word_again, ?_, ?_, happlied, hthreshold, hcompete, ?_⟩
    · have hsuggestions : t.strip.suggestions = c :: t.again :: rest :=
        Strip.suggestions_of_typed hwords (Candidate.isKind_ofTyped _ s)
          (Option.isSome_iff_exists.mpr ⟨_, hinfo⟩)
      rw [Strip.correction, if_pos h, hsuggestions]
      rfl
    · exact word_ne_of_mem_others htyped (by simp [hothers])
    · rw [scores, hothers]
      rfl
  noCorrection h := if_neg h
  predicts hw := by
    have htyped := typed_eq_nil_iff.mpr hw
    refine ⟨typedInfo_of_nil htyped, ?_, fun h => (others_of_corrects h).1 htyped⟩
    show FirstOf t.transformed t.words
    rw [words_of_nil htyped]
    exact firstOf_firstOccurrences _

end TypingCase

/-- **Every strip for a word typed key by key** shows what it should, whatever the candidates, the
composer, the keyboard and the settings. -/
theorem Engine.shows_suggest : (∀ t : TypingCase, t.Shows t.strip) ∧
    ∀ (e : Engine) (r : SuggestRequest), r.composer.batch = false →
      (e.typingCase r).Shows (e.suggest r).1 := by
  refine ⟨TypingCase.shows_strip, fun e r hr => ?_⟩
  have hstrip : (e.suggest r).1 = (e.typingCase r).strip := by
    rw [suggest, strip, hr]
    rfl
  rw [hstrip]
  exact TypingCase.shows_strip _

/-- A slip with a forced replacement. -/
theorem Engine.shows_suggest_replacement :
    let d : Draft := { locale := ⟨"en".toList⟩ }
    let l := (((d.addWord "the".toList 250).addWord "ten".toList 120).addReplacement "teh".toList
      "the".toList).build
    let e : Engine := { Engine.start (.memory []) {} default with
      groups := [{ number := 0, locale := ⟨"en".toList⟩, main := some l.dictionary }] }
    let r : SuggestRequest :=
      { composer := .ofWord "teh".toList, context := .empty 3, caps := .manualShifted,
        settings := {} }
    (e.typingCase r).Shows (e.suggest r).1 ∧ (e.suggest r).1.corrects ∧
      (e.suggest r).1.words.map (·.word) =
        ["Teh".toList, "The".toList, "Teh".toList, "Ten".toList] ∧
      (e.suggest r).1.correction.map (·.word) = some "The".toList := by
  intro d l e r
  refine ⟨Engine.shows_suggest.2 e r rfl, ?_, ?_, ?_⟩ <;> decide +kernel

end Typeahead
