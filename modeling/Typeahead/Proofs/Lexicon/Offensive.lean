import Typeahead.Proofs.Lexicon.Offers
import Typeahead.Proofs.Lexicon.Reading

/-! # Offensive words

A query may block the words that a lexicon marks as offensive. Predictions and entries are held back
then (`isOffensive_of_mem_predictions`, `offensive_of_candidate?`), but a forced replacement is
offered as it stands. So an offensive word comes through in one way only: as the replacement of what
was typed (`offensive_offered_iff`). -/

namespace Typeahead

namespace Lexicon

variable {l : Lexicon} {q : Query} {e : Entry} {c : Candidate}

/-- A prediction has the word of one that may come next and is not blocked. -/
theorem exists_of_mem_predictions (h : c ∈ l.predictions q) :
    ∃ n ∈ l.nextWordsIn q.context, c.word = n.word ∧
      ¬ (q.block = true ∧ l.isOffensive n.word = true) := by
  obtain ⟨n, hn, rfl⟩ := List.mem_map.mp h
  obtain ⟨hnext, hfree⟩ := List.mem_filter.mp hn
  refine ⟨n, hnext, rfl, ?_⟩
  rintro ⟨hblock, hoffends⟩
  simp [hblock, hoffends] at hfree

/-- A blocked word is not predicted. -/
theorem isOffensive_of_mem_predictions (hblock : q.block = true) (h : c ∈ l.predictions q) :
    l.isOffensive c.word = false := by
  obtain ⟨n, -, hword, hfree⟩ := exists_of_mem_predictions h
  rw [hword, ← Bool.not_eq_true]
  exact fun hoffends => hfree ⟨hblock, hoffends⟩

/-- A blocked entry makes no candidate. -/
theorem offensive_of_candidate? (hblock : q.block = true) (h : l.candidate? q e = some c) :
    e.offensive = false := by
  rcases he : e.offensive with _ | _
  · rfl
  · simp [candidate?, he, hblock] at h

end Lexicon

namespace Draft

variable {d : Draft} {q : Query} {e : Entry} {c : Candidate} {locale : Locale}

/-- The mark of an entry is that of its word. -/
theorem isOffensive_of_mem_entries (h : d.WellFormed) (he : e ∈ d.build.payload.entries) :
    d.build.isOffensive e.word = e.offensive := by
  have hentry : d.build.entry? e.word = some e := by
    rw [entry?_build]
    exact (mem_entries h.words).mp he
  rw [Lexicon.isOffensive, hentry, Option.any_some]

/-- **What comes through**: of a lookup that blocks offensive words, a candidate with such a word is
the forced replacement of what was typed. -/
theorem mem_suggestions_and_isOffensive_iff (h : d.WellFormed) (hblock : q.block = true) :
    c ∈ d.build.suggestions q ∧ d.build.isOffensive c.word = true ↔
      q.typed ≠ [] ∧ d.build.replacement? q = some c ∧ d.build.isOffensive c.word = true := by
  by_cases hq : q.typed = []
  · rw [Lexicon.suggestions_of_nil hq]
    constructor
    · rintro ⟨hmem, hoffends⟩
      have hfree := Lexicon.isOffensive_of_mem_predictions hblock hmem
      simp [hoffends] at hfree
    · rintro ⟨hne, -, -⟩
      exact absurd hq hne
  · rw [mem_suggestions_iff hq]
    constructor
    · rintro ⟨hforced | ⟨e, he, -, hcandidate⟩, hoffends⟩
      · exact ⟨hq, hforced, hoffends⟩
      · -- the word of a candidate is that of its entry, which is not marked
        have hmark := isOffensive_of_mem_entries h he
        have hfree := Lexicon.offensive_of_candidate? hblock hcandidate
        rw [word_of_candidate? hcandidate, hmark, hfree] at hoffends
        exact absurd hoffends Bool.false_ne_true
    · rintro ⟨-, hforced, hoffends⟩
      exact ⟨.inl hforced, hoffends⟩

/-- **Which offensive words are offered** although they are blocked, read off the word list: the
last replacement named for what was typed, if the list marks that word as offensive. It is offered
in one candidate; all other words of a lookup are free of offence. -/
theorem offensive_offered_iff (locale : Locale) (ss : List SourceLine) (q : Query)
    (hblock : q.block = true) (c : Candidate) :
    (c ∈ (ofLines locale ss).build.suggestions q ∧ ∃ f, .offensive c.word f ∈ ss) ↔
      q.typed ≠ [] ∧ ∃ r f,
        (ss.filterMap (SourceLine.replaces? (Text.lower q.typed))).getLast? = some r ∧
          .offensive r f ∈ ss ∧ c = (ofLines locale ss).build.forced q r := by
  have hreads : Lexicon.Reads ss (ofLines locale ss).build := reads_build ss
  have hreplacement : (ofLines locale ss).build.replacement? q =
      ((ss.filterMap (SourceLine.replaces? (Text.lower q.typed))).getLast?).map
        ((ofLines locale ss).build.forced q) := by
    rw [replacement?_eq, WordMap.get?, hreads.replacements]
  rw [← hreads.isOffensive, mem_suggestions_and_isOffensive_iff (wellFormed_ofLines ss) hblock,
    hreplacement, hreads.isOffensive, Option.map_eq_some_iff]
  refine and_congr_right fun _ => ?_
  constructor
  · rintro ⟨⟨r, hr, rfl⟩, f, hf⟩
    exact ⟨r, f, hr, hf, rfl⟩
  · rintro ⟨r, f, hr, hf, rfl⟩
    exact ⟨⟨r, hr, rfl⟩, f, hf⟩

/-- A word that offends is held back, and what was typed for it has a replacement that does not
offend, after one that does. -/
theorem offensive_offered_iff_held_back :
    let ss : List SourceLine := [.offensive "damn".toList 90,
      .replacement "Damn".toList "damn".toList, .replacement "DAMN".toList "darn".toList]
    let l := (ofLines ⟨"en".toList⟩ ss).build
    let q : Query := ⟨"damn".toList, Context.empty 3, true, 1⟩
    q.block = true ∧ (l.suggestions q).map (·.word) = ["darn".toList] ∧
      ∀ c ∈ l.suggestions q, ¬ ∃ f, .offensive c.word f ∈ ss := by
  intro ss l q
  refine ⟨rfl, by decide +kernel, fun c hc hoffends => ?_⟩
  obtain ⟨-, r, f, hr, hf, -⟩ := (offensive_offered_iff ⟨"en".toList⟩ ss q rfl c).mp ⟨hc, hoffends⟩
  have hlast : (ss.filterMap (SourceLine.replaces? (Text.lower q.typed))).getLast? =
      some "darn".toList := by decide +kernel
  rw [hlast, Option.some.injEq] at hr
  subst hr
  simp [ss] at hf

/-- **An offensive word that is offered** although the query blocks such words: a replacement
for what was typed is not held back. -/
theorem offensive_replacement_offered :
    let ss : List SourceLine := [.offensive "damn".toList 90,
      .replacement "dmn".toList "damn".toList]
    let l := (ofLines ⟨"en".toList⟩ ss).build
    let q : Query := ⟨"dmn".toList, Context.empty 3, true, 1⟩
    q.block = true ∧ l.isOffensive "damn".toList = true ∧
      ∃ c ∈ l.suggestions q, c.word = "damn".toList := by
  decide +kernel

end Draft

end Typeahead
