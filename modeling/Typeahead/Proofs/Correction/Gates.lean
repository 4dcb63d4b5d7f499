import Mathlib.Tactic.SplitIfs
import Typeahead.Proofs.Composer
import Typeahead.Proofs.Correction
import Typeahead.Proofs.Text.Ends

/-! # The gates of a correction

A correction is decided in several places, most of which can only forbid it. Here the conditions are
gathered in one structure, `CorrectionCase.Passes`: what the settings, the field, the composer, the
results and the candidate itself must be like. The gates let a correction pass if and only if the
candidate also beats a typed word that is strong itself (`corrects_iff`). -/

namespace Typeahead.CorrectionCase

variable {c : CorrectionCase} {first : Candidate} {typed : Text}

/-! ### The candidate -/

/-- A candidate of a kind that may replace what was typed scores high enough to replace `typed`. -/
structure Reaches (s : Settings) (first : Candidate) (typed : Text) : Prop where
  kind : if first.isKind Kind.shortcut then s.correctsToShortcuts = true
    else first.isAppropriate = true
  score : s.threshold.reachedBy (Scoring.normalizedScore typed first.word first.score) = true

theorem exceedsThreshold_iff {s : Settings} : exceedsThreshold s first typed = true ↔
    first.isKind Kind.whitelist = true ∨ Reaches s first typed := by
  unfold exceedsThreshold
  by_cases hforced : first.isKind Kind.whitelist = true
  · simp only [hforced, if_true, true_or]
  · rw [if_neg hforced, or_iff_right hforced]
    constructor
    · intro h
      split_ifs at h with h1 h2
      refine ⟨?_, h⟩
      split_ifs with hshortcut
      · simpa [hshortcut] using h1
      · simpa [hshortcut] using h2
    · rintro ⟨hkind, hscore⟩
      split_ifs at hkind with hshortcut
      · rw [if_neg (by simp [hkind]), if_neg (by simp [hshortcut]), hscore]
      · rw [if_neg (by simp [hshortcut]), if_neg (by simp [hkind]), hscore]

theorem allowsSpaces_iff : allowsSpaces first = true ↔
    ∀ l limit, first.source.locale = some l → (l.language, limit) ∈ spaceLimits →
      first.word.length ≤ limit ∨ ' ' ∉ first.word := by
  unfold allowsSpaces
  rcases first.source.locale with _ | l
  · simp
  · simp only [spaceLimits, List.find?_cons, List.find?_nil, List.mem_singleton, Prod.mk.injEq,
      Option.some.injEq]
    by_cases hl : l.language = ['d', 'e']
    · simp only [hl, beq_self_eq_true, Bool.or_eq_true, decide_eq_true_eq, Bool.not_eq_true',
        List.contains_eq_mem, decide_eq_false_iff_not]
      constructor
      · rintro h _ _ - ⟨-, rfl⟩
        exact h
      · intro h
        exact h l 12 rfl ⟨hl, rfl⟩
    · have hother : (['d', 'e'] == l.language) = false := by
        rw [beq_eq_false_iff_ne]
        exact Ne.symm hl
      simp only [hother, true_iff]
      rintro _ _ rfl ⟨hde, -⟩
      exact absurd hde hl

/-! ### The gates -/

/-- **The gates**: what must hold for the typed word to be replaced by `first`. -/
structure Passes (c : CorrectionCase) (first : Candidate) : Prop where
  allowed : c.allows.1 = true
  enabled : c.enabled = true
  composing : c.composer.word ≠ []
  noDigits : c.composer.hasDigits = false
  notMostlyCaps : c.composer.isMostlyCaps = false
  notResumed : c.composer.resumed = false
  results : c.results.items ≠ []
  noAddress : c.purpose ≠ .url ∧ c.purpose ≠ .email
  hasMain : c.hasMain = true
  applied : c.applied? = some first
  strong : ∀ typed, Text.IsUnquoted typed c.typed →
    first.isKind Kind.whitelist = true ∨ Reaches c.settings first typed
  spaces : ∀ l limit, first.source.locale = some l → (l.language, limit) ∈ spaceLimits →
    first.word.length ≤ limit ∨ ' ' ∉ first.word

theorem isAddress_eq_false_iff {p : Purpose} : p.isAddress = false ↔ p ≠ .url ∧ p ≠ .email := by
  cases p <;> simp [Purpose.isAddress]

theorem passes_iff : c.Passes first ↔ c.isDisqualified = false ∧ c.applied? = some first ∧
    exceedsThreshold c.settings first c.considered = true ∧ allowsSpaces first = true := by
  have hstrong : (∀ typed, Text.IsUnquoted typed c.typed →
      first.isKind Kind.whitelist = true ∨ Reaches c.settings first typed) ↔
      exceedsThreshold c.settings first c.considered = true := by
    simp only [Text.isUnquoted_iff, forall_eq, exceedsThreshold_iff]
    rfl
  rw [← hstrong, allowsSpaces_iff]
  simp only [isDisqualified, Bool.or_eq_false_iff, Bool.not_eq_false', Composer.isComposing,
    List.isEmpty_eq_false_iff, isAddress_eq_false_iff]
  constructor
  · rintro ⟨h1, h2, h3, h4, h5, h6, h7, h8, h9, h10, h11, h12⟩
    exact ⟨⟨⟨⟨⟨⟨⟨⟨⟨h2, h1⟩, by simpa using h3⟩, h7⟩, h4⟩, h5⟩, h6⟩, h8⟩, h9⟩, h10, h11, h12⟩
  · rintro ⟨⟨⟨⟨⟨⟨⟨⟨⟨h2, h1⟩, h3⟩, h7⟩, h4⟩, h5⟩, h6⟩, h8⟩, h9⟩, h10, h11, h12⟩
    exact ⟨h1, h2, by simpa using h3, h4, h5, h6, h7, h8, h9, h10, h11, h12⟩

/-! ### The typed word -/

/-- A candidate beats a typed word that is strong itself: it is strong as well, and is preferred by
its locale or, against a word of the same locale, by the context. -/
structure Beats (c : CorrectionCase) (first typed : Candidate) : Prop where
  strong : c.settings.scoreLimit ≤ first.score
  preferred : if typed.source.locale = first.source.locale then c.winsInContext first typed = true
    else c.currentLocale ≠ none ∧ c.currentLocale = first.source.locale

/-- Against a weak typed word, or none, the spaces decide. -/
theorem corrects_compete_of_weak (h : allowsSpaces first = true →
    ∀ typed, c.typedInfo = some typed → typed.score ≤ c.settings.scoreLimit) :
    (c.compete first).corrects = allowsSpaces first := by
  have hnone : (c.typedInfo.filter fun t =>
      allowsSpaces first && Decidable.decide (c.settings.scoreLimit < t.score)) = none := by
    refine Option.filter_eq_none_iff.mpr fun typed htyped => ?_
    rw [Bool.and_eq_true, decide_eq_true_eq]
    rintro ⟨hspaces, hstrong⟩
    have hweak := h hspaces typed htyped
    omega
  simp only [compete, hnone]

/-- Against a strong typed word the candidate has to beat it. -/
theorem corrects_compete_of_strong {typed : Candidate} (htyped : c.typedInfo = some typed)
    (hstrong : c.settings.scoreLimit < typed.score) (hspaces : allowsSpaces first = true) :
    (c.compete first).corrects = true ↔ c.Beats first typed := by
  have hsome : (c.typedInfo.filter fun t =>
      allowsSpaces first && Decidable.decide (c.settings.scoreLimit < t.score)) = some typed := by
    refine Option.filter_eq_some_iff.mpr ⟨htyped, ?_⟩
    rw [hspaces, Bool.true_and, decide_eq_true hstrong]
  simp only [compete, hsome]
  by_cases hfirst : first.score < c.settings.scoreLimit
  · rw [if_pos hfirst]
    refine iff_of_false (by simp) fun h => ?_
    have hlimit := h.strong
    omega
  · rw [if_neg hfirst]
    have hlimit : c.settings.scoreLimit ≤ first.score := by omega
    by_cases hlocale : typed.source.locale = first.source.locale
    · rw [if_neg (by simpa using hlocale)]
      constructor
      · exact fun h => ⟨hlimit, by rwa [if_pos hlocale]⟩
      · intro h
        have hwins := h.preferred
        rwa [if_pos hlocale] at hwins
    · rw [if_pos hlocale]
      have hcurrent : (c.currentLocale.isSome && c.currentLocale == first.source.locale) = true ↔
          c.currentLocale ≠ none ∧ c.currentLocale = first.source.locale := by
        rw [Bool.and_eq_true, beq_iff_eq, Option.isSome_iff_ne_none]
      constructor
      · exact fun h => ⟨hlimit, by rw [if_neg hlocale]; exact hcurrent.mp h⟩
      · intro h
        have hpreferred := h.preferred
        rw [if_neg hlocale] at hpreferred
        exact hcurrent.mpr hpreferred

theorem corrects_compete_iff : (c.compete first).corrects = true ↔ allowsSpaces first = true ∧
    ∀ typed, c.typedInfo = some typed → c.settings.scoreLimit < typed.score →
      c.Beats first typed := by
  by_cases hspaces : allowsSpaces first = true
  · rw [and_iff_right hspaces]
    by_cases hweak : ∀ typed, c.typedInfo = some typed → typed.score ≤ c.settings.scoreLimit
    · rw [corrects_compete_of_weak fun _ => hweak]
      refine iff_of_true hspaces fun typed htyped hstrong => ?_
      have hlimit := hweak typed htyped
      omega
    · push Not at hweak
      obtain ⟨typed, htyped, hstrong⟩ := hweak
      have hlimit : c.settings.scoreLimit < typed.score := by omega
      rw [corrects_compete_of_strong htyped hlimit hspaces]
      constructor
      · rintro h _ htyped' -
        rw [htyped, Option.some.injEq] at htyped'
        exact htyped' ▸ h
      · exact fun h => h typed htyped hlimit
  · rw [corrects_compete_of_weak fun h => absurd h hspaces, and_iff_left_of_imp]
    exact fun h => absurd h hspaces

theorem allows_of_corrects (h : c.decide.corrects = true) : c.decide.allows = true := by
  obtain ⟨-, first, -, -, hcompete⟩ := exists_of_corrects h
  rw [hcompete]
  rcases hf : c.typedInfo.filter fun t =>
      allowsSpaces first && Decidable.decide (c.settings.scoreLimit < t.score) with _ | typed
  · simp only [compete, hf]
  · simp only [compete, hf]
    split_ifs <;> rfl

/-- **When the typed word is corrected**: a candidate passes all gates, and beats the typed word if
that is strong itself. -/
theorem corrects_iff : c.decide.corrects = true ↔ ∃ first, c.Passes first ∧
    ∀ typed, c.typedInfo = some typed → c.settings.scoreLimit < typed.score →
      c.Beats first typed := by
  constructor
  · intro h
    obtain ⟨hd, first, happlied, hthreshold, hcompete⟩ := exists_of_corrects h
    rw [hcompete, corrects_compete_iff] at h
    exact ⟨first, passes_iff.mpr ⟨hd, happlied, hthreshold, h.1⟩, h.2⟩
  · rintro ⟨first, hpasses, hbeats⟩
    obtain ⟨hd, happlied, hthreshold, hspaces⟩ := passes_iff.mp hpasses
    have hdecide : c.decide = c.compete first := by
      rw [applied?] at happlied
      simp only [decide, hd, Bool.false_eq_true, if_false, happlied, hthreshold, if_true]
    rw [hdecide, corrects_compete_iff]
    exact ⟨hspaces, hbeats⟩

/-- **Every gate guards every correction**, and nothing else does while the typed word is not strong
itself. For a composer that inputs have led to, the counts tell of the word. -/
theorem guarded_by_gates (c : CorrectionCase) :
    (c.decide.corrects = true → c.decide.allows = true ∧ ∃ first, c.Passes first) ∧
    (∀ first, c.Passes first →
      (∀ typed, c.typedInfo = some typed → ¬ c.settings.scoreLimit < typed.score) →
        c.decide.corrects = true) ∧
    ∀ is, c.composer = Composer.inputs {} is → c.decide.corrects = true →
      (∀ ch ∈ c.composer.word, Text.isNumeric ch = false) ∧
        c.composer.word.countP Text.isUpper ≤ 1 := by
  refine ⟨fun h => ?_, fun first hpasses hweak => ?_, fun is his h => ?_⟩
  · obtain ⟨first, hpasses, -⟩ := corrects_iff.mp h
    exact ⟨allows_of_corrects h, first, hpasses⟩
  · refine corrects_iff.mpr ⟨first, hpasses, fun typed htyped hstrong => ?_⟩
    exact absurd hstrong (hweak typed htyped)
  · obtain ⟨first, hpasses, -⟩ := corrects_iff.mp h
    have hcounted : c.composer.Counted := his ▸ Composer.counted_inputs is Composer.counted_new
    exact ⟨(Composer.hasDigits_eq_false_iff hcounted).mp hpasses.noDigits,
      (Composer.isMostlyCaps_eq_false_iff hcounted).mp hpasses.notMostlyCaps⟩

/-- A slip with a quote behind it, which the user has typed before. -/
theorem guarded_by_gates_slip :
    let candidate (word : Text) (score : Int) : Candidate :=
      ⟨word, [], score, Scoring.appropriate, ⟨.main, some ⟨['e', 'n']⟩⟩⟩
    let first := candidate ['t', 'h', 'e'] 1600000
    let keys : List Composer.Input := [.key 't' 0 0, .key 'e' 4 0, .key 'h' 5 1, .key '\'' 9 1]
    let c : CorrectionCase :=
      { settings := {}, enabled := true, currentLocale := none, hasMain := true,
        purpose := .freeForm, composer := Composer.inputs {} keys, typed := ['t', 'e', 'h', '\''],
        results := { capacity := 18, items := [first] },
        typedInfo := some (candidate ['t', 'e', 'h', '\''] 900000), first := some first,
        scores := {} }
    c.Passes first ∧ c.decide.corrects = true ∧
      (∀ ch ∈ c.composer.word, Text.isNumeric ch = false) := by
  intro candidate first keys c
  have hpasses : c.Passes first := passes_iff.mpr (by decide +kernel)
  have hweak : ∀ typed, c.typedInfo = some typed → ¬ c.settings.scoreLimit < typed.score := by
    rintro _ ⟨⟩
    decide +kernel
  have hcorrects : c.decide.corrects = true := (guarded_by_gates c).2.1 first hpasses hweak
  exact ⟨hpasses, hcorrects, ((guarded_by_gates c).2.2 keys rfl hcorrects).1⟩

end Typeahead.CorrectionCase
