import Typeahead.Proofs.Correction.Gates

/-! # Tiers of correction

A more aggressive tier has a lower threshold for the candidate and a lower score limit. Lower
settings open every gate at least as far (`Passes.of_lower`), and a candidate that beats a typed word
goes on to beat it (`Beats.of_lower`). But the score limit also says which typed words are strong. A
typed word between the two limits competes only under the lower one, so that a correction may get
lost. That is the only way to lose one (`corrects_under_iff`). -/

namespace Typeahead

/-! ### Lower settings -/

namespace Single

theorem value_exact (x : Rat) : (exact x).value = x := by
  unfold exact value
  by_cases hx : x < 0
  · simp [hx]
  · simp [hx]

theorem reachedBy_exact {x y : Rat} : (exact x).reachedBy y = true ↔ x ≤ y := by
  show decide ((exact x).value ≤ y) = true ↔ x ≤ y
  rw [value_exact, decide_eq_true_iff]

theorem below_exact {x y : Rat} : (exact x).below y = true ↔ x < y := by
  show decide ((exact x).value < y) = true ↔ x < y
  rw [value_exact, decide_eq_true_iff]

end Single

namespace Tier

/-- How aggressive a tier is, counted from the modest one. -/
def level : Tier → Nat
  | modest => 0
  | aggressive => 1
  | veryAggressive => 2

/-- The score limit that goes with a tier. -/
def scoreLimit : Tier → Int
  | modest => 950000
  | aggressive => 800000
  | veryAggressive => 600000

theorem threshold_le {t t' : Tier} (h : t.level ≤ t'.level) : t'.threshold ≤ t.threshold := by
  cases t <;> cases t' <;> first | exact absurd h (by decide) | decide +kernel

theorem scoreLimit_le {t t' : Tier} (h : t.level ≤ t'.level) : t'.scoreLimit ≤ t.scoreLimit := by
  cases t <;> cases t' <;> first | exact absurd h (by decide) | decide

end Tier

namespace Settings

/-- The settings `s'` are `s` with a threshold and a score limit that are no higher. -/
structure Lower (s s' : Settings) : Prop where
  bonus : s'.bonus = s.bonus
  shortcuts : s'.correctsToShortcuts = s.correctsToShortcuts
  scoreLimit : s'.scoreLimit ≤ s.scoreLimit
  threshold : ∀ x, s.threshold.reachedBy x = true → s'.threshold.reachedBy x = true

theorem scoreLimit_atTier {s : Settings} (h : s.scoreLimitOverride = none) (t : Tier) :
    (s.atTier t).scoreLimit = t.scoreLimit := by
  simp only [scoreLimit, atTier, h, Single.below_exact]
  cases t <;> decide +kernel

theorem lower_atTier {s : Settings} (h : s.scoreLimitOverride = none) {t t' : Tier}
    (ht : t.level ≤ t'.level) : (s.atTier t).Lower (s.atTier t') := by
  refine ⟨rfl, rfl, ?_, fun x hx => ?_⟩
  · rw [scoreLimit_atTier h, scoreLimit_atTier h]
    exact Tier.scoreLimit_le ht
  · exact Single.reachedBy_exact.mpr
      (Rat.le_trans (Tier.threshold_le ht) (Single.reachedBy_exact.mp hx))

end Settings

namespace CorrectionCase

variable {c : CorrectionCase} {s s' : Settings} {first typed : Candidate}

/-- The case under other settings. -/
def under (c : CorrectionCase) (s : Settings) : CorrectionCase := { c with settings := s }

/-! ### Lower settings open every gate -/

/-- The typed word may be replaced: at once, or because of the score or of the context. -/
theorem allows_iff : c.allows.1 = true ↔
    (c.first.any (·.isKind Kind.whitelist) || (1 < c.considered.length && c.typedInfo.isNone)) ∨
      c.typed ≠ [] ∧ ∃ first, c.first = some first ∧
        (c.settings.scoreLimit < first.score ∨ c.contextFavours = true) := by
  unfold allows
  by_cases honce :
      c.first.any (·.isKind Kind.whitelist) || (1 < c.considered.length && c.typedInfo.isNone)
  · simp only [honce, if_true, true_or]
  · rw [if_neg honce, or_iff_right honce]
    rcases htyped : c.typed with _ | ⟨ch, rest⟩
    · simp
    · rcases c.first with _ | first
      · simp
      · by_cases hlimit : c.settings.scoreLimit < first.score
        · simp [hlimit]
        · simp [hlimit]

theorem contextFavours_of_lower (hs : s.Lower s') :
    (c.under s').contextFavours = (c.under s).contextFavours := by
  unfold contextFavours under
  rw [hs.bonus]

theorem allows_of_lower (hs : s.Lower s') (h : (c.under s).allows.1 = true) :
    (c.under s').allows.1 = true := by
  rw [allows_iff] at h ⊢
  refine h.imp_right fun ⟨htyped, first, hfirst, h⟩ => ⟨htyped, first, hfirst, ?_⟩
  rw [contextFavours_of_lower hs]
  exact h.imp_left (Int.lt_of_le_of_lt hs.scoreLimit)

theorem Reaches.of_lower {text : Text} (hs : s.Lower s') (h : Reaches s first text) :
    Reaches s' first text :=
  ⟨by rw [hs.shortcuts]; exact h.kind, hs.threshold _ h.score⟩

theorem Passes.of_lower (hs : s.Lower s') (h : (c.under s).Passes first) :
    (c.under s').Passes first :=
  { h with
    allowed := allows_of_lower hs h.allowed
    strong := fun text htext => (h.strong text htext).imp_right (Reaches.of_lower hs) }

/-! ### Competing with the typed word -/

theorem winsInContext_of_lower (hs : s.Lower s') :
    (c.under s').winsInContext first typed = (c.under s).winsInContext first typed := by
  unfold winsInContext firstBonus bonuses under
  rw [hs.bonus]

theorem Beats.of_lower (hs : s.Lower s') (h : (c.under s).Beats first typed) :
    (c.under s').Beats first typed := by
  refine ⟨Int.le_trans hs.scoreLimit h.strong, ?_⟩
  rw [winsInContext_of_lower hs]
  exact h.preferred

/-- **What lower settings lose**: a correction that is made under some settings is made under lower
ones unless the typed word is strong there and was not before, and wins. -/
theorem corrects_under_iff (hs : s.Lower s') (h : (c.under s).decide.corrects = true) :
    (c.under s').decide.corrects = true ↔ ∀ first typed, c.applied? = some first →
      c.typedInfo = some typed → s'.scoreLimit < typed.score → typed.score ≤ s.scoreLimit →
        (c.under s').Beats first typed := by
  obtain ⟨first, hpasses, hbeats⟩ := corrects_iff.mp h
  have happlied : c.applied? = some first := hpasses.applied
  rw [corrects_iff]
  constructor
  · rintro ⟨first', hpasses', hbeats'⟩ first'' typed happlied' htyped hstrong -
    obtain rfl : first' = first'' :=
      Option.some.inj ((show c.applied? = some first' from hpasses'.applied).symm.trans happlied')
    exact hbeats' typed htyped hstrong
  · intro hnew
    refine ⟨first, hpasses.of_lower hs, fun typed htyped hstrong => ?_⟩
    by_cases hweak : typed.score ≤ s.scoreLimit
    · exact hnew first typed happlied htyped hstrong hweak
    · -- a typed word that was strong before was beaten before
      exact (hbeats typed htyped (Int.lt_of_not_ge hweak)).of_lower hs

/-! ### Tiers -/

/-- The case at a tier. -/
def atTier (c : CorrectionCase) (t : Tier) : CorrectionCase := c.under (c.settings.atTier t)

theorem beats_atTier_iff (hlimit : c.settings.scoreLimitOverride = none) (t : Tier) :
    (c.atTier t).Beats first typed ↔ t.scoreLimit ≤ first.score ∧
      if typed.source.locale = first.source.locale then c.winsInContext first typed = true
      else c.currentLocale ≠ none ∧ c.currentLocale = first.source.locale := by
  rw [← Settings.scoreLimit_atTier hlimit t]
  exact ⟨fun h => ⟨h.strong, h.preferred⟩, fun h => ⟨h.1, h.2⟩⟩

/-- **More aggressive tiers**: without a score limit of its own, what is corrected at a tier is
corrected at a more aggressive one, unless there is an entry of the typed word that is strong by the
score limit of the latter only. In that case the candidate has to beat the typed word: it must reach
the score limit itself, and be preferred by its locale or, if both are of one locale, by the
context. -/
theorem corrects_at_more_aggressive_iff (c : CorrectionCase)
    (hlimit : c.settings.scoreLimitOverride = none) {t t' : Tier} (ht : t.level ≤ t'.level)
    (h : (c.atTier t).decide.corrects = true) :
    (c.atTier t').decide.corrects = true ↔ ∀ first typed, c.applied? = some first →
      c.typedInfo = some typed → t'.scoreLimit < typed.score → typed.score ≤ t.scoreLimit →
        t'.scoreLimit ≤ first.score ∧
          if typed.source.locale = first.source.locale then c.winsInContext first typed = true
          else c.currentLocale ≠ none ∧ c.currentLocale = first.source.locale := by
  have hlower : (c.settings.atTier t).Lower (c.settings.atTier t') :=
    Settings.lower_atTier hlimit ht
  simp only [← beats_atTier_iff hlimit]
  rw [atTier, corrects_under_iff hlower h, Settings.scoreLimit_atTier hlimit,
    Settings.scoreLimit_atTier hlimit]

/-- A slip that the user has typed before: the typed word is strong at the aggressive tier only, but
the context speaks for the candidate. -/
theorem corrects_at_more_aggressive_in_context :
    let candidate (word : String) (score : Int) : Candidate :=
      ⟨word.toList, [], score, Scoring.appropriate, ⟨.main, some ⟨['e', 'n']⟩⟩⟩
    let first := candidate "from" 1600000
    let c : CorrectionCase :=
      { settings := {}, enabled := true, currentLocale := none, hasMain := true,
        purpose := .freeForm, composer := .ofWord "form".toList, typed := "form".toList,
        results := { capacity := 18, items := [first] },
        typedInfo := some (candidate "form" 900000), first := some first,
        scores := ⟨some 100, some 50⟩ }
    c.settings.scoreLimitOverride = none ∧ Tier.modest.level ≤ Tier.aggressive.level ∧
      (c.atTier .modest).decide.corrects = true ∧
      Tier.aggressive.scoreLimit < 900000 ∧ 900000 ≤ Tier.modest.scoreLimit ∧
      (c.atTier .aggressive).decide.corrects = true := by
  intro candidate first c
  have hlevel : Tier.modest.level ≤ Tier.aggressive.level := by decide
  have h : (c.atTier .modest).decide.corrects = true := by decide +kernel
  refine ⟨rfl, hlevel, h, by decide, by decide, ?_⟩
  refine (corrects_at_more_aggressive_iff c rfl hlevel h).mpr ?_
  rintro _ _ ⟨⟩ ⟨⟩ - -
  exact ⟨by decide, by decide +kernel⟩

/-- **A correction that a more aggressive tier loses**: the context says nothing, so that the typed
word, which is strong at the aggressive tier only, stays there. -/
theorem aggressive_corrects_less :
    let candidate (word : String) (score : Int) : Candidate :=
      ⟨word.toList, [], score, Scoring.appropriate, ⟨.main, some ⟨['e', 'n']⟩⟩⟩
    let first := candidate "from" 1600000
    let c : CorrectionCase :=
      { settings := {}, enabled := true, currentLocale := some ⟨['e', 'n']⟩, hasMain := true,
        purpose := .freeForm, composer := .ofWord "form".toList, typed := "form".toList,
        results := { capacity := 18, items := [first, candidate "form" 900000] },
        typedInfo := some (candidate "form" 900000), first := some first, scores := {} }
    c.settings.scoreLimitOverride = none ∧ Tier.modest.level ≤ Tier.aggressive.level ∧
      (c.atTier .modest).decide.corrects = true ∧
      (c.atTier .aggressive).decide.corrects = false := by
  decide +kernel

end CorrectionCase

end Typeahead
