import Mathlib
import Typeahead.Proofs.Correction.Arithmetic
import Typeahead.Proofs.Number.Monotone
import Typeahead.Proofs.Settings

/-! # Overflow in a decision

A bonus may be any number of 32 bits, so the sums of a competition may have more. Whether they can
is told by the settings alone (`decides_in_range_iff`): which bonuses a candidate may be granted
together depends on the score limit and the threshold (`Settings.Grants`), and their sum has to
leave room for a score in the context, as has the margin (`Settings.Tame`). A sum that is out of
range wraps around, and may turn the decision over (`greatest_margin_met`). -/

namespace Typeahead

/-! ### The greatest normalized score -/

namespace Scoring

/-- The normalized score of a word with the highest score as a replacement of itself. -/
def greatest : Rat := toSingle (toSingle Candidate.maxScore / 1000000)

theorem toSingle_nonneg {x : Rat} (hx : 0 ≤ x) : 0 ≤ toSingle x :=
  BinaryFormat.round_nonneg _ hx

theorem toSingle_greatest : toSingle greatest = greatest := by decide +kernel

theorem greatest_nonneg : 0 ≤ greatest := by decide +kernel

theorem toSingle_le_one {x : Rat} (hx : 0 ≤ x) (h : x ≤ 1) : toSingle x ≤ 1 :=
  (toSingle_mono hx h).trans_eq (by decide +kernel)

/-- **No normalized score is greater**: an edit only lowers it. -/
theorem normalizedScore_le {before after : Text} {score : Int} (h : score ≤ Candidate.maxScore) :
    normalizedScore before after score ≤ greatest := by
  unfold normalizedScore
  split_ifs with hnone
  · exact greatest_nonneg
  · have hpos : (0 : Rat) ≤ score := by
      simp only [Bool.or_eq_true, decide_eq_true_eq, not_or, not_le] at hnone
      exact_mod_cast hnone.2.le
    dsimp only
    split_ifs with hedits
    · exact greatest_nonneg
    · have hshare : (editCount before after : Rat) / after.length ≤ 1 :=
        div_le_one_of_le₀ (by exact_mod_cast (not_le.mp hedits).le) (Nat.cast_nonneg _)
      have hshare0 : 0 ≤ toSingle ((editCount before after : Rat) / after.length) :=
        toSingle_nonneg (by positivity)
      have hrest : 0 ≤ 1 - toSingle ((editCount before after : Rat) / after.length) :=
        sub_nonneg.mpr (toSingle_le_one (by positivity) hshare)
      have hpart : toSingle (1 - toSingle ((editCount before after : Rat) / after.length)) ≤ 1 :=
        toSingle_le_one hrest (sub_le_self 1 hshare0)
      have hmillions : (toSingle score / 1000000 : Rat) ≤ toSingle Candidate.maxScore / 1000000 :=
        div_le_div_of_nonneg_right (toSingle_mono hpos (by exact_mod_cast h)) (by decide)
      have hmillions0 : (0 : Rat) ≤ toSingle score / 1000000 :=
        div_nonneg (toSingle_nonneg hpos) (by decide)
      calc toSingle (toSingle (toSingle score / 1000000) *
              toSingle (1 - toSingle ((editCount before after : Rat) / after.length)))
          ≤ toSingle greatest :=
            toSingle_mono (mul_nonneg (toSingle_nonneg hmillions0) (toSingle_nonneg hrest))
              ((mul_le_of_le_one_right (toSingle_nonneg hmillions0) hpart).trans
                (toSingle_mono hmillions0 hmillions))
        _ = greatest := toSingle_greatest

end Scoring

theorem Single.reachedBy_mono {t : Single} {x y : Rat} (h : x ≤ y) (hx : t.reachedBy x = true) :
    t.reachedBy y = true := by
  cases t with
  | nan => exact hx
  | infinite negative => exact hx
  | finite negative magnitude =>
    rw [Single.reachedBy, decide_eq_true_iff] at hx ⊢
    exact hx.trans h

/-! ### Tame settings -/

/-- The bonuses granted together to a candidate: as a forced replacement, for a typed word in small
letters of ASCII, and for a higher score. -/
def Bonus.total (b : Bonus) (forced lower higher : Bool) : Int :=
  (if forced then b.whitelist else 0) + (if lower then b.lowercaseAscii else 0)
    + (if higher then b.higherScore else 0)

namespace Settings

/-- Some candidate is granted these bonuses: a typed word can be strong, a candidate that is not
forced can reach the threshold, and a score can be higher than that of a strong word. -/
structure Grants (s : Settings) (forced lower higher : Bool) : Prop where
  strong : s.scoreLimit < Candidate.maxScore
  plain : forced = false → s.threshold.reachedBy Scoring.greatest = true
  higher : higher = true → s.scoreLimit + 1 < Candidate.maxScore

instance (s : Settings) (forced lower higher : Bool) : Decidable (s.Grants forced lower higher) :=
  decidable_of_iff (s.scoreLimit < Candidate.maxScore ∧
    (forced = false → s.threshold.reachedBy Scoring.greatest = true) ∧
    (higher = true → s.scoreLimit + 1 < Candidate.maxScore))
    ⟨fun h => ⟨h.1, h.2.1, h.2.2⟩, fun h => ⟨h.1, h.2, h.3⟩⟩

/-- **Tame settings**: what is granted, and the margin, leave room for every score in the
context. -/
structure Tame (s : Settings) : Prop where
  granted : ∀ forced lower higher, s.Grants forced lower higher →
    -2147483648 ≤ s.bonus.total forced lower higher ∧
      s.bonus.total forced lower higher + 255 ≤ 2147483647
  margin : s.scoreLimit < Candidate.maxScore → s.bonus.requiredMargin + 255 ≤ 2147483647

instance (s : Settings) : Decidable s.Tame :=
  decidable_of_iff ((∀ forced lower higher, s.Grants forced lower higher →
    -2147483648 ≤ s.bonus.total forced lower higher ∧
      s.bonus.total forced lower higher + 255 ≤ 2147483647) ∧
    (s.scoreLimit < Candidate.maxScore → s.bonus.requiredMargin + 255 ≤ 2147483647))
    ⟨fun h => ⟨h.1, h.2⟩, fun h => ⟨h.1, h.2⟩⟩

end Settings

namespace CorrectionCase

variable {c : CorrectionCase} {s : Settings} {first typed : Candidate}

/-! ### What is granted -/

/-- **The numbers of a case are in range**: scores in the context are frequencies, and candidates
have scores of 32 bits. -/
structure InRange (c : CorrectionCase) : Prop where
  context : ∀ x, c.scores.first = some x ∨ c.scores.typed = some x → 0 ≤ x ∧ x ≤ 255
  candidates : ∀ d, c.first = some d ∨ c.typedInfo = some d ∨ d ∈ c.results.items → Fits32 d.score

/-- The bonuses granted in a competition, added up. -/
theorem sum_bonuses : (c.bonuses first typed).sum = c.settings.bonus.total
    (first.isKind Kind.whitelist) (Text.isLowerAscii c.typed)
    (Decidable.decide (typed.score < first.score)) := by
  unfold bonuses Bonus.total
  simp only [decide_eq_true_eq]
  split_ifs <;> simp [add_assoc]

theorem prefix_append_ite {p : Prop} [Decidable p] {bs l : List Int} {b : Int}
    (h : bs <+: l ++ if p then [b] else []) : bs <+: l ∨ p ∧ bs = l ++ [b] := by
  split_ifs at h with hp
  · rw [List.prefix_concat_iff] at h
    exact h.symm.imp_right fun hbs => ⟨hp, hbs⟩
  · rw [List.append_nil] at h
    exact .inl h

/-- The first few bonuses are none, or the whole of what another candidate of the kind is
granted. -/
theorem sum_of_prefix_bonuses {bs : List Int} (h : bs <+: c.bonuses first typed) :
    bs.sum = 0 ∨ ∃ lower higher, (higher = true → typed.score < first.score) ∧
      bs.sum = c.settings.bonus.total (first.isKind Kind.whitelist) lower higher := by
  rcases prefix_append_ite h with h | ⟨hhigher, rfl⟩
  · rcases prefix_append_ite h with h | ⟨-, rfl⟩
    · rcases prefix_append_ite (l := []) h with h | ⟨hforced, rfl⟩
      · exact .inl (by rw [List.prefix_nil.mp h, List.sum_nil])
      · exact .inr ⟨false, false, by simp, by simp [Bonus.total, hforced]⟩
    · refine .inr ⟨true, false, by simp, ?_⟩
      by_cases hforced : first.isKind Kind.whitelist <;> simp [Bonus.total, hforced]
  · refine .inr ⟨Text.isLowerAscii c.typed, true, fun _ => hhigher, ?_⟩
    by_cases hforced : first.isKind Kind.whitelist <;> by_cases hlower : Text.isLowerAscii c.typed
      <;> simp [Bonus.total, hforced, hlower, add_assoc]

/-- A competition is one of those that the settings allow. -/
theorem Competes.grants (h : c.Competes first typed) (hc : c.InRange) {lower higher : Bool}
    (hhigher : higher = true → typed.score < first.score) :
    c.settings.Grants (first.isKind Kind.whitelist) lower higher := by
  have hmax : Candidate.maxScore = 2147483647 := rfl
  have hstrong := h.strong
  have htyped : Fits32 typed.score := hc.candidates typed (.inr (.inl h.known))
  have hfirst : Fits32 first.score := by
    refine hc.candidates first ?_
    have happlied := h.passes.applied
    unfold applied? at happlied
    rcases hf : c.first with _ | f
    · rw [hf] at happlied
      exact .inr (.inr (List.mem_of_head? happlied))
    · rw [hf] at happlied
      exact .inl happlied
  unfold Fits32 at htyped hfirst
  refine ⟨by omega, fun hplain => ?_, fun hh => ?_⟩
  · rcases h.passes.strong _ (Text.isUnquoted_dropTrailingQuotes c.typed) with hforced | hreaches
    · exact absurd hforced (by rw [hplain]; decide)
    · exact Single.reachedBy_mono (Scoring.normalizedScore_le (by omega)) hreaches.score
  · have hmore := hhigher hh
    omega

theorem InRange.firstContext (hc : c.InRange) : 0 ≤ c.firstContext ∧ c.firstContext ≤ 255 := by
  unfold CorrectionCase.firstContext
  rcases hx : c.scores.first with _ | x
  · decide
  · exact hc.context x (.inl hx)

theorem InRange.typedContext (hc : c.InRange) : 0 ≤ c.typedContext ∧ c.typedContext ≤ 255 := by
  unfold CorrectionCase.typedContext
  rcases hx : c.scores.typed with _ | x
  · decide
  · exact hc.context x (.inr hx)

/-- Scores in the context differ by less than a number of 32 bits. -/
theorem InRange.lead (hc : c.InRange) :
    ∀ f t, c.scores = ⟨some f, some t⟩ → Fits32 (f - t) := by
  intro f t hscores
  have hf := hc.context f (.inl (by rw [hscores]))
  have ht := hc.context t (.inr (by rw [hscores]))
  unfold Fits32
  omega

/-- **Under tame settings** the sums of every competition are in range. -/
theorem sumsFit_of_tame (hs : c.settings.Fits) (htame : c.settings.Tame) (hc : c.InRange)
    (h : c.Competes first typed) : c.SumsFit first typed := by
  have hgrant (lower higher : Bool) (hhigher : higher = true → typed.score < first.score) :=
    htame.granted _ lower higher (h.grants hc hhigher)
  refine ⟨fun bs hbs => ?_, ?_, ?_⟩
  · rcases sum_of_prefix_bonuses hbs with hzero | ⟨lower, higher, hhigher, hsum⟩
    · rw [hzero]
      decide
    · have hroom := hgrant lower higher hhigher
      rw [hsum]
      exact ⟨hroom.1, by omega⟩
  · have hroom := hgrant (Text.isLowerAscii c.typed)
      (Decidable.decide (typed.score < first.score)) of_decide_eq_true
    have hcontext := hc.firstContext
    rw [sum_bonuses]
    unfold Fits32
    omega
  · have hnone : c.settings.Grants (first.isKind Kind.whitelist) false false :=
      h.grants hc (by simp)
    have hroom := htame.margin hnone.strong
    have hmargin := hs.bonus.requiredMargin
    have hcontext := hc.typedContext
    unfold Fits32 at hmargin ⊢
    omega

/-! ### A competition for every grant -/

/-- A word of one letter, which is small or not. -/
def letter (lower : Bool) : Text := if lower then ['a'] else ['A']

/-- A candidate with the highest score, which is forced or not. -/
def rival (forced lower : Bool) : Candidate :=
  ⟨letter lower, [], Candidate.maxScore, if forced then ⟨Kind.whitelist⟩ else Scoring.appropriate,
    ⟨.main, none⟩⟩

/-- A typed word with the highest score, or with the one below. -/
def holder (lower higher : Bool) : Candidate :=
  ⟨letter lower, [], if higher then Candidate.maxScore - 1 else Candidate.maxScore,
    Scoring.appropriate, ⟨.main, none⟩⟩

/-- The case in which they compete, with the scores that the context gives them. -/
def rivalry (s : Settings) (forced lower higher : Bool) (firstContext typedContext : Int) :
    CorrectionCase :=
  { settings := s, enabled := true, currentLocale := none, hasMain := true, purpose := .freeForm
    composer := .ofWord (letter lower), typed := letter lower
    results := { capacity := 18, items := [rival forced lower] }
    typedInfo := some (holder lower higher), first := some (rival forced lower)
    scores := ⟨some firstContext, some typedContext⟩ }

section
variable {forced lower higher : Bool} {x y : Int}

theorem fits_score_rival : Fits32 (rival forced lower).score :=
  show Fits32 Candidate.maxScore by decide

theorem fits_score_holder : Fits32 (holder lower higher).score := by
  cases higher
  · exact show Fits32 Candidate.maxScore by decide
  · exact show Fits32 (Candidate.maxScore - 1) by decide

theorem inRange_rivalry (hx : 0 ≤ x ∧ x ≤ 255) (hy : 0 ≤ y ∧ y ≤ 255) :
    (rivalry s forced lower higher x y).InRange := by
  refine ⟨?_, ?_⟩
  · rintro z (⟨⟨⟩⟩ | ⟨⟨⟩⟩)
    · exact hx
    · exact hy
  · rintro d (⟨⟨⟩⟩ | ⟨⟨⟩⟩ | hd)
    · exact fits_score_rival
    · exact fits_score_holder
    · rw [List.mem_singleton.mp hd]
      exact fits_score_rival

theorem isBarred_rivalry : (rivalry s forced lower higher x y).isBarred = false := by
  have hdigits : (Composer.ofWord (letter lower)).hasDigits = false := by
    cases lower <;> decide +kernel
  have hcaps : (Composer.ofWord (letter lower)).isMostlyCaps = false := by
    cases lower <;> decide +kernel
  have hcomposing : (Composer.ofWord (letter lower)).isComposing = true := by
    cases lower <;> rfl
  simp only [isBarred, rivalry, hdigits, hcaps, hcomposing]
  rfl

/-- The rival replaces the letter if it is forced, or if the threshold lets it. -/
theorem exceedsThreshold_rival (h : s.Grants forced lower higher) :
    exceedsThreshold s (rival forced lower) (Text.dropTrailingQuotes (letter lower)) = true := by
  have hwhitelist : (rival forced lower).isKind Kind.whitelist = forced := by
    cases forced <;> cases lower <;> decide
  refine exceedsThreshold_iff.mpr ?_
  cases forced
  · have hkind : (rival false lower).isKind Kind.shortcut = false := by cases lower <;> decide
    have hscore : Scoring.normalizedScore (Text.dropTrailingQuotes (letter lower)) (letter lower)
        Candidate.maxScore = Scoring.greatest := by cases lower <;> decide +kernel
    refine .inr ⟨?_, (congrArg _ hscore).trans (h.plain rfl)⟩
    rw [hkind, if_neg Bool.false_ne_true]
    cases lower <;> decide
  · exact .inl hwhitelist

theorem competes_rivalry (h : s.Grants forced lower higher) :
    (rivalry s forced lower higher x y).Competes (rival forced lower) (holder lower higher) := by
  have hstrong := h.strong
  have hallows : (rivalry s forced lower higher x y).allows.1 = true := by
    unfold allows
    split_ifs with hforced hempty
    · rfl
    · cases lower <;> cases hempty
    · show (if s.scoreLimit < Candidate.maxScore then _ else _ : Bool × Bool).1 = true
      rw [if_pos h.strong]
  refine ⟨passes_iff.mpr ⟨?_, rfl, exceedsThreshold_rival h, rfl⟩, rfl, ?_, h.strong.le, rfl⟩
  · rw [isDisqualified_eq, hallows, isBarred_rivalry]
    rfl
  · cases higher
    · exact h.strong
    · have hhigher := h.higher rfl
      show s.scoreLimit < Candidate.maxScore - 1
      omega

/-- What a candidate may be granted, it is granted in some competition. -/
theorem sum_bonuses_rivalry : ((rivalry s forced lower higher x y).bonuses (rival forced lower)
    (holder lower higher)).sum = s.bonus.total forced lower higher := by
  rw [sum_bonuses]
  cases forced <;> cases lower <;> cases higher <;> rfl

/-- **Settings under which nothing overflows** are tame. -/
theorem tame_of_checked
    (h : ∀ c : CorrectionCase, c.settings = s → c.InRange → c.checked = .ok c.decide) :
    s.Tame := by
  have hfits {forced lower higher : Bool} (hgrants : s.Grants forced lower higher) {x y : Int}
      (hx : 0 ≤ x ∧ x ≤ 255) (hy : 0 ≤ y ∧ y ≤ 255) :
      (rivalry s forced lower higher x y).Exact (rival forced lower) (holder lower higher) := by
    have hrange : (rivalry s forced lower higher x y).InRange := inRange_rivalry hx hy
    by_contra hexact
    have hstops := checked_of_not_sumsFit hrange.lead (competes_rivalry hgrants)
      fun hsums => hexact hsums.exact
    rw [h _ rfl hrange] at hstops
    exact absurd hstops (by simp)
  refine ⟨fun forced lower higher hgrants => ?_, fun hstrong => ?_⟩
  · have hlow := (hfits hgrants (x := 0) (y := 0) (by decide) (by decide)).first
    have hhigh := (hfits hgrants (x := 255) (y := 0) (by decide) (by decide)).first
    rw [sum_bonuses_rivalry] at hlow hhigh
    change Fits32 (0 + s.bonus.total forced lower higher) at hlow
    change Fits32 (255 + s.bonus.total forced lower higher) at hhigh
    unfold Fits32 at hlow hhigh
    omega
  · have hgrants : s.Grants true false false := ⟨hstrong, by simp, by simp⟩
    have hmargin := (hfits hgrants (x := 0) (y := 255) (by decide) (by decide)).typed
    change Fits32 (255 + s.bonus.requiredMargin) at hmargin
    unfold Fits32 at hmargin
    omega

end

/-- **When a decision overflows.** The decision is made of sums that wrap around. If they have to be
in range instead, it is the same unless a competition has a sum that is not, and then it fails.
Under given settings, read from a file or not, no decision fails exactly if the settings are
tame. -/
theorem decides_in_range_iff (s : Settings) (hs : s.Fits) :
    (∀ c : CorrectionCase, c.settings = s → c.InRange →
      c.decideWith (m := Id) wrap32 = c.decide ∧
      ((∀ first typed, c.Competes first typed → c.SumsFit first typed) →
        c.checked = .ok c.decide) ∧
      ∀ first typed, c.Competes first typed → ¬ c.SumsFit first typed →
        c.checked = .error .outOfRange) ∧
    ((∀ c : CorrectionCase, c.settings = s → c.InRange → c.checked = .ok c.decide) ↔ s.Tame) := by
  refine ⟨fun c _ hc => ⟨decideWith_wrap32, checked_of_sumsFit hc.lead,
    fun first typed => checked_of_not_sumsFit hc.lead⟩, tame_of_checked, ?_⟩
  rintro htame c rfl hc
  exact checked_of_sumsFit hc.lead fun first typed => sumsFit_of_tame hs htame hc

/-- Two files, with the greatest bonus for a replacement beside which the other defaults are tame,
and with the next. -/
theorem decides_in_range_iff_greatest_bonus :
    let settings (bonus : Int) : Settings := { bonus := { whitelist := bonus } }
    (Settings.read? "[typed_word_bonus]\nwhitelist = 2147483382".toList =
        some (settings 2147483382) ∧ (settings 2147483382).Fits ∧
      ∀ c : CorrectionCase, c.settings = settings 2147483382 → c.InRange →
        c.checked = .ok c.decide) ∧
    (Settings.read? "[typed_word_bonus]\nwhitelist = 2147483383".toList =
        some (settings 2147483383) ∧ (settings 2147483383).Fits ∧
      ∃ c : CorrectionCase, c.settings = settings 2147483383 ∧ c.InRange ∧
        c.checked ≠ .ok c.decide) := by
  intro settings
  have hfields : Toml.read? "[typed_word_bonus]\nwhitelist = 2147483382".toList = some
      [(Settings.bonusKey, .table .header [("whitelist".toList, .integer 2147483382)])] := by cbv
  have hfields' : Toml.read? "[typed_word_bonus]\nwhitelist = 2147483383".toList = some
      [(Settings.bonusKey, .table .header [("whitelist".toList, .integer 2147483383)])] := by cbv
  have hread := Settings.read?_eq_of_bonus hfields
  have hread' := Settings.read?_eq_of_bonus hfields'
  have hs : (settings 2147483382).Fits := Settings.fits_of_read? hread
  have hs' : (settings 2147483383).Fits := Settings.fits_of_read? hread'
  refine ⟨⟨hread, hs, (decides_in_range_iff _ hs).2.mpr (by decide +kernel)⟩, hread', hs', ?_⟩
  have hnot := mt (decides_in_range_iff _ hs').2.mp (by decide +kernel)
  push Not at hnot
  exact hnot

/-- **A margin that cannot be reached is met**: the file asks for the greatest one, and the sum with
the score of the typed word wraps around to a negative number. -/
theorem greatest_margin_met :
    let candidate (word : String) (score : Int) (kind : UInt32) : Candidate :=
      ⟨word.toList, [], score, ⟨kind⟩, ⟨.main, some ⟨['e', 'n']⟩⟩⟩
    let first := candidate "I'll" Candidate.maxScore Kind.whitelist
    let typed := candidate "ill" 1500000 Kind.correction
    let c : CorrectionCase :=
      { settings := { bonus := { requiredMargin := 2147483647 } }, enabled := true
        currentLocale := some ⟨['e', 'n']⟩, hasMain := true, purpose := .freeForm
        composer := .ofWord "ill".toList, typed := "ill".toList
        results := { capacity := 18, items := [first, typed] }, typedInfo := some typed
        first := some first, scores := ⟨some 200, some 100⟩ }
    Settings.read? "[typed_word_bonus]\nrequired_margin = 2147483647".toList = some c.settings ∧
      c.InRange ∧ c.checked = .error .outOfRange ∧
      c.firstContext + (c.bonuses first typed).sum <
        c.typedContext + c.settings.bonus.requiredMargin ∧
      c.decide.corrects = true := by
  intro candidate first typed c
  have hfields : Toml.read? "[typed_word_bonus]\nrequired_margin = 2147483647".toList = some
      [(Settings.bonusKey, .table .header [("required_margin".toList, .integer 2147483647)])] := by
    cbv
  have hread := Settings.read?_eq_of_bonus hfields
  have hrange : c.InRange := by
    refine ⟨?_, ?_⟩
    · rintro x (⟨⟨⟩⟩ | ⟨⟨⟩⟩) <;> decide
    · rintro d (⟨⟨⟩⟩ | ⟨⟨⟩⟩ | hd)
      · decide
      · decide
      · rcases List.mem_pair.mp hd with rfl | rfl <;> decide
  exact ⟨hread, hrange, by decide +kernel, by decide, by decide +kernel⟩

end CorrectionCase

end Typeahead
