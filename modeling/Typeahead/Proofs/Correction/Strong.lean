import Mathlib.Algebra.Ring.Int.Defs
import Mathlib.Data.List.Induction
import Typeahead.Proofs.Correction.Gates

/-! # Strong typed words

A typed word with an entry above the score limit is not given up easily: a candidate of another
locale has to be of the current one, and a candidate of its own locale has to win in the context.
There the candidate is granted bonuses and the typed word a margin. The wraps on the way to a side
of the comparison do not matter, only that of the whole sum does (`foldl_wrap32`); so where the two
sides stay within 32 bits (`Exact`) they are compared as they are (`winsInContext_iff`). Under the
default bonuses a replacement may then fall ten behind the typed word, while any other candidate has
to lead by ten (`strong_typed_protected`). -/

namespace Typeahead.CorrectionCase

variable {c : CorrectionCase} {first typed : Candidate}

/-- The score of the best candidate in the context. -/
def firstContext (c : CorrectionCase) : Int := c.scores.first.getD 0

/-- The score of the typed word in the context. -/
def typedContext (c : CorrectionCase) : Int := c.scores.typed.getD 0

/-! ### Exact sums -/

/-- **The sides of the competition are exact**: they stay within 32 bits. -/
structure Exact (c : CorrectionCase) (first typed : Candidate) : Prop where
  first : Fits32 (c.firstContext + (c.bonuses first typed).sum)
  typed : Fits32 (c.typedContext + c.settings.bonus.requiredMargin)

/-- Numbers that are added with a wrap each are added with one wrap. -/
theorem foldl_wrap32 (bs : List Int) :
    bs.foldl (fun sum b => wrap32 (sum + b)) 0 = wrap32 bs.sum := by
  induction bs using List.reverseRecOn with
  | nil => rfl
  | append_singleton bs b ih =>
    have hsum : (bs ++ [b]).sum = bs.sum + b := by simp
    rw [List.foldl_concat, ih, hsum]
    exact Int.bmod_add_bmod

/-- **Exact sides** are compared as they are. -/
theorem winsInContext_iff (h : c.Exact first typed) : c.winsInContext first typed = true ↔
    c.typedContext + c.settings.bonus.requiredMargin ≤
      c.firstContext + (c.bonuses first typed).sum := by
  have hbonus : c.firstBonus first typed = wrap32 (c.bonuses first typed).sum := foldl_wrap32 _
  have hfirst : wrap32 (c.scores.first.getD 0 + c.firstBonus first typed) =
      c.firstContext + (c.bonuses first typed).sum := by
    rw [hbonus]
    exact Int.add_bmod_bmod.trans (wrap32_of_fits h.first)
  have htyped : wrap32 (c.scores.typed.getD 0 + c.settings.bonus.requiredMargin) =
      c.typedContext + c.settings.bonus.requiredMargin := wrap32_of_fits h.typed
  rw [winsInContext, hfirst, htyped, decide_eq_true_iff]

/-! ### The default bonuses -/

/-- What the default bonuses grant the candidate. -/
def defaultGrant (c : CorrectionCase) (first typed : Candidate) : Int :=
  (if first.isKind Kind.whitelist then 20 else 0) + (if Text.isLowerAscii c.typed then 5 else 0)
    + (if typed.score < first.score then 5 else 0)

theorem sum_bonuses_of_default (h : c.settings.bonus = {}) :
    (c.bonuses first typed).sum = c.defaultGrant first typed := by
  unfold bonuses defaultGrant
  rw [h]
  split_ifs <;> rfl

/-- A replacement is granted at most thirty, any other candidate at most ten. -/
theorem defaultGrant_le : c.defaultGrant first typed ≤
    if first.isKind Kind.whitelist then 30 else 10 := by
  unfold defaultGrant
  split_ifs <;> omega

theorem winsInContext_iff_of_default (hdefault : c.settings.bonus = {})
    (h : c.Exact first typed) : c.winsInContext first typed = true ↔
      c.typedContext + 20 ≤ c.firstContext + c.defaultGrant first typed := by
  rw [winsInContext_iff h, sum_bonuses_of_default hdefault, hdefault]

/-! ### Protection -/

/-- A strong typed word is corrected exactly when the candidate passes all gates and beats it. -/
theorem corrects_iff_of_strong (happlied : c.applied? = some first)
    (htyped : c.typedInfo = some typed) (hstrong : c.settings.scoreLimit < typed.score) :
    c.decide.corrects = true ↔ c.Passes first ∧ c.Beats first typed := by
  rw [corrects_iff]
  constructor
  · rintro ⟨first', hpasses, hbeats⟩
    obtain rfl : first' = first := Option.some.inj (hpasses.applied.symm.trans happlied)
    exact ⟨hpasses, hbeats typed htyped hstrong⟩
  · rintro ⟨hpasses, hbeats⟩
    refine ⟨first, hpasses, fun typed' htyped' _ => ?_⟩
    obtain rfl : typed = typed' := Option.some.inj (htyped.symm.trans htyped')
    exact hbeats

/-- **A strong typed word is protected** under the default bonuses, where the sides of the
competition are exact. It is given up for a candidate of its locale only if the context scores the
candidate at most ten lower, for a replacement, or at least ten higher, and for a candidate of
another locale only if that is the current one. More precisely, a candidate that passes all gates
wins exactly if it is strong and, within the locale, makes up for the margin with what it is
granted. -/
theorem strong_typed_protected (c : CorrectionCase) (hdefault : c.settings.bonus = {})
    {first typed : Candidate} (happlied : c.applied? = some first)
    (htyped : c.typedInfo = some typed) (hstrong : c.settings.scoreLimit < typed.score)
    (hexact : c.Exact first typed) :
    (c.decide.corrects = true →
      if typed.source.locale = first.source.locale then
        if first.isKind Kind.whitelist then c.typedContext - 10 ≤ c.firstContext
        else c.typedContext + 10 ≤ c.firstContext
      else c.currentLocale ≠ none ∧ c.currentLocale = first.source.locale) ∧
    (c.Passes first → (c.decide.corrects = true ↔ c.settings.scoreLimit ≤ first.score ∧
      if typed.source.locale = first.source.locale then
        c.typedContext + 20 ≤ c.firstContext + c.defaultGrant first typed
      else c.currentLocale ≠ none ∧ c.currentLocale = first.source.locale)) := by
  have hwins := winsInContext_iff_of_default hdefault hexact
  have hcorrects := corrects_iff_of_strong happlied htyped hstrong
  constructor
  · intro h
    have hpreferred := (hcorrects.mp h).2.preferred
    split_ifs at hpreferred with hlocale
    · rw [if_pos hlocale]
      have hlead := hwins.mp hpreferred
      have hgrant : c.defaultGrant first typed ≤
          if first.isKind Kind.whitelist then 30 else 10 := defaultGrant_le
      split_ifs at hgrant ⊢ <;> omega
    · rw [if_neg hlocale]
      exact hpreferred
  · intro hpasses
    rw [hcorrects, and_iff_right hpasses, ← hwins]
    constructor
    · intro hbeats
      exact ⟨hbeats.strong, hbeats.preferred⟩
    · rintro ⟨hlimit, hpreferred⟩
      exact ⟨hlimit, hpreferred⟩

/-- A replacement for a word that may be meant as it is, which the context likes a little better. -/
theorem strong_typed_protected_replacement :
    let candidate (word : String) (score : Int) (kind : UInt32) : Candidate :=
      ⟨word.toList, [], score, ⟨kind⟩, ⟨.main, some ⟨['e', 'n']⟩⟩⟩
    let first := candidate "I'll" Candidate.maxScore Kind.whitelist
    let typed := candidate "ill" 1500000 Kind.correction
    let c : CorrectionCase :=
      { settings := {}, enabled := true, currentLocale := some ⟨['e', 'n']⟩, hasMain := true,
        purpose := .freeForm, composer := .ofWord "ill".toList, typed := "ill".toList,
        results := { capacity := 18, items := [first, typed] }, typedInfo := some typed,
        first := some first, scores := ⟨some 200, some 210⟩ }
    c.settings.bonus = {} ∧ c.applied? = some first ∧ c.typedInfo = some typed ∧
      c.settings.scoreLimit < typed.score ∧ c.Exact first typed ∧ c.decide.corrects = true ∧
      c.typedContext - 10 ≤ c.firstContext := by
  intro candidate first typed c
  have happlied : c.applied? = some first := rfl
  have htyped : c.typedInfo = some typed := rfl
  have hstrong : c.settings.scoreLimit < typed.score := by decide +kernel
  have hexact : c.Exact first typed := ⟨by decide +kernel, by decide +kernel⟩
  have hcorrects : c.decide.corrects = true := by decide +kernel
  have hlead := (strong_typed_protected c rfl happlied htyped hstrong hexact).1 hcorrects
  rw [if_pos rfl, if_pos (by decide)] at hlead
  exact ⟨rfl, happlied, htyped, hstrong, hexact, hcorrects, hlead⟩

end Typeahead.CorrectionCase
