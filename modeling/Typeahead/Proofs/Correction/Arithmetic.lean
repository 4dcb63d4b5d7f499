import Typeahead.Proofs.Correction.Strong
import Typeahead.Proofs.Scoring.Widths

/-! # The arithmetic of a decision

The decision computes with scores in two places: where the context is asked whether the typed word
may be replaced at all, and where a candidate competes with a strong typed word. `decideWith` is the
decision with every sum and difference handed to a function `keep`. With sums that wrap around it is
the decision itself (`decideWith_wrap32`). With sums that have to be in range, `checked`, it stops
exactly where some sum of a competition is out of range (`checked_of_sumsFit`,
`checked_of_not_sumsFit`); nothing else in it can stop. -/

namespace Typeahead

namespace Scoring

theorem signed_of_fits {n : Int} (h : Fits32 n) : signed 32 n = .ok n := if_pos h

theorem signed_of_not_fits {n : Int} (h : ¬ Fits32 n) : signed 32 n = .error .outOfRange :=
  if_neg h

end Scoring

namespace CorrectionCase

open Scoring (Fault signed signed_of_fits signed_of_not_fits)

variable {c : CorrectionCase} {first typed : Candidate}

/-- Something other than the candidates and their scores forbids a correction. -/
def isBarred (c : CorrectionCase) : Bool :=
  !c.enabled || !c.composer.isComposing || c.results.items.isEmpty || c.composer.hasDigits
    || c.composer.isMostlyCaps || c.composer.resumed || c.purpose.isAddress || !c.hasMain

theorem isDisqualified_eq : c.isDisqualified = (!c.allows.1 || c.isBarred) := by
  unfold isDisqualified isBarred
  ac_rfl

/-! ### The decision, sum by sum -/

section
variable {m : Type → Type} [Monad m] (keep : Int → m Int)

/-- `contextFavours`, where `keep` says what becomes of the difference. -/
def contextFavoursWith (c : CorrectionCase) : m Bool :=
  match c.scores with
  | ⟨none, _⟩ => return false
  | ⟨some _, none⟩ => return true
  | ⟨some first, some typed⟩ => do
    let lead ← keep (first - typed)
    return c.settings.bonus.nextWordMargin < lead

/-- `allows`, where `keep` says what becomes of the difference. -/
def allowsWith (c : CorrectionCase) : m (Bool × Bool) :=
  if c.first.any (·.isKind Kind.whitelist) || (1 < c.considered.length && c.typedInfo.isNone) then
    return (true, false)
  else if c.typed.isEmpty then return (false, false)
  else match c.first with
    | none => return (false, false)
    | some first =>
      if c.settings.scoreLimit < first.score then return (true, false)
      else do
        let favours ← c.contextFavoursWith keep
        return (favours, true)

/-- `winsInContext`, where `keep` says what becomes of each sum. -/
def winsInContextWith (c : CorrectionCase) (first typed : Candidate) : m Bool := do
  let bonus ← (c.bonuses first typed).foldlM (fun sum b => keep (sum + b)) 0
  let firstSum ← keep (c.firstContext + bonus)
  let typedSum ← keep (c.typedContext + c.settings.bonus.requiredMargin)
  return typedSum ≤ firstSum

/-- `compete`, where `keep` says what becomes of each sum. -/
def competeWith (c : CorrectionCase) (probed : Bool) (first : Candidate) : m Decision :=
  let allowed := allowsSpaces first
  match c.typedInfo.filter fun t => allowed && c.settings.scoreLimit < t.score with
  | none => return ⟨true, allowed, probed⟩
  | some typed =>
    if first.score < c.settings.scoreLimit then return ⟨true, false, probed⟩
    else if typed.source.locale ≠ first.source.locale then
      return ⟨true, c.currentLocale.isSome && c.currentLocale == first.source.locale, probed⟩
    else do
      let wins ← c.winsInContextWith keep first typed
      return ⟨true, wins, true⟩

/-- `decide`, where `keep` says what becomes of each sum and difference of scores. -/
def decideWith (c : CorrectionCase) : m Decision := do
  let (allows, probed) ← c.allowsWith keep
  if !allows || c.isBarred then return ⟨allows, false, probed⟩
  else match c.first <|> c.results.items.head? with
    | none => return ⟨allows, false, probed⟩
    | some first =>
      if exceedsThreshold c.settings first c.considered then c.competeWith keep probed first
      else return ⟨true, false, probed⟩

/-! ### Where a competition is decided -/

/-- A candidate that passes all gates competes in the context with a strong typed word of its
locale. -/
structure Competes (c : CorrectionCase) (first typed : Candidate) : Prop where
  passes : c.Passes first
  known : c.typedInfo = some typed
  strong : c.settings.scoreLimit < typed.score
  level : c.settings.scoreLimit ≤ first.score
  locale : typed.source.locale = first.source.locale

theorem filter_eq_some_iff : (c.typedInfo.filter fun t =>
    allowsSpaces first && Decidable.decide (c.settings.scoreLimit < t.score)) = some typed ↔
      c.typedInfo = some typed ∧ allowsSpaces first = true ∧
        c.settings.scoreLimit < typed.score := by
  rw [Option.filter_eq_some_iff, Bool.and_eq_true, decide_eq_true_eq]

variable {keep}

theorem competeWith_of_competes (h : c.Competes first typed) (probed : Bool) :
    c.competeWith keep probed first = do
      let wins ← c.winsInContextWith keep first typed
      return ⟨true, wins, true⟩ := by
  obtain ⟨-, -, -, hspaces⟩ := passes_iff.mp h.passes
  have hsome := filter_eq_some_iff.mpr ⟨h.known, hspaces, h.strong⟩
  simp only [competeWith, hsome, if_neg (Int.not_lt.mpr h.level),
    if_neg (not_not_intro h.locale)]

variable [LawfulMonad m]

theorem allowsWith_eq (h : c.contextFavoursWith keep = pure c.contextFavours) :
    c.allowsWith keep = pure c.allows := by
  unfold allowsWith allows
  rw [h]
  simp only [pure_bind]
  split_ifs
  · rfl
  · rfl
  · rcases c.first with _ | first
    · rfl
    · dsimp only
      split_ifs <;> rfl

/-- Where a candidate competes, the competition is the decision. -/
theorem decideWith_of_competes (hallows : c.allowsWith keep = pure c.allows)
    (h : c.Competes first typed) : c.decideWith keep = do
      let wins ← c.winsInContextWith keep first typed
      return ⟨true, wins, true⟩ := by
  obtain ⟨hd, happlied, hthreshold, -⟩ := passes_iff.mp h.passes
  rw [isDisqualified_eq] at hd
  rw [applied?] at happlied
  simp only [decideWith, hallows, pure_bind, hd, happlied, hthreshold, if_true, Bool.false_eq_true,
    if_false]
  exact competeWith_of_competes h _

theorem competeWith_eq (hd : c.isDisqualified = false) (happlied : c.applied? = some first)
    (hthreshold : exceedsThreshold c.settings first c.considered = true)
    (hwins : ∀ typed, c.Competes first typed →
      c.winsInContextWith keep first typed = pure (c.winsInContext first typed)) :
    c.competeWith keep c.allows.2 first = pure (c.compete first) := by
  rcases htyped : c.typedInfo.filter fun t =>
      allowsSpaces first && Decidable.decide (c.settings.scoreLimit < t.score) with _ | typed
  · simp only [competeWith, compete, htyped]
  · obtain ⟨hknown, hspaces, hstrong⟩ := filter_eq_some_iff.mp htyped
    simp only [competeWith, compete, htyped]
    split_ifs with hlevel hlocale
    · rfl
    · rfl
    · have hpasses : c.Passes first := passes_iff.mpr ⟨hd, happlied, hthreshold, hspaces⟩
      have hcompetes : c.Competes first typed :=
        ⟨hpasses, hknown, hstrong, Int.not_lt.mp hlevel, not_not.mp hlocale⟩
      rw [hwins typed hcompetes, pure_bind]

/-- **The same decision** is made where the context gives the same answers. -/
theorem decideWith_eq (hallows : c.allowsWith keep = pure c.allows)
    (hwins : ∀ first typed, c.Competes first typed →
      c.winsInContextWith keep first typed = pure (c.winsInContext first typed)) :
    c.decideWith keep = pure c.decide := by
  unfold decideWith decide
  simp only [hallows, pure_bind, ← isDisqualified_eq]
  split_ifs with hd
  · rfl
  · rcases happlied : c.first <|> c.results.items.head? with _ | first
    · rfl
    · dsimp only
      split_ifs with hthreshold
      · rw [Bool.not_eq_true] at hd
        exact competeWith_eq hd happlied hthreshold (hwins first)
      · rfl

end

/-- **Sums that wrap around** make the decision as it is. -/
theorem decideWith_wrap32 : c.decideWith (m := Id) wrap32 = c.decide := by
  have hfavours : c.contextFavoursWith (m := Id) wrap32 = pure c.contextFavours := by
    unfold contextFavoursWith contextFavours
    rcases c.scores with ⟨_ | first, _ | typed⟩ <;> rfl
  refine decideWith_eq (allowsWith_eq hfavours) fun first typed _ => ?_
  have hbonus : (c.bonuses first typed).foldlM (m := Id) (fun sum b => wrap32 (sum + b)) 0 =
      pure (c.firstBonus first typed) := List.foldlM_pure
  rw [winsInContextWith, hbonus]
  rfl

/-! ### Sums in range -/

/-- The decision, in which every sum has to be in range. -/
def checked (c : CorrectionCase) : Except Fault Decision := c.decideWith (signed 32)

/-- **The sums of a competition are in range**: what is granted, bonus by bonus, and what is
compared. -/
structure SumsFit (c : CorrectionCase) (first typed : Candidate) : Prop where
  granted : ∀ bs, bs <+: c.bonuses first typed → Fits32 bs.sum
  exact : c.Exact first typed

/-- Numbers whose sums are in range are added exactly. -/
theorem foldlM_signed_of_fits {bs : List Int} {start : Int}
    (h : ∀ ps, ps <+: bs → Fits32 (start + ps.sum)) :
    bs.foldlM (fun sum b => signed 32 (sum + b)) start = .ok (start + bs.sum) := by
  induction bs generalizing start with
  | nil =>
    rw [List.foldlM_nil, List.sum_nil, add_zero]
    rfl
  | cons b bs ih =>
    have hfirst : Fits32 (start + b) := by simpa using h [b] (by simp)
    rw [List.foldlM_cons, signed_of_fits hfirst, List.sum_cons, ← add_assoc]
    refine ih fun ps hps => ?_
    simpa [add_assoc] using h (b :: ps) (by simpa using hps)

/-- The first sum out of range stops an addition. -/
theorem foldlM_signed_of_not_fits {bs : List Int} {start : Int} (hstart : Fits32 start)
    (h : ¬ ∀ ps, ps <+: bs → Fits32 (start + ps.sum)) :
    bs.foldlM (fun sum b => signed 32 (sum + b)) start = .error .outOfRange := by
  induction bs generalizing start with
  | nil =>
    refine absurd (fun ps hps => ?_) h
    rw [List.prefix_nil.mp hps, List.sum_nil, add_zero]
    exact hstart
  | cons b bs ih =>
    rw [List.foldlM_cons]
    by_cases hfirst : Fits32 (start + b)
    · rw [signed_of_fits hfirst]
      refine ih hfirst fun hrest => h fun ps hps => ?_
      rcases List.prefix_cons_iff.mp hps with rfl | ⟨qs, rfl, hqs⟩
      · rwa [List.sum_nil, add_zero]
      · rw [List.sum_cons, ← add_assoc]
        exact hrest qs hqs
    · rw [signed_of_not_fits hfirst]
      rfl

theorem winsInContextWith_of_sumsFit (h : c.SumsFit first typed) :
    c.winsInContextWith (signed 32) first typed = pure (c.winsInContext first typed) := by
  have hwins : c.winsInContext first typed = Decidable.decide
      (c.typedContext + c.settings.bonus.requiredMargin ≤
        c.firstContext + (c.bonuses first typed).sum) := by
    rw [Bool.eq_iff_iff, winsInContext_iff h.exact, decide_eq_true_iff]
  rw [winsInContextWith, foldlM_signed_of_fits (by simpa using h.granted), zero_add, hwins]
  show (do
    let firstSum ← signed 32 (c.firstContext + (c.bonuses first typed).sum)
    let typedSum ← signed 32 (c.typedContext + c.settings.bonus.requiredMargin)
    return Decidable.decide (typedSum ≤ firstSum)) = _
  rw [signed_of_fits h.exact.first, signed_of_fits h.exact.typed]
  rfl

theorem winsInContextWith_of_not_sumsFit (h : ¬ c.SumsFit first typed) :
    c.winsInContextWith (signed 32) first typed = .error .outOfRange := by
  rw [winsInContextWith]
  by_cases hgranted : ∀ bs, bs <+: c.bonuses first typed → Fits32 bs.sum
  · rw [foldlM_signed_of_fits (by simpa using hgranted), zero_add, Scoring.ok_bind]
    by_cases hfirst : Fits32 (c.firstContext + (c.bonuses first typed).sum)
    · have htyped : ¬ Fits32 (c.typedContext + c.settings.bonus.requiredMargin) :=
        fun htyped => h ⟨hgranted, hfirst, htyped⟩
      rw [signed_of_fits hfirst, signed_of_not_fits htyped]
      rfl
    · rw [signed_of_not_fits hfirst]
      rfl
  · rw [foldlM_signed_of_not_fits (by decide) (by simpa using hgranted)]
    rfl

section
variable (hlead : ∀ f t, c.scores = ⟨some f, some t⟩ → Fits32 (f - t))
include hlead

theorem allowsWith_signed : c.allowsWith (signed 32) = .ok c.allows := by
  refine allowsWith_eq ?_
  unfold contextFavoursWith contextFavours
  rcases hscores : c.scores with ⟨_ | first, _ | typed⟩
  · rfl
  · rfl
  · rfl
  · have hfits := hlead first typed hscores
    simp only [signed_of_fits hfits, wrap32_of_fits hfits]
    rfl

/-- **Nothing stops the decision** where the sums of every competition are in range. -/
theorem checked_of_sumsFit (h : ∀ first typed, c.Competes first typed → c.SumsFit first typed) :
    c.checked = .ok c.decide :=
  decideWith_eq (allowsWith_signed hlead) fun first typed hcompetes =>
    winsInContextWith_of_sumsFit (h first typed hcompetes)

/-- **A competition stops the decision** where one of its sums is out of range. -/
theorem checked_of_not_sumsFit (hcompetes : c.Competes first typed)
    (h : ¬ c.SumsFit first typed) : c.checked = .error .outOfRange := by
  rw [checked, decideWith_of_competes (allowsWith_signed hlead) hcompetes,
    winsInContextWith_of_not_sumsFit h]
  rfl

end

end CorrectionCase

end Typeahead
