import Typeahead.Composer
import Typeahead.Number.Wrapping
import Typeahead.Ranking
import Typeahead.Scoring
import Typeahead.Settings

/-! # The decision to correct

Given the candidates for a typed word, `CorrectionCase.decide` says whether the typed word may be
replaced at all and whether the best candidate does replace it. The scores that the words around
have in the context are looked at only where the candidates' own scores leave the question open;
`Decision.probed` records whether they were. -/

namespace Typeahead

/-- The scores of the best candidate and of the typed word among the words that the context
predicts. -/
structure ContextScores where
  first : Option Int := none
  typed : Option Int := none
  deriving DecidableEq, Repr, Inhabited

/-- What was decided. -/
structure Decision where
  allows : Bool
  corrects : Bool
  probed : Bool
  deriving DecidableEq, Repr

/-- All that the decision about a typed word depends on. -/
structure CorrectionCase where
  settings : Settings
  enabled : Bool
  currentLocale : Option Locale
  hasMain : Bool
  purpose : Purpose
  composer : Composer
  typed : Text
  results : Ranking
  typedInfo : Option Candidate
  first : Option Candidate
  scores : ContextScores

namespace CorrectionCase

/-- The typed word without the quotes that end it. -/
def considered (c : CorrectionCase) : Text := Text.dropTrailingQuotes c.typed

/-- Languages whose compounds make long candidates with a space suspicious, and the greatest length
that is not. -/
def spaceLimits : List (Text × Nat) := [(['d', 'e'], 12)]

/-- A candidate is not too long for the space in it, by the rules of its language. -/
def allowsSpaces (c : Candidate) : Bool :=
  match c.source.locale with
  | none => true
  | some l =>
    match spaceLimits.find? (·.1 == l.language) with
    | some (_, limit) => c.word.length ≤ limit || !c.word.contains ' '
    | none => true

/-- A candidate is strong enough to replace `typed`. -/
def exceedsThreshold (s : Settings) (c : Candidate) (typed : Text) : Bool :=
  if c.isKind Kind.whitelist then true
  else if c.isKind Kind.shortcut && !s.correctsToShortcuts then false
  else if !c.isKind Kind.shortcut && !c.isAppropriate then false
  else s.threshold.reachedBy (Scoring.normalizedScore typed c.word c.score)

/-- The context favours the first candidate so clearly that the typed word may be replaced. -/
def contextFavours (c : CorrectionCase) : Bool :=
  match c.scores with
  | ⟨none, _⟩ => false
  | ⟨some _, none⟩ => true
  | ⟨some first, some typed⟩ => c.settings.bonus.nextWordMargin < wrap32 (first - typed)

/-- The typed word may be replaced, and whether the context was asked. -/
def allows (c : CorrectionCase) : Bool × Bool :=
  if c.first.any (·.isKind Kind.whitelist) || (1 < c.considered.length && c.typedInfo.isNone) then
    (true, false)
  else if c.typed.isEmpty then (false, false)
  else match c.first with
    | none => (false, false)
    | some first =>
      if c.settings.scoreLimit < first.score then (true, false) else (c.contextFavours, true)

/-- Something other than the candidates forbids a correction. -/
def isDisqualified (c : CorrectionCase) : Bool :=
  !c.enabled || !c.allows.1 || !c.composer.isComposing || c.results.items.isEmpty
    || c.composer.hasDigits || c.composer.isMostlyCaps || c.composer.resumed
    || c.purpose.isAddress || !c.hasMain

/-- The bonuses that the first candidate is granted against a strong typed word, in order. -/
def bonuses (c : CorrectionCase) (first typed : Candidate) : List Int :=
  (if first.isKind Kind.whitelist then [c.settings.bonus.whitelist] else [])
    ++ (if Text.isLowerAscii c.typed then [c.settings.bonus.lowercaseAscii] else [])
    ++ (if typed.score < first.score then [c.settings.bonus.higherScore] else [])

/-- What the first candidate is granted against a strong typed word. -/
def firstBonus (c : CorrectionCase) (first typed : Candidate) : Int :=
  (c.bonuses first typed).foldl (fun sum b => wrap32 (sum + b)) 0

/-- The first candidate wins over the typed word in the context. -/
def winsInContext (c : CorrectionCase) (first typed : Candidate) : Bool :=
  wrap32 (c.scores.typed.getD 0 + c.settings.bonus.requiredMargin)
    ≤ wrap32 (c.scores.first.getD 0 + c.firstBonus first typed)

/-- The decision between a strong enough candidate `first` and the typed word. -/
def compete (c : CorrectionCase) (first : Candidate) : Decision :=
  let probed := c.allows.2
  let allowed := allowsSpaces first
  match c.typedInfo.filter fun t => allowed && c.settings.scoreLimit < t.score with
  | none => ⟨true, allowed, probed⟩
  | some typed =>
    if first.score < c.settings.scoreLimit then ⟨true, false, probed⟩
    else if typed.source.locale ≠ first.source.locale then
      ⟨true, c.currentLocale.isSome && c.currentLocale == first.source.locale, probed⟩
    else ⟨true, c.winsInContext first typed, true⟩

/-- The decision. -/
def decide (c : CorrectionCase) : Decision :=
  let (allows, probed) := c.allows
  if c.isDisqualified then ⟨allows, false, probed⟩
  else match c.first <|> c.results.items.head? with
    | none => ⟨allows, false, probed⟩
    | some first =>
      if exceedsThreshold c.settings first c.considered then c.compete first
      else ⟨true, false, probed⟩

end CorrectionCase

end Typeahead
