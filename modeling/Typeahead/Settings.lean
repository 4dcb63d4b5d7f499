import Typeahead.Number.Single

/-! # Settings

The switches and numbers that a user or an application may set, with their defaults. -/

namespace Typeahead

/-- What is added to the context score of the best candidate when it competes with a typed word that
is strong itself, and the margins by which it has to win. -/
structure Bonus where
  whitelist : Int := 20
  lowercaseAscii : Int := 5
  higherScore : Int := 5
  requiredMargin : Int := 20
  nextWordMargin : Int := 20
  deriving DecidableEq, Repr, Inhabited

/-- How readily words are corrected. -/
inductive Tier where
  | modest
  | aggressive
  | veryAggressive
  deriving DecidableEq, Repr

namespace Tier

/-- The least normalized score of a correction. -/
def threshold : Tier → Rat
  | modest => toSingle (mkRat 185 1000)
  | aggressive => toSingle (mkRat 67 1000)
  | veryAggressive => -1

end Tier

/-- The settings. -/
structure Settings where
  autoCorrection : Bool := true
  threshold : Single := .exact Tier.modest.threshold
  scoreLimitOverride : Option Int := none
  correctsToShortcuts : Bool := true
  usesPersonalized : Bool := true
  usesContacts : Bool := false
  blocksOffensive : Bool := true
  secondaryLocales : List Text := []
  promotesWords : Bool := false
  centersTyped : Bool := false
  bonus : Bonus := {}
  threads : Nat := 2
  spellingCacheSize : Nat := 200
  dataDir : Option Text := none
  deriving DecidableEq, Repr

namespace Settings

/-- The settings at another tier of correction. -/
def atTier (s : Settings) (t : Tier) : Settings := { s with threshold := .exact t.threshold }

/-- The threshold below which the middle score limit holds. -/
def middleThreshold : Rat := toSingle (mkRat 7 100)

/-- The score above which a candidate is trusted without a look at the context. -/
def scoreLimit (s : Settings) : Int :=
  match s.scoreLimitOverride with
  | some limit => limit
  | none =>
    if s.threshold.below 0 then 600000
    else if s.threshold.below middleThreshold then 800000
    else 950000

/-- Numerically equal settings. -/
def same (s t : Settings) : Bool :=
  s.threshold.same t.threshold && { s with threshold := .nan } == { t with threshold := .nan }

end Settings

end Typeahead
