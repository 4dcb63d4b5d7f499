import Typeahead.Correction

/-! # The suggestion strip

The strip is what the user sees: the words offered for what was typed, and whether committing
replaces the typed word. `TypingCase.strip` makes it from the ranked candidates for a word typed key
by key, `GestureCase.strip` from those for a gesture. -/

namespace Typeahead

/-- What is shown for a request. -/
structure Strip where
  words : List Candidate := []
  offered : Option (List Candidate) := none
  typedInfo : Option Candidate := none
  typedValid : Bool := false
  corrects : Bool := false
  obsolete : Bool := false
  style : InputStyle := .none
  sequence : Int := 0
  deriving DecidableEq, Repr, Inhabited

namespace Strip

/-- The words without the typed word that leads them. -/
def suggestions (s : Strip) : List Candidate :=
  match s.words with
  | first :: rest => if first.isKind Kind.typed && s.typedInfo.isSome then rest else s.words
  | [] => []

/-- The word that replaces the typed word on commit. -/
def correction (s : Strip) : Option Candidate := if s.corrects then s.suggestions.head? else none

/-- The typed word. -/
def typed (s : Strip) : Option Text := s.typedInfo.map (·.word)

end Strip

/-! ### Letter case of the typed word -/

/-- The case in which candidates are shown. -/
inductive ShownCase where
  | asIs
  | capitalized
  | allUpper
  deriving DecidableEq, Repr

namespace ShownCase

/-- All letters in upper case win over the first letter alone. -/
def of (allUpper first : Bool) : ShownCase :=
  if allUpper then .allUpper else if first then .capitalized else .asIs

/-- A word in the shown case. -/
def apply : ShownCase → Text → Text
  | asIs, w => w
  | capitalized, w => Text.capitalize w
  | allUpper, w => Text.upper w

/-- The case in which the typed word itself is shown. -/
def ofCaps (caps : CapsMode) : ShownCase := of (caps == .manualLocked) (caps == .manualShifted)

/-- A candidate in the shown case with the quotes that end the typed word, of which one fewer is
added to a word that has a quote already. -/
def transform (s : ShownCase) (quotes : Nat) (c : Candidate) : Candidate :=
  let added := quotes - (if c.word.contains '\'' then 1 else 0)
  { c with word := s.apply c.word ++ List.replicate added '\'' }

end ShownCase

/-- Puts `c` at place `i` of a list. -/
def insertAt (i : Nat) (c : Candidate) (cs : List Candidate) : List Candidate :=
  cs.take i ++ c :: cs.drop i

/-! ### Typing -/

/-- A request for a word typed key by key, with what the dictionaries say about it. -/
structure TypingCase where
  settings : Settings
  enabled : Bool
  composer : Composer
  caps : CapsMode
  purpose : Purpose
  style : InputStyle
  sequence : Int
  currentLocale : Option Locale
  hasMain : Bool
  results : Ranking
  nextWords : Ranking

namespace TypingCase

/-- The typed word as it is shown. -/
def typed (t : TypingCase) : Text := (ShownCase.ofCaps t.caps).apply t.composer.word

/-- The case in which the candidates are shown. -/
def shownCase (t : TypingCase) : ShownCase :=
  .of ((t.composer.isAllUpper && !t.composer.resumed) || t.caps == .manualLocked)
    (t.composer.isFirstCapital || t.caps == .manualShifted)

/-- The candidates as they are shown. -/
def transformed (t : TypingCase) : List Candidate :=
  t.results.items.map (t.shownCase.transform (Text.trailingQuotes t.composer.word))

/-- The candidate that shows the typed word. -/
def typedOccurrence (t : TypingCase) : Option Candidate :=
  t.transformed.find? (·.word == t.typed)

/-- The candidates that differ from the typed word, each word once. -/
def others (t : TypingCase) : List Candidate :=
  (removeTypedAndRepeated (some t.typed) t.transformed).2

/-- The typed word is among the candidates. -/
def typedIsOffered (t : TypingCase) : Bool :=
  (removeTypedAndRepeated (some t.typed) t.transformed).1.isSome

/-- The scores in the context of the word that may be applied and of the typed word. -/
def scores (t : TypingCase) : ContextScores :=
  match t.others.head? <|> t.results.items.head? with
  | none => {}
  | some first =>
    ⟨(t.nextWords.find? first.word).map (·.score), (t.nextWords.find? t.typed).map (·.score)⟩

/-- What the decision to correct depends on. -/
def correctionCase (t : TypingCase) : CorrectionCase where
  settings := t.settings
  enabled := t.enabled
  currentLocale := t.currentLocale
  hasMain := t.hasMain
  purpose := t.purpose
  composer := t.composer
  typed := t.typed
  results := t.results
  typedInfo := t.typedOccurrence
  first := t.others.head?
  scores := t.scores

/-- The decision to correct. -/
def decision (t : TypingCase) : Decision := t.correctionCase.decide

/-- The entry that stands for the typed word, if one was typed. -/
def typedInfo (t : TypingCase) : Option Candidate :=
  if t.typed.isEmpty then none
  else some (.ofTyped t.typed ((t.typedOccurrence.map (·.source)).getD .userTyped))

/-- The style of the strip: predictions where nothing was typed. -/
def shownStyle (t : TypingCase) : InputStyle :=
  if t.composer.isComposing then t.style
  else if t.results.atStart then .startPrediction else .prediction

/-- Where the typed word is shown once more: behind the correction, if there is one. -/
def typedPlace (t : TypingCase) : Nat := if t.decision.corrects then 2 else 1

/-- The typed word is shown once more. -/
def showsTyped (t : TypingCase) : Bool :=
  (t.decision.corrects || (t.settings.centersTyped && !t.composer.resumed)
    || t.typed != t.composer.word) && !t.typed.isEmpty

/-- The words of the strip. -/
def words (t : TypingCase) : List Candidate :=
  let led := t.typedInfo.toList ++ t.others
  if t.showsTyped && t.typedPlace ≤ led.length then
    insertAt t.typedPlace
      (t.typedOccurrence.getD ⟨t.typed, [], 0, ⟨Kind.typed⟩, .userTyped⟩) led
  else led

/-- The strip. -/
def strip (t : TypingCase) : Strip where
  words := t.words
  offered := t.results.offered
  typedInfo := t.typedInfo
  typedValid := t.typedIsOffered || (t.composer.isComposing && !t.decision.allows)
  corrects := t.decision.corrects
  style := t.shownStyle
  sequence := t.sequence

end TypingCase

/-! ### Gestures -/

/-- A request for a gesture, with what the dictionaries say about it. -/
structure GestureCase where
  settings : Settings
  composer : Composer
  caps : CapsMode
  style : InputStyle
  sequence : Int
  results : Ranking
  nextWords : Ranking

namespace GestureCase

/-- Candidates of a lower score are noise. -/
def noiseFloor : Int := -2000000000

/-- The part of the score of a single letter that a longer rival has to exceed. -/
def rivalRatio : Rat := toDouble (mkRat 94 100)

/-- The part of its score that a single letter keeps when it is demoted. -/
def demotion : Rat := toDouble (mkRat 93 100)

/-- The least score at which a predicted word is trusted. -/
def trustedScore : Int := 170

/-- The part of the best score that a predicted word needs to be preferred. -/
def preferenceRatio : Rat := toDouble (mkRat 93 100)

/-- A single letter that a longer word follows closely is put behind it. -/
def demoteSingleLetter (r : Ranking) : Ranking :=
  match r.items with
  | first :: second :: _ =>
    if first.word.length = 1 ∧ 1 < second.word.length
        ∧ toDouble (rivalRatio * first.score) < (second.score : Rat) then
      (r.remove first.word).add
        { first with score := truncate (toDouble (first.score * demotion)) }
    else r
  | _ => r

/-- The candidates as they are shown. -/
def transformed (g : GestureCase) : List Candidate :=
  let shown := ShownCase.of (g.composer.isAllUpper || g.caps == .manualLocked)
    (g.composer.wasShifted || g.caps == .manualShifted)
  (demoteSingleLetter g.results).items.map (shown.transform 0)

/-- The candidate at the front that was rejected before, if there is another one. -/
def rejected (g : GestureCase) : Option Candidate :=
  match g.composer.rejected, g.transformed with
  | some w, first :: _ :: _ => if first.word == w then some first else none
  | _, _ => none

/-- The candidates with a rejected one put behind the next, each word once, without noise. -/
def cleaned (g : GestureCase) : List Candidate :=
  let moved := match g.rejected, g.transformed with
    | some r, _ :: rest => insertAt 1 r rest
    | _, cs => cs
  (removeTypedAndRepeated none moved).2.filter (noiseFloor ≤ ·.score)

/-- The word of the composer as it is shown. -/
def typed (g : GestureCase) : Text := (ShownCase.ofCaps g.caps).apply g.composer.word

/-- The candidates with the word of the composer, where its shown form is another one. -/
def withTyped (g : GestureCase) : List Candidate :=
  let cs := g.cleaned
  if g.typed != g.composer.word && !(cs.drop 1).any (·.word == g.typed) then
    insertAt (min cs.length 1) ⟨g.typed, [], 0, ⟨Kind.typed⟩, .userTyped⟩ cs
  else cs

/-- Where the first candidate stands that the context predicts, among those that are nearly as good
as the best one. -/
def preferredPlace (g : GestureCase) (best : Candidate) : Option Nat :=
  let trusted := g.nextWords.retain (trustedScore ≤ ·.score)
  let floor := toDouble (best.score * preferenceRatio)
  let near := g.withTyped.takeWhile fun c => !((c.score : Rat) < floor)
  near.findIdx? fun c => !g.rejected.any (·.word == c.word) && trusted.contains c.word

/-- The words of the strip, and the one that stands for the typed word. -/
def preferred (g : GestureCase) : List Candidate × Option Candidate :=
  let cs := g.withTyped
  match cs with
  | best :: _ :: _ =>
    if g.settings.usesPersonalized && best.source.origin == .main then
      match (g.preferredPlace best).bind fun i => cs[i]?.map fun c => (i, c) with
      | some (i, c) => (c :: cs.eraseIdx i, some c)
      | none => (cs, some best)
    else (cs, some best)
  | _ => (cs, cs.head?)

/-- The strip: the best candidate stands for the typed word, and nothing is corrected. -/
def strip (g : GestureCase) : Strip where
  words := g.preferred.1
  offered := g.results.offered
  typedInfo := g.preferred.2
  typedValid := true
  style := g.style
  sequence := g.sequence

end GestureCase

end Typeahead
