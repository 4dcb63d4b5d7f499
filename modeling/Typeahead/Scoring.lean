import Typeahead.Candidate
import Typeahead.Distance
import Typeahead.Number.Rounding
import Typeahead.Text.NormalForm

/-! # Scoring

`score?` says how well a word of a dictionary answers what was typed: the word itself, the word in
another case, with other accents, a longer word that begins with it, or a word that a slip or two
away. `weighted` scales a score by the weight of a locale; `normalizedScore` relates a score to how
much of the typed word it replaces. -/

namespace Typeahead

/-- How a word answers what was typed. -/
structure Match where
  score : Int
  kind : Kind
  deriving DecidableEq, Repr

namespace Scoring

/-- The score of an exact match of a word never seen. -/
def exactBase : Nat := 1000000

/-- The score of a correction by a word never seen. -/
def correctionBase : Nat := 600000

/-- What one step of frequency adds. -/
def frequencyUnit : Nat := 4000

/-- What other accents take off. -/
def accentPenalty : Nat := 10000

/-- What another case takes off. -/
def casePenalty : Nat := 5000

/-- The greatest distance at which a word is offered for `n` typed characters. -/
def reach (n : Nat) : Nat := if n ≤ 1 then 0 else if n = 2 then 1 else 2

/-- The kind of a candidate that may replace what was typed. -/
def appropriate : Kind := ⟨Kind.correction ||| Kind.appropriateFlag⟩

/-- How `word`, of the given frequency, answers `typed`; `none` if it is too far from it. -/
def score? (typed word : Text) (frequency : Nat) : Option Match :=
  if typed.isEmpty || word.isEmpty then none
  else
    let weight := frequency * frequencyUnit
    if word = typed then some ⟨exactBase + weight, appropriate.set Kind.exactFlag⟩
    else
      let t := Text.lower typed
      let w := Text.lower word
      if w = t then some ⟨exactBase + weight - casePenalty, appropriate⟩
      else if Text.stripAccents w = Text.stripAccents t then
        some ⟨exactBase + weight - accentPenalty, appropriate.set Kind.accentsFlag⟩
      else if t.isPrefixOf w then
        some ⟨((weight * t.length / max w.length 1 : Nat) : Int), ⟨Kind.completion⟩⟩
      else
        let d := typingDistance t w
        if d = 0 || reach t.length < d then none
        else some ⟨(((correctionBase + weight) / Nat.pow 2 (d - 1) : Nat) : Int), appropriate⟩

/-- A score scaled by the weight of its locale. The highest score is never scaled. -/
def weighted (score : Int) (weight : Rat) : Int :=
  if score = Candidate.maxScore || 1 ≤ weight then score
  else truncate (toDouble (score * if 0 ≤ weight then weight else 0))

/-- The score of `after` as a replacement of `before`, in millions, scaled by the part of it that
was typed already; zero where there is nothing to say. -/
def normalizedScore (before after : Text) (score : Int) : Rat :=
  if before.isEmpty || after.isEmpty || after.all (· == ' ') || score ≤ 0 then 0
  else
    let d := editCount before after
    if after.length ≤ d then 0
    else
      let part := toSingle (1 - toSingle ((d : Rat) / (after.length : Rat)))
      toSingle (toSingle (toSingle score / 1000000) * part)

end Scoring

end Typeahead
