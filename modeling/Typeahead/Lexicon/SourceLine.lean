import Typeahead.Lexicon.Draft

/-! # Lines of word lists

A word list is a text whose lines add to a draft: `w word frequency`, which may end in `offensive`,
`b word next frequency`, and `wl typed replacement`. Blank lines and lines that start with a number
sign add nothing. -/

namespace Typeahead

/-- What one line of a word list says. -/
inductive SourceLine where
  | blank
  | word (w : Text) (frequency : Nat)
  | offensive (w : Text) (frequency : Nat)
  | pair (before next : Text) (frequency : Nat)
  | replacement (typed replacement : Text)
  deriving DecidableEq, Repr

namespace SourceLine

/-- The value of decimal digits, as long as it is at most `limit`. -/
def digits? (limit : Nat) : Nat → Text → Option Nat
  | n, [] => some n
  | n, c :: rest =>
    if '0' ≤ c ∧ c ≤ '9' then
      let n := 10 * n + (c.toNat - 48)
      if n ≤ limit then digits? limit n rest else none
    else none

/-- A frequency: decimal digits, which a plus sign may precede, with a value up to 255. -/
def frequency? (s : Text) : Option Nat :=
  match s with
  | '+' :: rest => if rest.isEmpty then none else digits? 255 0 rest
  | [] => none
  | _ => digits? 255 0 s

/-- A blank between the fields of a line. -/
def isGap (c : Char) : Bool := c == '\t' || c == ' '

/-- What the fields of a line say. -/
def ofFields? : List Text → Option SourceLine
  | [['w'], w, f] => (frequency? f).map (.word w)
  | [['w'], w, f, last] =>
    if last = "offensive".toList then (frequency? f).map (.offensive w) else none
  | [['b'], before, next, f] => (frequency? f).map (.pair before next)
  | [['w', 'l'], typed, r] => some (.replacement typed r)
  | _ => none

/-- What a line without blanks at its ends says; `none` if it is malformed. -/
def ofTrimmed? (line : Text) : Option SourceLine :=
  match line with
  | [] => some .blank
  | '#' :: _ => some .blank
  | _ => ofFields? (Text.fields isGap line)

/-- The draft with what a line says. -/
def addTo (d : Draft) : SourceLine → Draft
  | blank => d
  | word w f => d.addWord w f
  | offensive w f => d.addOffensive w f
  | pair before next f => d.addPair before next f
  | replacement typed r => d.addReplacement typed r

end SourceLine

namespace Draft

/-- Adds what a line of a word list says. -/
def addLine (d : Draft) (line : Text) : Except Failure Draft :=
  let line := Text.trim line
  match SourceLine.ofTrimmed? line with
  | some s => .ok (s.addTo d)
  | none => .error (.invalidData ("malformed dictionary line: ".toList ++ Text.quoted line))

end Draft

end Typeahead
