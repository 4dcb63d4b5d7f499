import Typeahead.Text.Basic
import Typeahead.Text.CaseTable

/-! # Letter case

The full case mappings: a character may become several. Within a text a capital sigma becomes a
final sigma where it ends a word. ASCII is decided by arithmetic, without the tables. -/

namespace Typeahead.Text

/-- The image of `n` under a list of runs. -/
def imageOf (runs : List Run) (n : Nat) : Option Nat := runs.findSome? (·.get? n)

/-- The lower-case form of one character, without regard to its neighbours. -/
def lowerChar (c : Char) : Text :=
  if c.toNat < 0x80 then [if 'A' ≤ c ∧ c ≤ 'Z' then Char.ofNat (c.toNat + 32) else c]
  else match lowerLong.get? c.toNat with
    | some image => image.map Char.ofNat
    | none => [((imageOf lowerRuns c.toNat).map Char.ofNat).getD c]

/-- The upper-case form of one character. -/
def upperChar (c : Char) : Text :=
  if c.toNat < 0x80 then [if 'a' ≤ c ∧ c ≤ 'z' then Char.ofNat (c.toNat - 32) else c]
  else match upperLong.get? c.toNat with
    | some image => image.map Char.ofNat
    | none => [((imageOf upperRuns c.toNat).map Char.ofNat).getD c]

/-- The character is an upper-case one. -/
def isUpper (c : Char) : Bool :=
  if c.toNat < 0x80 then 'A' ≤ c && c ≤ 'Z' else uppercase.contains c.toNat

/-- The character has a case. -/
def isCased (c : Char) : Bool :=
  if c.toNat < 0x80 then ('A' ≤ c && c ≤ 'Z') || ('a' ≤ c && c ≤ 'z') else cased.contains c.toNat

/-- The character is passed over when the neighbour of a sigma is looked for. -/
def isCaseIgnorable (c : Char) : Bool := caseIgnorable.contains c.toNat

/-- The first character that is not passed over has a case. -/
def nextIsCased (s : Text) : Bool := (s.dropWhile isCaseIgnorable).head?.any isCased

/-- The small form of a capital sigma between the texts `before` (read backwards) and `after`. -/
def smallSigma (before after : Text) : Char :=
  if nextIsCased before && !nextIsCased after then '\u03C2' else '\u03C3'

/-- The lower-case form of a text that follows `before`, which is read backwards. -/
def lowerFrom (before : Text) : Text → Text
  | [] => []
  | c :: rest =>
    (if c = '\u03A3' then [smallSigma before rest] else lowerChar c) ++ lowerFrom (c :: before) rest

/-- The lower-case form of a text. -/
def lower (s : Text) : Text := lowerFrom [] s

/-- The upper-case form of a text. -/
def upper (s : Text) : Text := s.flatMap upperChar

/-- A text whose first character is made upper case. -/
def capitalize : Text → Text
  | [] => []
  | c :: rest => upperChar c ++ rest

/-- A text whose first character is made lower case. -/
def decapitalize : Text → Text
  | [] => []
  | c :: rest => lowerChar c ++ rest

/-- A text whose first character is made upper case and all others lower case. -/
def capitalizeOnly : Text → Text
  | [] => []
  | c :: rest => upperChar c ++ lower rest

end Typeahead.Text
