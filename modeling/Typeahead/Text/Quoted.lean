import Typeahead.Text.Basic
import Typeahead.Text.ClassTable

/-! # Character classes and quoted texts

A quoted text stands between double quotes. What cannot be seen when printed, or would attach itself
to the character before it, is written by its code. -/

namespace Typeahead.Text

/-- A digit or another character with a numeric value. -/
def isNumeric (c : Char) : Bool :=
  if c.toNat < 0x80 then '0' ≤ c && c ≤ '9' else numeric.contains c.toNat

/-- A combining mark. -/
def isMark (c : Char) : Bool := if c.toNat < 0x80 then false else mark.contains c.toNat

/-- The character may stand in a quoted text as it is. -/
def isPlain (c : Char) : Bool :=
  if c.toNat < 0x80 then 0x20 ≤ c.toNat && c.toNat < 0x7F
  else !attaching.contains c.toNat && !unprintable.contains c.toNat

/-- The form of one character within a quoted text. -/
def quotedChar (c : Char) : Text :=
  if c = '\t' then ['\\', 't']
  else if c = '\n' then ['\\', 'n']
  else if c = '\r' then ['\\', 'r']
  else if c = '\x00' then ['\\', '0']
  else if c = '"' ∨ c = '\\' then ['\\', c]
  else if isPlain c then [c]
  else ['\\', 'u', '\x7b'] ++ Nat.toDigits 16 c.toNat ++ ['\x7d']

/-- A text between double quotes. -/
def quoted (s : Text) : Text := '"' :: s.flatMap quotedChar ++ ['"']

end Typeahead.Text
