import Typeahead.Toml.Basic
import Typeahead.Number.Decimal

/-! # Writing settings files

How single values are written. A string stands between double quotes if that needs no escapes, else
in the first form that needs none: between single quotes, between three double quotes, or between
three single quotes. Where every form needs escapes, it stands between double quotes, three of them
if it has line breaks. An array of more than one item has a line for each. -/

namespace Typeahead

namespace Toml

/-- How a string is written. -/
inductive StringForm where
  | basic
  | basicLines
  | literal
  | literalLines
  deriving DecidableEq, Repr

/-- The length of the longest run of `q` in a text, `n` of them standing right before it. -/
def longestRun (q : Char) : Nat → Text → Nat
  | n, [] => n
  | n, c :: rest => if c = q then longestRun q (n + 1) rest else max n (longestRun q 0 rest)

/-- A control character that has to be escaped wherever it stands. -/
def isControl (c : Char) : Bool :=
  (c.toNat < 0x20 && c != '\t' && c != '\n') || c.toNat == 0x7F

/-- How many quotes may follow one another between three of their kind. -/
def quoteLimit : Nat := 2

/-- The form in which a string is written. -/
def StringForm.of (t : Text) : StringForm :=
  let hasLines := t.contains '\n'
  let escapes := t.any isControl
  let basicEscapes := escapes || t.contains '\\'
  if !basicEscapes && !t.contains '"' && !hasLines then .basic
  else if !escapes && !t.contains '\'' && !hasLines then .literal
  else if !basicEscapes && longestRun '"' 0 t ≤ quoteLimit then .basicLines
  else if !escapes && longestRun '\'' 0 t ≤ quoteLimit then .literalLines
  else if hasLines then .basicLines else .basic

/-- The four hexadecimal digits of a character code. -/
def fourDigits (n : Nat) : Text :=
  let ds := (Nat.toDigits 16 n).map Char.toUpper
  List.replicate (4 - ds.length) '0' ++ ds

/-- The form of one character other than a quote between double quotes. -/
def basicChar (inLines : Bool) (c : Char) : Text :=
  if c = '\x08' then ['\\', 'b']
  else if c = '\t' then ['\\', 't']
  else if c = '\n' then if inLines then ['\n'] else ['\\', 'n']
  else if c = '\x0c' then ['\\', 'f']
  else if c = '\r' then ['\\', 'r']
  else if c = '\\' then ['\\', '\\']
  else if isControl c then '\\' :: 'u' :: fourDigits c.toNat
  else [c]

/-- A text between double quotes, of which at most `limit` may follow one another unescaped; `n` of
them stand right before it. -/
def basicBody (inLines : Bool) (limit : Nat) : Nat → Text → Text
  | _, [] => []
  | n, c :: rest =>
    if c ≠ '"' then basicChar inLines c ++ basicBody inLines limit 0 rest
    else if n < limit then '"' :: basicBody inLines limit (n + 1) rest
    else '\\' :: '"' :: basicBody inLines limit 0 rest

/-- Three double quotes. -/
def threeQuotes : Text := ['"', '"', '"']

/-- Three single quotes. -/
def threeSingleQuotes : Text := ['\'', '\'', '\'']

/-- The line break behind three opening quotes, which stands before a text with lines of its own. -/
def openingBreak (t : Text) : Text := if t.contains '\n' then ['\n'] else []

/-- A string as it is written. -/
def showString (t : Text) : Text :=
  match StringForm.of t with
  | .basic => '"' :: basicBody false 0 0 t ++ ['"']
  | .basicLines => threeQuotes ++ openingBreak t ++ basicBody true quoteLimit 0 t ++ threeQuotes
  | .literal => '\'' :: t ++ ['\'']
  | .literalLines => threeSingleQuotes ++ openingBreak t ++ t ++ threeSingleQuotes

/-- A truth value as it is written. -/
def showBool (b : Bool) : Text := if b then ['t', 'r', 'u', 'e'] else ['f', 'a', 'l', 's', 'e']

/-- An array of strings as it is written. -/
def showStrings : List Text → Text
  | [] => ['[', ']']
  | [t] => '[' :: showString t ++ [']']
  | ts => '[' :: (ts.flatMap fun t => '\n' :: List.replicate 4 ' ' ++ showString t ++ [','])
    ++ ['\n', ']']

/-- A line that assigns a written value. -/
def assignmentLine (key value : Text) : Text := key ++ [' ', '=', ' '] ++ value ++ ['\n']

end Toml

end Typeahead
