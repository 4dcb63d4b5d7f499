import Typeahead.Toml.Scalar

/-! # Strings of settings files

A basic string stands between double quotes and may hold escapes; a literal string stands between
single quotes and holds what it shows. Either may be put between three quotes, and then goes over
several lines. `Toml.basic?` and `Toml.literal?` read what follows the opening quotes. -/

namespace Typeahead

namespace Toml

/-- The character may stand in a string, or in a comment. -/
def isShown (c : Char) : Bool := c == '\t' || (0x20 ≤ c.toNat && c.toNat != 0x7F)

/-- What an escape is still waiting for. -/
inductive Pending where
  | nothing
  /-- The character behind the backslash. -/
  | mark
  /-- More digits of a code. -/
  | code (left : Nat) (value : Nat)
  /-- The end of a line that ends in a backslash. -/
  | lineEnd
  /-- The first visible character behind such a line. -/
  | visible
  deriving DecidableEq, Repr

namespace Pending

/-- The string may end here. -/
def isDone : Pending → Bool
  | nothing | visible => true
  | _ => false

end Pending

/-- The character of an escape without digits. -/
def escaped? : Char → Option Char
  | 'b' => some '\x08'
  | 't' => some '\t'
  | 'n' => some '\n'
  | 'f' => some '\x0c'
  | 'r' => some '\r'
  | '"' => some '"'
  | '\\' => some '\\'
  | _ => none

/-- The character of a code, if there is one. -/
def ofCode? (n : Nat) : Option Char := if n.isValidChar then some (Char.ofNat n) else none

/-- A blank within a line. -/
def isBlank (c : Char) : Bool := c == ' ' || c == '\t'

/-- A character of a basic string that is part of no escape, or starts one. -/
def plainStep (multi : Bool) (c : Char) : Option (Text × Pending) :=
  if c = '\\' then some ([], .mark)
  else if isShown c || (multi && c == '\n') then some ([c], .nothing)
  else none

/-- What one character of a basic string adds to its text. -/
def basicStep (multi : Bool) (p : Pending) (c : Char) : Option (Text × Pending) :=
  match p with
  | .nothing => plainStep multi c
  | .mark =>
    if c = 'u' then some ([], .code 4 0)
    else if c = 'U' then some ([], .code 8 0)
    else if multi && isBlank c then some ([], .lineEnd)
    else if multi && c == '\n' then some ([], .visible)
    else (escaped? c).map fun e => ([e], .nothing)
  | .code left value =>
    if isHexDigit c then
      let value := 16 * value + Text.digitValue c
      if left = 1 then (ofCode? value).map fun e => ([e], .nothing)
      else some ([], .code (left - 1) value)
    else none
  | .lineEnd =>
    if isBlank c then some ([], .lineEnd) else if c = '\n' then some ([], .visible) else none
  | .visible => if isBlank c || c == '\n' then some ([], .visible) else plainStep multi c

/-- The quotes before the three that close a string over several lines, of which one was read
already, and the rest. -/
def closing (quote : Char) (rest : Text) : Text × Text :=
  let more := (rest.drop 2).take 2 |>.takeWhile (· == quote)
  (more, rest.drop (2 + more.length))

/-- The rest begins with two more quotes. -/
def closes (quote : Char) (rest : Text) : Bool := [quote, quote].isPrefixOf rest

/-- Reads a basic string to its end: its text and the rest. -/
def basicFrom? (multi : Bool) : Pending → Text → Option (Text × Text)
  | _, [] => none
  | p, c :: rest =>
    if c = '"' ∧ p.isDone ∧ !multi then some ([], rest)
    else if c = '"' ∧ p.isDone ∧ closes '"' rest then some (closing '"' rest)
    else
      match basicStep multi p c with
      | none => none
      | some (t, p) => (basicFrom? multi p rest).map fun (more, rest) => (t ++ more, rest)

/-- Reads a literal string to its end: its text and the rest. -/
def literalFrom? (multi : Bool) : Text → Option (Text × Text)
  | [] => none
  | c :: rest =>
    if c = '\'' ∧ !multi then some ([], rest)
    else if c = '\'' ∧ closes '\'' rest then some (closing '\'' rest)
    else if isShown c || (multi && c == '\n') then
      (literalFrom? multi rest).map fun (more, rest) => (c :: more, rest)
    else none

/-- A text without the line break that it may begin with. -/
def dropLineBreak : Text → Text
  | '\n' :: rest => rest
  | s => s

/-- Reads a basic string behind its first quote. -/
def basic? (s : Text) : Option (Text × Text) :=
  if closes '"' s then basicFrom? true .nothing (dropLineBreak (s.drop 2))
  else basicFrom? false .nothing s

/-- Reads a literal string behind its first quote. -/
def literal? (s : Text) : Option (Text × Text) :=
  if closes '\'' s then literalFrom? true (dropLineBreak (s.drop 2)) else literalFrom? false s

/-- Reads a string that may stand as a key, behind its first quote. -/
def keyString? (quote : Char) (s : Text) : Option (Text × Text) :=
  if quote = '"' then basicFrom? false .nothing s else literalFrom? false s

end Toml

end Typeahead
