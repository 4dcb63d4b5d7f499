import Typeahead.Text.Basic

/-! # Values for other programs

What is reported to other programs is written as a JSON text: on one line, or indented by two blanks
for each level. The fields of an object stand in the order in which they are given. -/

namespace Typeahead

/-- A value that is reported. -/
inductive Json where
  | null
  | bool (b : Bool)
  | integer (n : Int)
  | string (t : Text)
  | array (items : List Json)
  | object (fields : List (Text × Json))
  deriving Repr, Inhabited

namespace Json

/-- A text that may be missing. -/
def ofOption : Option Text → Json
  | some t => .string t
  | none => .null

/-- Two hexadecimal digits. -/
def twoDigits (n : Nat) : Text := Nat.toDigits 16 (n / 16) ++ Nat.toDigits 16 (n % 16)

/-- The form of one character within a string. -/
def escapedChar (c : Char) : Text :=
  if c = '"' ∨ c = '\\' then ['\\', c]
  else if c = '\n' then ['\\', 'n']
  else if c = '\r' then ['\\', 'r']
  else if c = '\t' then ['\\', 't']
  else if c = '\x08' then ['\\', 'b']
  else if c = '\x0c' then ['\\', 'f']
  else if c.toNat < 0x20 then ['\\', 'u', '0', '0'] ++ twoDigits c.toNat
  else [c]

/-- A text as a string. -/
def quoted (t : Text) : Text := '"' :: t.flatMap escapedChar ++ ['"']

/-- A truth value. -/
def ofTruth (b : Bool) : Text := if b then ['t', 'r', 'u', 'e'] else ['f', 'a', 'l', 's', 'e']

mutual

/-- The value on one line. -/
def compact : Json → Text
  | null => ['n', 'u', 'l', 'l']
  | bool b => ofTruth b
  | integer n => Text.ofInt n
  | string t => quoted t
  | array items => '[' :: Text.join [','] (compactItems items) ++ [']']
  | object fields => '\x7b' :: Text.join [','] (compactFields fields) ++ ['\x7d']

/-- The items of an array, each on one line. -/
def compactItems : List Json → List Text
  | [] => []
  | j :: rest => compact j :: compactItems rest

/-- The fields of an object, each on one line. -/
def compactFields : List (Text × Json) → List Text
  | [] => []
  | (k, j) :: rest => (quoted k ++ ':' :: compact j) :: compactFields rest

end

/-- A line break with the indentation of a level. -/
def lineBreak (level : Nat) : Text := '\n' :: List.replicate (2 * level) ' '

/-- Parts between brackets, each on a line of its own. -/
def block (opening closing : Char) (level : Nat) (parts : List Text) : Text :=
  if parts.isEmpty then [opening, closing]
  else opening :: Text.join [','] (parts.map (lineBreak (level + 1) ++ ·))
    ++ lineBreak level ++ [closing]

mutual

/-- The value indented, `level` being the level that it stands at. -/
def indented (level : Nat) : Json → Text
  | array items => block '[' ']' level (indentedItems (level + 1) items)
  | object fields => block '\x7b' '\x7d' level (indentedFields (level + 1) fields)
  | null => compact null
  | bool b => compact (bool b)
  | integer n => compact (integer n)
  | string t => compact (string t)

/-- The items of an array, indented. -/
def indentedItems (level : Nat) : List Json → List Text
  | [] => []
  | j :: rest => indented level j :: indentedItems level rest

/-- The fields of an object, indented. -/
def indentedFields (level : Nat) : List (Text × Json) → List Text
  | [] => []
  | (k, j) :: rest => (quoted k ++ [':', ' '] ++ indented level j) :: indentedFields level rest

end

/-- The value on several lines. -/
def pretty (j : Json) : Text := indented 0 j

end Json

end Typeahead
