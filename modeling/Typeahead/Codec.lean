import Typeahead.Text.Basic

/-! # Values as lines

A codec writes a value as lines of text, and reads it back from the lines that stand first. Codecs
of single texts and numbers are put together to codecs of pairs and lists. `encode` and `decode` go
on from lines to a whole text, in which a line feed within a line is escaped. -/

namespace Typeahead

/-- A way to write values as lines, and to read a value from the lines that stand first. -/
structure Codec (α : Type) where
  write : α → List Text
  read : List Text → Option (α × List Text)

namespace Codec

variable {α β : Type}

/-- A text is a line of its own. -/
def text : Codec Text where
  write t := [t]
  read
    | [] => none
    | line :: rest => some (line, rest)

/-- The number that a line of digits stands for. -/
def readNat : List Text → Option (Nat × List Text)
  | [] => none
  | line :: rest =>
    if !line.isEmpty && line.all Text.isDigit then some (Text.valueOf 10 line, rest) else none

/-- A number is a line of digits. -/
def nat : Codec Nat where
  write n := [Text.ofNat n]
  read := readNat

/-- Values that stand for others are written as those. -/
def map (c : Codec α) (f : α → β) (g : β → α) : Codec β where
  write b := c.write (g b)
  read lines := (c.read lines).map fun (a, rest) => (f a, rest)

/-- A truth value is one or zero. -/
def bool : Codec Bool := nat.map (· != 0) fun b => if b then 1 else 0

/-- A pair is its first part and then its second. -/
def pair (c : Codec α) (d : Codec β) : Codec (α × β) where
  write p := c.write p.1 ++ d.write p.2
  read lines := do
    let (a, lines) ← c.read lines
    let (b, lines) ← d.read lines
    some ((a, b), lines)

/-- Reads `n` values. -/
def readMany (c : Codec α) : Nat → List Text → Option (List α × List Text)
  | 0, lines => some ([], lines)
  | n + 1, lines => do
    let (a, lines) ← c.read lines
    let (more, lines) ← readMany c n lines
    some (a :: more, lines)

/-- A list is its length and then its members. -/
def list (c : Codec α) : Codec (List α) where
  write xs := Text.ofNat xs.length :: xs.flatMap c.write
  read lines := do
    let (n, lines) ← readNat lines
    readMany c n lines

/-! ### Whole texts -/

/-- The form of one character within a line. -/
def escapeChar (c : Char) : Text :=
  if c = '\n' then ['\\', 'n'] else if c = '\\' then ['\\', '\\'] else [c]

/-- A text without line feeds that stands for any text. -/
def escape (t : Text) : Text := t.flatMap escapeChar

/-- The text that an escaped one stands for. -/
def unescape : Text → Text
  | [] => []
  | '\\' :: 'n' :: rest => '\n' :: unescape rest
  | '\\' :: c :: rest => c :: unescape rest
  | c :: rest => c :: unescape rest

/-- The text of a value. -/
def encode (c : Codec α) (a : α) : Text :=
  (c.write a).flatMap fun line => escape line ++ ['\n']

/-- The value that a text was made of, unless it was made otherwise. -/
def decode (c : Codec α) (t : Text) : Option α :=
  match c.read (((Text.pieces (· == '\n') t).dropLast).map unescape) with
  | some (a, []) => some a
  | _ => none

end Codec

end Typeahead
