/-! # Texts

A text is the list of its code points, so that lengths count code points and texts compare code
point by code point; this is also the order of their UTF-8 bytes. -/

namespace Typeahead

/-- A text: a word, a tag, a line or a whole file. -/
abbrev Text := List Char

namespace Text

/-- White space, as far as it separates words. -/
def isBlank (c : Char) : Bool :=
  let n := c.toNat
  (9 ≤ n && n ≤ 13) || n == 0x20 || n == 0x85 || n == 0xA0 || n == 0x1680
    || (0x2000 ≤ n && n ≤ 0x200A) || n == 0x2028 || n == 0x2029 || n == 0x202F || n == 0x205F
    || n == 0x3000

/-- The number of bytes of a character in UTF-8. -/
def byteWidth (c : Char) : Nat :=
  let n := c.toNat
  if n < 0x80 then 1 else if n < 0x800 then 2 else if n < 0x10000 then 3 else 4

/-- The number of bytes of a text in UTF-8. -/
def byteCount (s : Text) : Nat := s.foldl (fun n c => n + byteWidth c) 0

/-- The first piece of a text cut at every character that `sep` accepts, and the later pieces. -/
def cut (sep : Char → Bool) : Text → Text × List Text
  | [] => ([], [])
  | c :: rest =>
    let (piece, later) := cut sep rest
    if sep c then ([], piece :: later) else (c :: piece, later)

/-- The pieces of a text cut at every character that `sep` accepts, the empty ones included. -/
def pieces (sep : Char → Bool) (s : Text) : List Text := (cut sep s).1 :: (cut sep s).2

/-- The pieces that are not empty. -/
def fields (sep : Char → Bool) (s : Text) : List Text := (pieces sep s).filter (!·.isEmpty)

/-- The words of a committed text. -/
def words (s : Text) : List Text := fields isBlank s

/-- A text without the white space at its ends. -/
def trim (s : Text) : Text := ((s.dropWhile isBlank).reverse.dropWhile isBlank).reverse

/-- A line without the carriage return that may end it. -/
def dropReturn (line : Text) : Text :=
  if line.getLast? = some '\r' then line.dropLast else line

/-- The lines of a file. A line feed ends a line, so none follows the last one, and a carriage
return before a line feed belongs to the line's end. -/
def lines (s : Text) : List Text :=
  let all := pieces (· == '\n') s
  all.dropLast.map dropReturn ++ (all.getLast?.toList.filter (!·.isEmpty))

/-- The number of quotes that end a text. -/
def trailingQuotes (s : Text) : Nat := (s.reverse.takeWhile (· == '\'')).length

/-- A text without the quotes that end it. -/
def dropTrailingQuotes (s : Text) : Text := (s.reverse.dropWhile (· == '\'')).reverse

/-- Every character is a small letter of ASCII, and there is one. -/
def isLowerAscii (s : Text) : Bool := !s.isEmpty && s.all fun c => 'a' ≤ c && c ≤ 'z'

/-- The value of a digit, of which the letters of either case go on after the nine. -/
def digitValue (c : Char) : Nat :=
  if c ≤ '9' then c.toNat - 48 else if 'a' ≤ c then c.toNat - 87 else c.toNat - 55

/-- The character is a decimal digit of ASCII. -/
def isDigit (c : Char) : Bool := '0' ≤ c && c ≤ '9'

/-- The value of digits in a base. -/
def valueOf (base : Nat) (digits : Text) : Nat :=
  digits.foldl (fun n c => base * n + digitValue c) 0

/-- The decimal digits of a natural number. -/
def ofNat (n : Nat) : Text := Nat.toDigits 10 n

/-- The decimal form of an integer. -/
def ofInt : Int → Text
  | .ofNat n => ofNat n
  | .negSucc n => '-' :: ofNat (n + 1)

/-- The texts one after another with `sep` between them. -/
def join (sep : Text) (parts : List Text) : Text := (parts.intersperse sep).flatten

end Text

end Typeahead
