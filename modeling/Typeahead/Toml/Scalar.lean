import Typeahead.Number.Decimal
import Typeahead.Toml.Basic

/-! # Numbers, truth values and dates of settings files

`Toml.ofWord?` reads a value that is written without quotes and brackets, as one run of
characters. -/

namespace Typeahead

namespace Toml

/-- A character of a value without quotes and brackets. -/
def isWordChar (c : Char) : Bool :=
  Text.isDigit c || ('a' ≤ c && c ≤ 'z') || ('A' ≤ c && c ≤ 'Z') || c == '_' || c == '+' || c == '-'
    || c == '.' || c == ':'

/-- A hexadecimal digit. -/
def isHexDigit (c : Char) : Bool :=
  Text.isDigit c || ('a' ≤ c && c ≤ 'f') || ('A' ≤ c && c ≤ 'F')

/-- Digits, between which single underscores may stand, without the underscores. -/
def digits? (isOk : Char → Bool) (s : Text) : Option Text :=
  let parts := Text.pieces (· == '_') s
  if parts.all fun p => !p.isEmpty && p.all isOk then some parts.flatten else none

/-- The digits of a whole number, which has no leading zeros. -/
def wholeDigits? (s : Text) : Option Text :=
  match s with
  | '0' :: _ :: _ => none
  | _ => digits? Text.isDigit s

/-- The sign of a number, true if it is negative, and the rest. -/
def splitSign : Text → Bool × Text
  | '-' :: rest => (true, rest)
  | '+' :: rest => (false, rest)
  | s => (false, s)

/-! ### Integers -/

/-- The integer is in the range of integers. -/
def inRange (n : Int) : Bool := -9223372036854775808 ≤ n && n ≤ 9223372036854775807

/-- An integer with a sign and digits of a base. -/
def integerOf? (negative : Bool) (base : Nat) (digits : Text) : Option Toml :=
  let m : Int := Text.valueOf base digits
  let n := if negative then -m else m
  if inRange n then some (.integer n) else none

/-- Reads an integer. -/
def integer? (s : Text) : Option Toml :=
  match s with
  | '0' :: 'x' :: rest => (digits? isHexDigit rest).bind (integerOf? false 16)
  | '0' :: 'o' :: rest => (digits? (fun c => '0' ≤ c && c ≤ '7') rest).bind (integerOf? false 8)
  | '0' :: 'b' :: rest => (digits? (fun c => c == '0' || c == '1') rest).bind (integerOf? false 2)
  | _ =>
    let (negative, rest) := splitSign s
    (wholeDigits? rest).bind (integerOf? negative 10)

/-! ### Numbers with a point or an exponent -/

/-- The exponent of a number: none is zero. -/
def exponent? : Text → Option Int
  | [] => some 0
  | _ :: rest =>
    let (negative, rest) := splitSign rest
    (digits? Text.isDigit rest).map fun ds =>
      let e : Int := Text.valueOf 10 ds
      if negative then -e else e

/-- The digits behind the point; no point, no digits. -/
def fraction? : Text → Option Text
  | [] => some []
  | _ :: rest => digits? Text.isDigit rest

/-- The number of a decimal; a positive one has to be in the range of doubles. -/
def floatOf? (d : Decimal) : Option Toml :=
  if d.overflows && !d.negative then none else some (.float d.toSingle)

/-- Reads a number with a point or an exponent. -/
def float? (s : Text) : Option Toml :=
  let (negative, rest) := splitSign s
  if rest = ['i', 'n', 'f'] then some (.float (.infinite negative))
  else if rest = ['n', 'a', 'n'] then some (.float .nan)
  else
    let isMark (c : Char) : Bool := c == 'e' || c == 'E'
    let plain := rest.takeWhile fun c => !isMark c
    let whole := plain.takeWhile (· != '.')
    if whole.length = rest.length then none
    else do
      let w ← wholeDigits? whole
      let f ← fraction? (plain.drop whole.length)
      let e ← exponent? (rest.drop plain.length)
      floatOf? (.ofDigits negative w f e)

/-! ### Dates -/

/-- The number on exactly `n` digits at the front of a text, and the rest. -/
def number? (n : Nat) (s : Text) : Option (Nat × Text) :=
  let ds := s.take n
  if ds.length = n ∧ ds.all Text.isDigit then some (Text.valueOf 10 ds, s.drop n) else none

/-- The rest of a text behind a character. -/
def behind? (c : Char) : Text → Option Text
  | d :: rest => if d = c then some rest else none
  | [] => none

/-- The number of days of a month. -/
def daysOf (year month : Nat) : Nat :=
  if month = 2 then
    if (year % 4 = 0 ∧ year % 100 ≠ 0) ∨ year % 400 = 0 then 29 else 28
  else if month = 4 ∨ month = 6 ∨ month = 9 ∨ month = 11 then 30
  else 31

/-- The rest of a text behind a date. -/
def date? (s : Text) : Option Text := do
  let (year, s) ← number? 4 s
  let (month, s) ← number? 2 (← behind? '-' s)
  let (day, s) ← number? 2 (← behind? '-' s)
  if 1 ≤ month ∧ month ≤ 12 ∧ 1 ≤ day ∧ day ≤ daysOf year month then some s else none

/-- The rest of a text behind parts of a second. -/
def secondParts? : Text → Option Text
  | '.' :: rest =>
    match rest with
    | d :: _ => if Text.isDigit d then some (rest.dropWhile Text.isDigit) else none
    | [] => none
  | s => some s

/-- The rest of a text behind hours and minutes. -/
def clock? (s : Text) : Option Text := do
  let (hour, s) ← number? 2 s
  let (minute, s) ← number? 2 (← behind? ':' s)
  if hour ≤ 23 ∧ minute ≤ 59 then some s else none

/-- The rest of a text behind a time of day. -/
def time? (s : Text) : Option Text := do
  let (second, s) ← number? 2 (← behind? ':' (← clock? s))
  if second ≤ 60 then secondParts? s else none

/-- The rest of a text behind the offset of a time, if there is one. -/
def offset? : Text → Option Text
  | 'Z' :: rest | 'z' :: rest => some rest
  | '+' :: rest | '-' :: rest => clock? rest
  | s => some s

/-- The rest of a text behind a time with its offset. -/
def timeWithOffset? (s : Text) : Option Text := (time? s).bind offset?

/-- The text is a date, a time, or both. -/
def isDateTime (s : Text) : Bool :=
  time? s == some [] ||
    match date? s with
    | some [] => true
    | some (c :: rest) => (c == 'T' || c == 't' || c == ' ') && timeWithOffset? rest == some []
    | none => false

/-- Reads a value without quotes and brackets. -/
def ofWord? (s : Text) : Option Toml :=
  if s = ['t', 'r', 'u', 'e'] then some (.bool true)
  else if s = ['f', 'a', 'l', 's', 'e'] then some (.bool false)
  else if isDateTime s then some .dateTime
  else (integer? s) <|> (float? s)

end Toml

end Typeahead
