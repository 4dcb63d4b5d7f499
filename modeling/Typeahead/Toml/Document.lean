import Typeahead.Toml.Quoted

/-! # Reading settings files

`Toml.read?` reads a whole file, and says nothing about where a malformed one goes wrong. The
readers of values and of keys take fuel: brackets nest less than eighty deep, a key has fewer than
eighty parts, and everything else reads at least one character at every other call. -/

namespace Typeahead

namespace Toml

/-- A reader takes what it reads from the front of a text, or refuses. -/
abbrev Reader (α : Type) := StateT Text Option α

namespace Reader

/-- The next character, which is not taken. -/
def peek? : Reader (Option Char) := fun s => some (s.head?, s)

/-- Takes the characters that `p` accepts. -/
def takeAll (p : Char → Bool) : Reader Text := fun s => some (s.takeWhile p, s.dropWhile p)

/-- Takes one character, which has to be `c`. -/
def exactly (c : Char) : Reader Unit
  | d :: rest => if d = c then some ((), rest) else none
  | [] => none

/-- Takes `c` if it is next, and says whether it was. -/
def take? (c : Char) : Reader Bool
  | d :: rest => if d = c then some (true, rest) else some (false, d :: rest)
  | [] => some (false, [])

/-- Refuses. -/
def refuse {α : Type} : Reader α := fun _ => none

/-- Goes on only if `b` holds. -/
def require (b : Bool) : Reader Unit := if b then pure () else refuse

/-- Takes a blank within a line, or several. -/
def blanks : Reader Unit := do
  let _ ← takeAll isBlank

/-- Takes a comment, if one is next. -/
def comment : Reader Unit := do
  if ← take? '#' then
    let _ ← takeAll isShown

/-- Takes the end of a line, or of the text. -/
def lineEnd : Reader Unit := do
  match ← peek? with
  | none => pure ()
  | some _ => exactly '\n'

/-- Takes what may follow at the end of a line. -/
def trailing : Reader Unit := do
  blanks
  comment
  lineEnd

/-- Takes blanks, line ends and comments. -/
def gaps : Nat → Reader Unit
  | 0 => pure ()
  | fuel + 1 => do
    blanks
    match ← peek? with
    | some '#' => do
      comment
      exactly '\n'
      gaps fuel
    | some '\n' => do
      exactly '\n'
      gaps fuel
    | _ => pure ()

/-! ### Keys -/

/-- A character of a key without quotes. -/
def isBareChar (c : Char) : Bool :=
  Text.isDigit c || ('a' ≤ c && c ≤ 'z') || ('A' ≤ c && c ≤ 'Z') || c == '_' || c == '-'

/-- Reads one part of a key. -/
def keyPart : Reader Text := do
  match ← peek? with
  | some '"' => fun s => keyString? '"' s.tail
  | some '\'' => fun s => keyString? '\'' s.tail
  | _ => do
    let part ← takeAll isBareChar
    require !part.isEmpty
    pure part

/-- The number of parts that a key does not reach. -/
def keyLimit : Nat := 80

/-- Reads the parts of a key, with the blanks around them. -/
def keyParts : Nat → Reader (List Text)
  | 0 => refuse
  | fuel + 1 => do
    blanks
    let part ← keyPart
    blanks
    if ← take? '.' then
      let parts ← keyParts fuel
      pure (part :: parts)
    else pure [part]

/-- Reads a key: the path to its table, and its last part. -/
def key : Reader (List Text × Text) := do
  let parts ← keyParts (keyLimit - 1)
  pure (parts.dropLast, parts.getLastD [])

/-! ### Values -/

/-- The depth that brackets do not reach. -/
def depthLimit : Nat := 80

/-- A blank stands between a date and what looks like a time. -/
def joinsTime (word : Text) (s : Text) : Bool :=
  date? word == some [] &&
    match s with
    | ' ' :: d :: _ => Text.isDigit d
    | _ => false

/-- Reads a value without quotes and brackets; a date and a time may have a blank between them. -/
def word : Reader Toml := do
  let w ← takeAll isWordChar
  if joinsTime w (← get) then
    exactly ' '
    let time ← takeAll isWordChar
    fun s => (ofWord? (w ++ ' ' :: time)).map (·, s)
  else fun s => (ofWord? w).map (·, s)

/-- Adds a field of a table between braces. -/
def addInline (fields : Fields) (path : List Text) (k : Text) (v : Toml) : Option Fields :=
  (assign path k v .inline fields).map (·.2)

mutual

/-- Reads a value, `depth` being the depth of brackets that is left. -/
def value : Nat → Nat → Reader Toml
  | 0, _ => refuse
  | fuel + 1, depth => do
    match ← peek? with
    | some '"' => fun s => (basic? s.tail).map fun (t, rest) => (.string t, rest)
    | some '\'' => fun s => (literal? s.tail).map fun (t, rest) => (.string t, rest)
    | some '[' => do
      exactly '['
      require (1 < depth)
      let items ← items fuel (depth - 1)
      pure (.array items)
    | some '\x7b' => do
      exactly '\x7b'
      require (1 < depth)
      blanks
      if ← take? '\x7d' then pure (.table .inline [])
      else
        let fields ← fields fuel (depth - 1) []
        pure (.table .inline fields)
    | _ => word

/-- Reads the items of an array and its closing bracket. -/
def items : Nat → Nat → Reader (List Toml)
  | 0, _ => refuse
  | fuel + 1, depth => do
    gaps fuel
    if ← take? ']' then pure []
    else
      let v ← value fuel depth
      gaps fuel
      if ← take? ',' then
        let rest ← items fuel depth
        pure (v :: rest)
      else
        exactly ']'
        pure [v]

/-- Reads the fields of a table between braces and the closing brace. -/
def fields : Nat → Nat → Fields → Reader Fields
  | 0, _, _ => refuse
  | fuel + 1, depth, sofar => do
    let (path, k) ← key
    exactly '='
    blanks
    let v ← value fuel depth
    blanks
    match addInline sofar path k v with
    | none => refuse
    | some sofar =>
      if ← take? ',' then fields fuel depth sofar
      else
        exactly '\x7d'
        pure sofar

end

/-! ### Lines -/

/-- What has been read of a file: its tables, and the header under which it stands. -/
structure Progress where
  fields : Fields := []
  header : List Text := []

/-- The file after a change of the table that a path leads to. -/
def Progress.change (p : Progress) (path : List Text)
    (f : TableOrigin → Fields → Option (TableOrigin × Fields)) : Reader Progress := fun s =>
  (follow false f path .header p.fields).map fun (_, fs) => ({ p with fields := fs }, s)

/-- Reads a line that assigns a value. -/
def assignment (fuel : Nat) (p : Progress) : Reader Progress := do
  let (path, k) ← key
  exactly '='
  blanks
  let v ← value fuel depthLimit
  trailing
  p.change p.header (assign path k v)

/-- Reads a line with the header of a table or of an item of a list of tables. -/
def headerLine (p : Progress) : Reader Progress := do
  exactly '['
  let isItem ← take? '['
  let (path, k) ← key
  exactly ']'
  if isItem then exactly ']'
  trailing
  let p ← p.change path (if isItem then openItem k else openTable k)
  pure { p with header := path ++ [k] }

/-- Reads the lines of a file. -/
def lines : Nat → Progress → Reader Fields
  | 0, _ => refuse
  | fuel + 1, p => do
    blanks
    match ← peek? with
    | none => pure p.fields
    | some '#' => do
      comment
      lineEnd
      lines fuel p
    | some '\n' => do
      exactly '\n'
      lines fuel p
    | some '[' => do
      let p ← headerLine p
      lines fuel p
    | some _ => do
      let p ← assignment (2 * fuel) p
      lines fuel p

end Reader

/-- A text in which every line ends in a line feed alone. -/
def unifyLineEnds : Text → Text
  | '\r' :: '\n' :: rest => '\n' :: unifyLineEnds rest
  | c :: rest => c :: unifyLineEnds rest
  | [] => []

/-- A text without the mark that says how it is encoded. -/
def dropMark : Text → Text
  | '\uFEFF' :: rest => rest
  | s => s

/-- Reads a settings file. -/
def read? (t : Text) : Option Fields :=
  let s := unifyLineEnds (dropMark t)
  (Reader.lines (s.length + 2) {} s).map (·.1)

end Toml

end Typeahead
