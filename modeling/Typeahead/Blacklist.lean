import Typeahead.Disk

/-! # Blacklists

The words that the user removed and that no dictionary can forget. A blacklist lives in memory; if
it has a path, its words are written there, one on each line. -/

namespace Typeahead

/-- A set of removed words, in order. Its number tells it from others. -/
structure Blacklist where
  number : Nat := 0
  path : Option Text := none
  words : List Text := []
  deriving DecidableEq, Repr, Inhabited

namespace Blacklist

/-- Puts a word into an increasing list, unless it is there. -/
def insertWord (w : Text) : List Text → List Text
  | [] => [w]
  | v :: rest =>
    match compare w v with
    | .lt => w :: v :: rest
    | .eq => v :: rest
    | .gt => v :: insertWord w rest

/-- The words on the lines of a file. -/
def parse (t : Text) : List Text :=
  ((Text.lines t).filter (!·.isEmpty)).foldl (fun ws w => insertWord w ws) []

/-- The file of some words: each on a line. -/
def render (ws : List Text) : Text := ws.flatMap (· ++ ['\n'])

/-- The blacklist at a path. What cannot be read gives no words. -/
def load (number : Nat) (path : Text) (d : Disk) : Blacklist :=
  ⟨number, some path, ((d.text? path).map parse).getD []⟩

/-- The word is on the list. -/
def contains (b : Blacklist) (w : Text) : Bool := b.words.contains w

/-- The list with a word. -/
def add (b : Blacklist) (w : Text) : Blacklist := { b with words := insertWord w b.words }

/-- The list without a word. -/
def remove (b : Blacklist) (w : Text) : Blacklist := { b with words := b.words.filter (· != w) }

/-- Writes the list to its path, if it has one. -/
def persist (b : Blacklist) (d : Disk) : Except Failure Unit × Disk :=
  match b.path with
  | some path => d.writeNested path (.text (render b.words))
  | none => (.ok (), d)

end Blacklist

end Typeahead
