import Typeahead.Text.Basic

/-! # Paths

Paths as they are given by a user, with slashes between their parts. Where a path leads is a matter
of the disk; here a path is only taken apart and put together. -/

namespace Typeahead.Path

/-- The path starts at the root. -/
def isAbsolute (path : Text) : Bool := path.head? == some '/'

/-- A path with its slash, to be put before names. -/
def withSlash (path : Text) : Text :=
  if path.isEmpty || path.getLast? == some '/' then path else path ++ ['/']

/-- The path of a name in a directory. -/
def join (directory name : Text) : Text :=
  if isAbsolute name then name else withSlash directory ++ name

/-- A part of a path that leads somewhere else. -/
def moves (part : Text) : Bool := !part.isEmpty && part != ['.']

/-- The parts of a path that count: a dot counts only in front. -/
def parts (path : Text) : List Text :=
  let (first, rest) := Text.cut (· == '/') path
  (if first = ['.'] then [first] else [first].filter moves) ++ rest.filter moves

/-- The path of the first parts of another one. -/
def ofParts (path : Text) (ps : List Text) : Text :=
  (if isAbsolute path then ['/'] else []) ++ Text.join ['/'] ps

/-- The path of the directory that the last part of a path stands in; empty for a single part. -/
def parent (path : Text) : Text := ofParts path (parts path).dropLast

/-- A path, as it is given, and those of the directories that it leads through, the longest
first. -/
def ancestors (path : Text) : List Text :=
  let ps := parts path
  path :: (((List.range ps.length).drop 1).map fun n => ofParts path (ps.take n)).reverse

/-- The beginnings of a path, each as long as one more of its pieces, up to the path itself. -/
def beginnings (path : Text) : List Text :=
  let pieces := Text.pieces (· == '/') path
  (List.range pieces.length).map fun n => Text.join ['/'] (pieces.take (n + 1))

/-- The last part of a path. -/
def name (path : Text) : Text := (Text.pieces (· == '/') path).getLastD []

end Typeahead.Path
