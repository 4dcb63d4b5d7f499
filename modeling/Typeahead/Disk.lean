import Typeahead.Path
import Typeahead.Store

/-! # The disk

What lies on disk, as far as the library reads or writes it: named texts, the two halves of a
lexicon, and the tables of stores. Everything lies at a place, which is written as the path from the
root to it that has no dots and no slash at its end; the place of the root is empty.

* `Disk.locate` follows a path part by part. Every part but the last has to lead to a directory that
  is there, so that `a/../b` leads nowhere as long as there is no directory `a`.
* `Disk.makeDirectories` makes the directories of a path; what it has made stays even if it fails.
* What may fail and still change the disk gives the disk next to its result. -/

namespace Typeahead

/-- What lies at a place: a directory, or a file with what it holds. -/
inductive FileContent where
  | text (t : Text)
  | unreadable
  | directory
  | index (i : Index)
  | payload (p : Payload)
  | tables (t : Tables)
  deriving DecidableEq, Repr

/-- The files by their places, and the place at which relative paths start. -/
structure Disk where
  home : Text := []
  files : WordMap FileContent := []
  deriving DecidableEq, Repr, Inhabited

/-- Why a path does not lead on. -/
inductive Obstacle where
  | missing
  | blocked
  | taken
  deriving DecidableEq, Repr

namespace Disk

/-! ### Places -/

/-- What lies at a place. -/
def at? (d : Disk) (place : Text) : Option FileContent :=
  if place.isEmpty then some .directory else d.files.get? place

/-- The disk with something at a place. -/
def put (d : Disk) (place : Text) (c : FileContent) : Disk :=
  { d with files := d.files.set place c }

/-- The place above another one; the root is above itself. -/
def above (place : Text) : Text := ((place.reverse.dropWhile (· != '/')).drop 1).reverse

/-- How many bytes a name may have. -/
def nameLimit : Nat := 255

/-- How many bytes a path may have. -/
def pathLimit : Nat := 4095

/-- Goes on from a place, which has to be that of a directory, by one part of a path. -/
def enter (d : Disk) (place part : Text) : Except Obstacle Text :=
  match d.at? place with
  | none => .error .missing
  | some .directory =>
    if !Path.moves part then .ok place
    else if part = ['.', '.'] then .ok (above place)
    else if nameLimit < Text.byteCount part then .error .blocked
    else .ok (place ++ '/' :: part)
  | some _ => .error .blocked

/-- Goes on from where a path starts. -/
def follow (d : Disk) (path : Text) (ps : List Text) : Except Obstacle Text :=
  if path.contains '\x00' || pathLimit < Text.byteCount path then .error .blocked
  else ps.foldlM d.enter (if Path.isAbsolute path then [] else d.home)

/-- The place that a path leads to; nothing needs to lie there. -/
def locate (d : Disk) (path : Text) : Except Obstacle Text :=
  if path.isEmpty then .error .missing else d.follow path (Text.pieces (· == '/') path)

/-! ### Files and directories by their paths -/

/-- What lies where a path leads. -/
def get? (d : Disk) (path : Text) : Option FileContent :=
  match d.locate path with
  | .ok place => d.at? place
  | .error _ => none

/-- Something lies where a path leads. -/
def exists? (d : Disk) (path : Text) : Bool := (d.get? path).isSome

/-- A path leads to a directory. -/
def isDirectory (d : Disk) (path : Text) : Bool := d.get? path == some .directory

/-- The text at a path, if it can be read as one. -/
def text? (d : Disk) (path : Text) : Option Text :=
  match d.get? path with
  | some (.text t) => some t
  | _ => none

/-- The names of what lies in a directory, in order; `none` if there is no directory. -/
def namesIn? (d : Disk) (directory : Text) : Option (List Text) :=
  match d.locate directory with
  | .ok place =>
    if d.at? place = some .directory then
      let lead := place ++ ['/']
      some (((d.files.keys.filter lead.isPrefixOf).map (·.drop lead.length)).filter
        (!·.contains '/'))
    else none
  | .error _ => none

/-- Makes one directory in another that is there. Slashes at the end of the path do not count. -/
def makeDirectory (d : Disk) (path : Text) : Except Obstacle Disk := do
  let ps := ((Text.pieces (· == '/') path).reverse.dropWhile (·.isEmpty)).reverse
  let place ← d.follow path ps
  if (d.at? place).isSome then .error .taken else .ok (d.put place .directory)

/-- Makes the first directory of a list in the second one, which is made in the third one if it is
missing, and so on; the last one is made where it starts. -/
def makeNested (d : Disk) : List Text → Bool × Disk
  | [] => (true, d)
  | path :: outer =>
    match d.makeDirectory path with
    | .ok d => (true, d)
    | .error .missing =>
      match makeNested d outer with
      | (true, d) =>
        match d.makeDirectory path with
        | .ok d => (true, d)
        | .error _ => (d.isDirectory path, d)
      | r => r
    | .error _ => (d.isDirectory path, d)

/-- Makes the directory of a path and those that it leads through, as far as they are missing. The
empty path asks for none. -/
def makeDirectories (d : Disk) (path : Text) : Except Failure Unit × Disk :=
  if path.isEmpty then (.ok (), d)
  else
    match d.makeNested (Path.ancestors path) with
    | (true, d) => (.ok (), d)
    | (false, d) => (.error .io, d)

/-- Writes a file in a directory that is there, unless a directory lies in its place. -/
def writeFile (d : Disk) (path : Text) (c : FileContent) : Except Failure Unit × Disk :=
  match d.locate path with
  | .ok place => if d.at? place = some .directory then (.error .io, d) else (.ok (), d.put place c)
  | .error _ => (.error .io, d)

/-- Goes on with the next change, unless the first one failed. -/
def andThen (r : Except Failure Unit × Disk) (next : Disk → Except Failure Unit × Disk) :
    Except Failure Unit × Disk :=
  match r with
  | (.ok (), d) => next d
  | (.error f, d) => (.error f, d)

/-- Writes a file for which its directory is made where it is missing. -/
def writeNested (d : Disk) (path : Text) (c : FileContent) : Except Failure Unit × Disk :=
  andThen (d.makeDirectories (Path.parent path)) (·.writeFile path c)

/-! ### Lexicons in two files -/

/-- Writes the two halves of a lexicon, the index first. -/
def writeLexicon (d : Disk) (indexPath payloadPath : Text) (l : Lexicon) :
    Except Failure Unit × Disk :=
  andThen (d.writeFile indexPath (.index l.index)) (·.writeFile payloadPath (.payload l.payload))

/-- The index at a path. -/
def index (d : Disk) (path : Text) : Except Failure Index :=
  match d.get? path with
  | none => .error .noDictionary
  | some .directory => .error .io
  | some (.index i) => .ok i
  | some _ => .error .badIndex

/-- The payload at a path. -/
def payload (d : Disk) (path : Text) : Except Failure Payload :=
  match d.get? path with
  | none | some .directory => .error .io
  | some (.payload p) => .ok p
  | some _ => .error .badPayload

/-- Loads a lexicon from its two halves; the index is read first. -/
def lexicon (d : Disk) (indexPath payloadPath : Text) : Except Failure Lexicon := do
  let i ← d.index indexPath
  let p ← d.payload payloadPath
  Lexicon.ofParts i p

/-! ### Stores -/

/-- What the store in a file starts with, unless the file holds something else. -/
def tables? : Option FileContent → Option Tables
  | none => some {}
  | some (.tables t) => some t
  | some (.text t) => if t.isEmpty then some {} else none
  | some _ => none

/-- Opens the store at a path, which is created, with its directory, if there is none. A store that
is open already, at one of the places `inUse`, cannot be opened again. -/
def openStore (d : Disk) (inUse : List Text) (number : Nat) (o : Origin) (l : Locale)
    (path : Text) : Except Failure Store × Disk :=
  match d.makeDirectories (Path.parent path) with
  | (.error f, d) => (.error f, d)
  | (.ok (), d) =>
    match d.locate path with
    | .error _ => (.error .badStore, d)
    | .ok place =>
      match tables? (d.at? place) with
      | none => (.error .badStore, d)
      | some t =>
        if inUse.contains place then (.error .badStore, d)
        else
          (.ok { number, origin := o, locale := l, tables := t, file := some ⟨path, place, t⟩ },
            d.put place (.tables t))

/-- Closes a store: its tables stay behind in its file. -/
def closeStore (d : Disk) (s : Store) : Disk :=
  match s.file with
  | some f => d.put f.place (.tables f.tables)
  | none => d

end Disk

end Typeahead
