import Typeahead.CommandLine.Compile
import Typeahead.CommandLine.Typing
import Typeahead.Disk.Encoding
import Std.Time.DateTime.Timestamp

/-! # The program

The first argument names a command, the others are its own. Before a command runs, the files that it
looks at are read; what it changed is written afterwards. -/

namespace Typeahead.CommandLine

/-- The options among the arguments, none if these do not amount to any. -/
def optionsOf (rules : List OptionRule) (args : List Text) : Given :=
  match parseArguments rules args with
  | .given options => options
  | _ => []

namespace Files

/-- A place as the system takes it. -/
def nameOf (place : Text) : String := if place.isEmpty then "/" else String.ofList place

/-- What lies at a place of the system, if anything does. -/
def contentAt (place : Text) : IO (Option FileContent) := do
  let path := System.mkFilePath [nameOf place]
  if ← path.isDir then
    return some .directory
  else if ← path.pathExists then
    try return some (.decode place (← IO.FS.readFile path).toList)
    catch _ => return some .unreadable
  else return none

/-- Reads what lies at a place, unless it is known. -/
def read (disk : Disk) (place : Text) : IO Disk := do
  if (disk.at? place).isSome then return disk
  else return ((← contentAt place).map (disk.put place)).getD disk

/-- Reads the halves of lexicons in the directory at a place. -/
def readLexicons (disk : Disk) (place : Text) : IO Disk := do
  let entries ← (System.mkFilePath [nameOf place]).readDir
  let names := entries.toList.map (·.fileName.toList)
  (names.filter Provider.isHalf).foldlM (fun disk name => read disk (place ++ '/' :: name)) disk

/-- Reads what lies along a path, and the lexicons in the directory that it leads to. A directory on
its way that is still to be made is taken for one. -/
def readAround (disk : Disk) (path : Text) : IO Disk := do
  let step (known : Disk × Disk) (path : Text) : IO (Disk × Disk) := do
    let (disk, assumed) := known
    match assumed.locate path with
    | .ok place =>
      let disk ← read disk place
      return (disk, assumed.put place ((disk.at? place).getD .directory))
    | .error _ => return known
  let (disk, assumed) ← (Path.beginnings path).foldlM step (disk, disk)
  match assumed.locate path with
  | .ok place =>
    if disk.at? place = some .directory then readLexicons disk place else return disk
  | .error _ => return disk

/-- The disk as far as the directory is known in which the program runs. -/
def start : IO Disk := do
  let home := (← IO.currentDir).toString.toList
  let disk ← (Path.beginnings home).foldlM read {}
  return { disk with home := if home = ['/'] then [] else home }

/-- Writes what lies at a place. -/
def write (place : Text) (content : FileContent) : IO Unit :=
  match content.encode? with
  | some text => IO.FS.writeFile (nameOf place) (String.ofList text)
  | none => if content = .directory then IO.FS.createDirAll (nameOf place) else pure ()

/-- Writes what is on one disk and was not on another. Directories come before what lies in them. -/
def writeChanges (before after : Disk) : IO Unit :=
  after.files.forM fun (place, content) =>
    if before.at? place = some content then pure () else write place content

end Files

/-- Writes the changes that a command made, prints its output, and gives its exit code. -/
def finish (before : Disk) (o : Outcome) : IO UInt32 := do
  Files.writeChanges before o.disk
  IO.print (String.ofList o.output)
  return o.code.toUInt32

/-- Runs the command that compiles word lists. -/
def runCompile (args : List Text) : IO UInt32 := do
  let disk ← (Compile.paths (optionsOf Compile.rules args)).foldlM Files.readAround (← Files.start)
  finish disk (compile disk args)

/-- Runs the command that types. -/
def runType (args : List Text) : IO UInt32 := do
  let given := optionsOf Typing.rules args
  let disk ← (Typing.settingsPaths given).foldlM Files.readAround (← Files.start)
  let disk ← (Typing.dataPaths disk given).foldlM Files.readAround disk
  let input ← (← IO.getStdin).readToEnd
  let time ← Std.Time.Timestamp.now
  finish disk (type disk args input.toList time.toSecondsSinceUnixEpoch.val.toNat)

/-- The commands by their names. -/
def commands : List (Text × (List Text → IO UInt32)) :=
  [(Compile.command.name, runCompile), (Typing.command.name, runType)]

/-- Runs the command that the first argument names. -/
def runNamed : List Text → IO UInt32
  | [] => return 2
  | name :: args =>
    match commands.find? (·.1 == name) with
    | some (_, run) => run args
    | none => return 2

end Typeahead.CommandLine

/-- The program. -/
def main (args : List String) : IO UInt32 :=
  Typeahead.CommandLine.runNamed (args.map (·.toList))
