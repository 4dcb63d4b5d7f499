import Typeahead.CommandLine.Help
import Typeahead.CommandLine.Outcome
import Typeahead.Lexicon.SourceLine
import Typeahead.Path
import Typeahead.Provider

/-! # The command that compiles word lists

`compile` reads word lists in order and writes the two halves of a main dictionary, or of a
supplement to one. -/

namespace Typeahead.CommandLine

namespace Compile

/-- The name of the option for the locale. -/
def localeOption : Text := "locale".toList

/-- The name of the option for the word lists. -/
def inputsOption : Text := "inputs".toList

/-- The name of the option for the directory that is written to. -/
def outDirOption : Text := "out-dir".toList

/-- The name of the option that names a supplement. -/
def supplementOption : Text := "supplement".toList

/-- The name of the option that passes over malformed lines. -/
def lenientOption : Text := "lenient".toList

/-- The directory that is written to where none is given. -/
def defaultOutDir : Text := "data".toList

/-- The options of the command. -/
def rules : List OptionRule :=
  [{ name := localeOption, arity := .one, required := true
     about := "Locale tag of the dictionary, e.g. en_US".toList },
    { name := inputsOption, arity := .many, required := true, takesPaths := true
      about := "Source files".toList },
    { name := outDirOption, arity := .one, takesPaths := true, fallback := some defaultOutDir
      about := "Directory the dictionary is written to".toList },
    { name := supplementOption, arity := .one
      about := "Supplement name; writes main-<locale>+<name> instead of main-<locale>".toList },
    { name := lenientOption, arity := .none
      about := "Skip malformed lines instead of failing".toList }]

/-- The command. -/
def command : Command where
  name := "build_dict".toList
  about := "Compiles plain-text word lists into a main dictionary".toList
  details := some ("Source lines: w <word> <frequency> [offensive] b <prev|<S>> <next> <frequency> "
    ++ "wl <typed> <replacement>").toList
  rules := rules

/-- A draft with the numbers of lines that were read and passed over. -/
structure Tally where
  draft : Draft
  lines : Nat := 0
  skipped : Nat := 0

/-- Adds a line of a word list. -/
def addLine (lenient : Bool) (t : Tally) (line : Text) : Except Failure Tally :=
  match t.draft.addLine line with
  | .ok draft => .ok { t with draft, lines := t.lines + 1 }
  | .error f => if lenient then .ok { t with skipped := t.skipped + 1 } else .error f

/-- Adds a word list. -/
def addInput (lenient : Bool) (disk : Disk) (t : Tally) (path : Text) : Except Failure Tally :=
  match disk.text? path with
  | some text => (Text.lines text).foldlM (addLine lenient) t
  | none => .error .io

/-- The name of the dictionary, without an ending. -/
def dictionaryName (l : Locale) (supplement : Option Text) : Text :=
  Provider.mainName l.stem ++ (supplement.map ('+' :: ·)).getD []

/-- The directory that is written to. -/
def outDir (given : Given) : Text := (given.value? outDirOption).getD defaultOutDir

/-- What is printed in the end. -/
def summary (indexPath payloadPath : Text) (t : Tally) : Text :=
  "Wrote ".toList ++ indexPath ++ " and ".toList ++ payloadPath ++ " (".toList
    ++ Text.ofNat t.lines ++ " lines, ".toList ++ Text.ofNat t.skipped ++ " skipped)\n".toList

/-- Writes the two halves of a dictionary under a name. -/
def write (disk : Disk) (outDir name : Text) (t : Tally) : Outcome :=
  let indexPath := Path.join outDir (name ++ Provider.indexEnding)
  let payloadPath := Path.join outDir (name ++ Provider.payloadEnding)
  let written := Disk.andThen (disk.makeDirectories outDir) fun disk =>
    disk.writeLexicon indexPath payloadPath t.draft.build
  match written with
  | (.ok (), disk) => .success disk (summary indexPath payloadPath t)
  | (.error _, disk) => .failure disk

/-- The locale of the dictionary. -/
def localeOf (given : Given) : Locale := ⟨(given.value? localeOption).getD []⟩

/-- The name of the dictionary that the options ask for. -/
def nameOf (given : Given) : Text :=
  dictionaryName (localeOf given) (given.value? supplementOption)

/-- The paths that the command looks at. -/
def paths (given : Given) : List Text :=
  given.values inputsOption
    ++ [Provider.indexEnding, Provider.payloadEnding].map fun ending =>
      Path.join (outDir given) (nameOf given ++ ending)

/-- Runs the command with the options that were given. -/
def run (disk : Disk) (given : Given) : Outcome :=
  match (given.values inputsOption).foldlM (addInput (given.has lenientOption) disk)
      { draft := { locale := localeOf given } } with
  | .ok tally => write disk (outDir given) (nameOf given) tally
  | .error _ => .failure disk

end Compile

/-- Compiles word lists. -/
def compile (disk : Disk) (args : List Text) : Outcome :=
  match parseArguments Compile.rules args with
  | .given options => Compile.run disk options
  | .help full => .success disk (Compile.command.help full)
  | .invalid => .misuse disk

end Typeahead.CommandLine
