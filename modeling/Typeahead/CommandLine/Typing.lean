import Typeahead.CommandLine.Help
import Typeahead.CommandLine.Outcome
import Typeahead.Engine.Action
import Typeahead.Engine.Report
import Typeahead.Path
import Typeahead.Settings.File

/-! # The command that types

`type` takes each line of its input for a sentence and types it word by word. For each word it
prints what the strip shows, commits the correction or else the word itself, and learns what was
committed. -/

namespace Typeahead.CommandLine

namespace Typing

/-- The name of the option for the data directory. -/
def dataDirOption : Text := "data-dir".toList

/-- The name of the option for the primary locale. -/
def localeOption : Text := "locale".toList

/-- The name of the option for the secondary locales. -/
def secondaryOption : Text := "secondary".toList

/-- The name of the option for the settings file. -/
def settingsOption : Text := "settings".toList

/-- The name of the option for the account. -/
def accountOption : Text := "account".toList

/-- The name of the option that prints for other programs. -/
def jsonOption : Text := "json".toList

/-- The name of the option that leaves the history alone. -/
def noLearnOption : Text := "no-learn".toList

/-- The name of the option that prints the state in the end. -/
def dumpOption : Text := "dump".toList

/-- The primary locale where none is given. -/
def defaultLocale : Text := "en".toList

/-- The options of the command. -/
def rules : List OptionRule :=
  [{ name := dataDirOption, arity := .one, takesPaths := true
     about := "Directory holding dictionaries and blacklists".toList },
    { name := localeOption, arity := .one, fallback := some defaultLocale },
    { name := secondaryOption, arity := .many
      about := "Additional locales; overrides the settings file".toList },
    { name := settingsOption, arity := .one, takesPaths := true, about := "Settings TOML".toList },
    { name := accountOption, arity := .one },
    { name := jsonOption, arity := .none
      about := "Print every request as one JSON object per line".toList },
    { name := noLearnOption, arity := .none, about := "Leave user history untouched".toList },
    { name := dumpOption, arity := .none
      about := "Print the dictionary state before exiting".toList }]

/-- The command. -/
def command : Command where
  name := "suggest".toList
  about := ("Types each line of stdin word by word and prints what the suggestion strip would "
    ++ "show, committing auto-corrections as it goes").toList
  rules := rules

/-- The settings of the file that was given, or else the defaults. -/
def settingsFile? (disk : Disk) (given : Given) : Option Settings :=
  match given.value? settingsOption with
  | none => some {}
  | some path => (disk.text? path).bind Settings.read?

/-- The settings, of which options replace some. -/
def settings? (disk : Disk) (given : Given) : Option Settings :=
  (settingsFile? disk given).map fun s =>
    { s with
      dataDir := given.value? dataDirOption <|> s.dataDir
      secondaryLocales :=
        if given.has secondaryOption then given.values secondaryOption else s.secondaryLocales }

/-- The data directory. -/
def dataDir (s : Settings) : Text := s.dataDir.getD "data".toList

/-- The paths that the command looks at before it has its settings. -/
def settingsPaths (given : Given) : List Text := (given.value? settingsOption).toList

/-- What the command asks of the engine before the first word. -/
def resetRequest (s : Settings) (given : Given) : ResetRequest where
  primary := ⟨(given.value? localeOption).getD defaultLocale⟩
  secondary := s.secondaryLocales.map Locale.mk
  contacts := s.usesContacts
  personalized := s.usesPersonalized
  account := given.value? accountOption

/-- The paths that the command looks at once it has its settings. -/
def dataPaths (disk : Disk) (given : Given) : List Text :=
  match settings? disk given with
  | none => []
  | some s =>
    let r := resetRequest s given
    dataDir s :: r.locales.flatMap fun l =>
      (Provider.namesFor l r.account r.origins).map (Path.join (dataDir s))

/-- The engine before the first word, with all dictionaries loaded. -/
def startEngine (disk : Disk) (s : Settings) (given : Given) : Engine :=
  ((Engine.start (.directory (dataDir s) .nfc) s disk).reset (resetRequest s given)).drain

/-- Where typing stands: the engine, the number of requests made, and what was printed. -/
structure Progress where
  engine : Engine
  requests : Nat := 0
  output : Text := []

/-- A text filled up with blanks to at least sixteen characters. -/
def padded (t : Text) : Text := t ++ List.replicate (16 - t.length) ' '

/-- A strip and what was committed, for people. -/
def showStrip (strip : Strip) (committed : Text) : Text :=
  let typed := strip.typed.getD []
  let words := Text.join [',', ' '] (strip.suggestions.map (·.word))
  let head := if typed = committed then typed else typed ++ " -> ".toList ++ committed
  padded head ++ " [".toList ++ words ++ [']']

/-- A candidate for other programs; the fields stand in the order of their names. -/
def candidateJson (c : Candidate) : Json :=
  .object
    [("dictionary".toList, .string c.source.origin.name),
      ("locale".toList, .ofOption (c.source.locale.map (·.tag))),
      ("score".toList, .integer c.score),
      ("word".toList, .string c.word)]

/-- A strip and what was committed, for other programs; the fields stand in the order of their
names. -/
def stripJson (strip : Strip) (committed : Text) : Json :=
  .object
    [("committed".toList, .string committed),
      ("input_style".toList, .string strip.style.title),
      ("suggestions".toList, .array (strip.suggestions.map candidateJson)),
      ("typed".toList, .ofOption strip.typed),
      ("typed_word_valid".toList, .bool strip.typedValid),
      ("will_auto_correct".toList, .bool strip.corrects)]

/-- The request for a word in a context. -/
def request (s : Settings) (c : Context) (word : Text) (number : Nat) : SuggestRequest where
  composer := .ofWord word
  context := c
  settings := s
  enabled := s.autoCorrection
  sequence := number

/-- Types one word in a context, at a time, and says what was committed. -/
def typeWord (s : Settings) (given : Given) (time : Nat) (c : Context) (p : Progress)
    (word : Text) : Text × Progress :=
  let (strip, engine) := p.engine.suggest (request s c word p.requests)
  let committed := (strip.correction.map (·.word)).getD word
  let shown :=
    if given.has jsonOption then (stripJson strip committed).compact else showStrip strip committed
  let engine :=
    if given.has noLearnOption then engine
    else (engine.commit committed false c time s.blocksOffensive).drain
  (committed, ⟨engine, p.requests + 1, p.output ++ shown ++ ['\n']⟩)

/-- Types the words of a sentence in order: the words committed, and how far it got. -/
def typeWords (s : Settings) (given : Given) (time : Nat) :
    Context → Progress → List Text → List Text × Progress
  | _, p, [] => ([], p)
  | c, p, word :: rest =>
    let (committed, p) := typeWord s given time c p word
    let (more, p) := typeWords s given time (c.next (.word committed)) p rest
    (committed :: more, p)

/-- Types a line. The sentence that came of it is printed for people. -/
def typeLine (s : Settings) (given : Given) (time : Nat) (p : Progress) (line : Text) : Progress :=
  let (sentence, p) := typeWords s given time .start p (Text.words line)
  if given.has jsonOption || sentence.isEmpty then p
  else { p with output := p.output ++ "=> ".toList ++ Text.join [' '] sentence ++ ['\n'] }

/-- The state of the engine as it is printed in the end. -/
def dump (e : Engine) : Text := e.dump.pretty ++ ['\n']

/-- Runs the command with the options that were given, at a time. -/
def run (disk : Disk) (given : Given) (input : Text) (time : Nat) : Outcome :=
  match settings? disk given with
  | none => .failure disk
  | some s =>
    let p := (Text.lines input).foldl (typeLine s given time) { engine := startEngine disk s given }
    .success p.engine.shutDown
      (p.output ++ if given.has dumpOption then dump p.engine else [])

end Typing

/-- Types the lines of `input`. -/
def type (disk : Disk) (args : List Text) (input : Text) (time : Nat) : Outcome :=
  match parseArguments Typing.rules args with
  | .given options => Typing.run disk options input time
  | .help full => .success disk (Typing.command.help full)
  | .invalid => .misuse disk

end Typeahead.CommandLine
