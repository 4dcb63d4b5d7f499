import Typeahead.CommandLine.Options

/-! # Help on commands

The help on a command says what it does, how it is used, and which options it has: in short with a
line for each option, in full with a paragraph for each. -/

namespace Typeahead.CommandLine

/-- A command: its name, what it is for in a sentence, what there is to add, and its options. -/
structure Command where
  name : Text
  about : Text
  details : Option Text := none
  rules : List OptionRule

namespace OptionRule

/-- The rule of the option that asks for help. -/
def help (about : Text) : OptionRule := { name := "help".toList, arity := .none, about }

/-- The name of the option's value, as help shows it. -/
def valueName (r : OptionRule) : Text :=
  let name := r.name.map fun c => if c = '-' then '_' else c.toUpper
  match r.arity with
  | .none => []
  | .one => '<' :: name ++ ['>']
  | .many => '<' :: name ++ ['>', '.', '.', '.']

/-- The option with its value, as it is written. -/
def usage (r : OptionRule) : Text :=
  let flag := '-' :: '-' :: r.name
  if r.arity = .none then flag else flag ++ ' ' :: r.valueName

/-- The option with its value and its short form, if it has one. -/
def label (r : OptionRule) : Text :=
  (if r.name = "help".toList then "  -h, ".toList else List.replicate 6 ' ') ++ r.usage

/-- What is said of the value that stands for a missing option. -/
def fallbackNote (r : OptionRule) : List Text :=
  (r.fallback.map fun v => "[default: ".toList ++ v ++ [']']).toList

/-- What is said of the option. -/
def notes (r : OptionRule) : List Text :=
  (if r.about.isEmpty then [] else [r.about]) ++ r.fallbackNote

end OptionRule

namespace Command

/-- How the command is used: what has to be given is listed. -/
def usage (c : Command) : Text :=
  "Usage: ".toList ++ c.name ++ " [OPTIONS]".toList
    ++ (c.rules.filter (·.required)).flatMap fun r => ' ' :: r.usage

/-- The short help: each option on a line, with what is said of it in a second column. -/
def shortHelp (c : Command) (helpAbout : Text) : Text :=
  let rules := c.rules ++ [.help helpAbout]
  let width := rules.foldl (fun n r => max n r.label.length) 0 + 2
  let line (r : OptionRule) : Text :=
    r.label ++ List.replicate (width - r.label.length) ' ' ++ Text.join [' '] r.notes ++ ['\n']
  c.about ++ '\n' :: '\n' :: c.usage ++ "\n\nOptions:\n".toList ++ rules.flatMap line

/-- The full help: each option in a paragraph of its own. -/
def fullHelp (c : Command) (details : Text) : Text :=
  let indent := List.replicate 10 ' '
  let paragraph (r : OptionRule) : Text :=
    r.label ++ '\n' :: indent ++ Text.join ('\n' :: indent ++ '\n' :: indent) r.notes ++ ['\n']
  let rules := c.rules ++ [.help "Print help (see a summary with '-h')".toList]
  c.about ++ '.' :: '\n' :: '\n' :: details ++ '\n' :: '\n' :: c.usage ++ "\n\nOptions:\n".toList
    ++ Text.join ['\n'] (rules.map paragraph)

/-- The help on the command. Where there is nothing to add, the full help is the short one. -/
def help (c : Command) (full : Bool) : Text :=
  match c.details with
  | none => c.shortHelp "Print help".toList
  | some details =>
    if full then c.fullHelp details
    else c.shortHelp "Print help (see more with '--help')".toList

end Command

end Typeahead.CommandLine
