import Typeahead.Text.Basic

/-! # Command-line options

A command has options with long names. An option stands for itself, or takes one value, or takes all
values up to the next option; an equals sign may join a name and one value. There are no other
arguments. `parseArguments` reads arguments one after another and keeps what is still open. -/

namespace Typeahead.CommandLine

/-- How many values an option takes. -/
inductive Arity where
  | none
  | one
  | many
  deriving DecidableEq, Repr

/-- An option of a command. -/
structure OptionRule where
  name : Text
  arity : Arity
  required : Bool := false
  /-- The option takes paths, which may not be empty. -/
  takesPaths : Bool := false
  /-- The value that stands for the option where it is missing. -/
  fallback : Option Text := none
  /-- What the option is for. -/
  about : Text := []
  deriving DecidableEq, Repr

/-- The options that were given, with their values. -/
abbrev Given := List (Text × List Text)

/-- What arguments amount to. -/
inductive Parsed where
  | given (options : Given)
  | help (full : Bool)
  | invalid
  deriving DecidableEq, Repr

/-- How far reading has come: what is complete, and the option that still takes values. -/
inductive Reading where
  | going (done : Given) (current : Option (OptionRule × List Text))
  /-- No more arguments may follow. -/
  | ended (done : Given)
  /-- Help is asked for, in full or in short. -/
  | help (full : Bool)
  | invalid
  deriving DecidableEq, Repr

namespace Reading

/-- The values of an option that was given. -/
def put (done : Given) (name : Text) (values : List Text) : Given :=
  match done with
  | [] => [(name, values)]
  | (n, vs) :: rest =>
    if n = name then (n, vs ++ values) :: rest else (n, vs) :: put rest name values

/-- An option is complete with its values. Only one that takes many may be given more than once. -/
def complete (done : Given) (rule : OptionRule) (values : List Text) : Option Given :=
  if rule.takesPaths && values.any (·.isEmpty) then none
  else if rule.arity != .many && done.any (·.1 == rule.name) then none
  else some (put done rule.name values)

/-- The option that still takes values is complete, if it has one. -/
def settle (done : Given) : Option (OptionRule × List Text) → Option Given
  | none => some done
  | some (rule, values) => if values.isEmpty then none else complete done rule values

/-- Opens an option, with the value behind its equals sign. -/
def openOption (done : Given) (rule : OptionRule) (attached : Option Text) : Reading :=
  match rule.arity, attached with
  | .none, none => ((complete done rule []).map fun done => going done none).getD invalid
  | .none, some _ => invalid
  | _, some v => ((complete done rule [v]).map fun done => going done none).getD invalid
  | _, none => going done (some (rule, []))

/-- Reads a value. -/
def addValue (done : Given) (current : Option (OptionRule × List Text)) (v : Text) : Reading :=
  match current with
  | none => invalid
  | some (rule, values) =>
    if rule.arity = .many then going done (some (rule, values ++ [v]))
    else ((complete done rule [v]).map fun done => going done none).getD invalid

/-- The name and the value of an argument without its two dashes. -/
def splitName (s : Text) : Text × Option Text :=
  let name := s.takeWhile (· != '=')
  (name, if name.length = s.length then none else some (s.drop (name.length + 1)))

/-- The argument is an option and not a value. -/
def isOption : Text → Bool
  | '-' :: _ :: _ => true
  | _ => false

/-- Reads an argument that is an option. -/
def addOption (rules : List OptionRule) (done : Given) (arg : Text) : Reading :=
  match arg with
  | '-' :: '-' :: [] => ended done
  | '-' :: '-' :: rest =>
    let (name, attached) := splitName rest
    if name = ['h', 'e', 'l', 'p'] then if attached.isNone then help true else invalid
    else match rules.find? (·.name == name) with
      | some rule => openOption done rule attached
      | none => invalid
  | '-' :: 'h' :: _ => help false
  | _ => invalid

/-- Reads one argument. -/
def step (rules : List OptionRule) (r : Reading) (arg : Text) : Reading :=
  match r with
  | going done current =>
    if isOption arg then
      match settle done current with
      | some done => addOption rules done arg
      | none => invalid
    else addValue done current arg
  | ended _ => invalid
  | help full => help full
  | invalid => invalid

/-- All required options are among those given. -/
def isSufficient (rules : List OptionRule) (done : Given) : Bool :=
  rules.all fun rule => !rule.required || done.any (·.1 == rule.name)

/-- What the arguments amount to once all are read. -/
def finish (rules : List OptionRule) (r : Reading) : Parsed :=
  let checked (done : Given) : Parsed := if isSufficient rules done then .given done else .invalid
  match r with
  | going done current => ((settle done current).map checked).getD .invalid
  | ended done => checked done
  | help full => .help full
  | invalid => .invalid

end Reading

/-- Reads the arguments of a command. -/
def parseArguments (rules : List OptionRule) (args : List Text) : Parsed :=
  Reading.finish rules (args.foldl (Reading.step rules) (.going [] none))

namespace Given

/-- The option was given. -/
def has (g : Given) (name : Text) : Bool := g.any (·.1 == name)

/-- The values of an option. -/
def values (g : Given) (name : Text) : List Text := ((g.find? (·.1 == name)).map (·.2)).getD []

/-- The value of an option that takes one. -/
def value? (g : Given) (name : Text) : Option Text := (values g name).head?

end Given

end Typeahead.CommandLine
