import Typeahead.Number.Single

/-! # Values of settings files

A settings file in TOML is a table of named values. A table remembers how it came about, because
that decides what may still be added to it: a table that was only implied by the header of another
one may get a header of its own, one made by dotted keys may get more dotted keys, and one written
between braces is complete.

* `Toml.follow` goes down a path of tables and changes the one that it leads to.
* `Toml.assign`, `Toml.openTable` and `Toml.openItem` do what one line of a file says. -/

namespace Typeahead

/-- How a table came about. -/
inductive TableOrigin where
  | header
  | implied
  | dotted
  | inline
  deriving DecidableEq, Repr, Inhabited

namespace TableOrigin

/-- Dotted keys may lead through the table. -/
def isOpen : TableOrigin → Bool
  | implied | dotted => true
  | header | inline => false

end TableOrigin

/-- A value of a settings file. Of a date only its being one is kept. -/
inductive Toml where
  | string (t : Text)
  | integer (n : Int)
  | float (x : Single)
  | bool (b : Bool)
  | dateTime
  | array (items : List Toml)
  | tables (items : List Toml)
  | table (origin : TableOrigin) (fields : List (Text × Toml))
  deriving Repr, Inhabited

namespace Toml

/-- The fields of a table. -/
abbrev Fields := List (Text × Toml)

/-- The value of a field. -/
def field? (fields : Fields) (key : Text) : Option Toml := (fields.find? (·.1 == key)).map (·.2)

/-- The fields with another value of a key, which is put last if it is new. -/
def setField (key : Text) (v : Toml) : Fields → Fields
  | [] => [(key, v)]
  | f :: rest => if f.1 == key then (key, v) :: rest else f :: setField key v rest

/-- Changes the table that a path leads to. Tables that are missing are made. A path of dotted keys
leads only through tables that are open to them; other paths also lead to the last table of a
list. -/
def follow (viaDots : Bool) (change : TableOrigin → Fields → Option (TableOrigin × Fields)) :
    List Text → TableOrigin → Fields → Option (TableOrigin × Fields)
  | [], origin, fields => change origin fields
  | key :: path, origin, fields =>
    match field? fields key with
    | none =>
      (follow viaDots change path (if viaDots then .dotted else .implied) []).map fun (o, fs) =>
        (origin, setField key (.table o fs) fields)
    | some (.table .inline _) => none
    | some (.table o fs) =>
      if viaDots && !o.isOpen then none
      else (follow viaDots change path o fs).map fun (o, fs) =>
        (origin, setField key (.table o fs) fields)
    | some (.tables items) =>
      match items.getLast? with
      | some (.table o fs) =>
        (follow viaDots change path o fs).map fun (o, fs) =>
          (origin, setField key (.tables (items.dropLast ++ [.table o fs])) fields)
      | _ => none
    | some _ => none

/-- Adds a field to a table that has none of its name. A table that dotted keys lead to has to be
made by dotted keys. -/
def addField (viaDots : Bool) (key : Text) (v : Toml) (origin : TableOrigin) (fields : Fields) :
    Option (TableOrigin × Fields) :=
  if (viaDots && origin != .dotted) || (field? fields key).isSome then none
  else some (origin, setField key v fields)

/-- Assigns a value to a dotted key, whose last part is `key`. -/
def assign (path : List Text) (key : Text) (v : Toml) (origin : TableOrigin) (fields : Fields) :
    Option (TableOrigin × Fields) :=
  follow true (addField (!path.isEmpty) key v) path origin fields

/-- Gives a table a header; it has to be new, or implied by others. -/
def openTable (key : Text) (origin : TableOrigin) (fields : Fields) :
    Option (TableOrigin × Fields) :=
  match field? fields key with
  | none => some (origin, setField key (.table .header []) fields)
  | some (.table .implied fs) => some (origin, setField key (.table .header fs) fields)
  | some _ => none

/-- Adds a table to a list of tables, which may be new. -/
def openItem (key : Text) (origin : TableOrigin) (fields : Fields) :
    Option (TableOrigin × Fields) :=
  match field? fields key with
  | none => some (origin, setField key (.tables [.table .header []]) fields)
  | some (.tables items) =>
    some (origin, setField key (.tables (items ++ [.table .header []])) fields)
  | some _ => none

end Toml

end Typeahead
