import Typeahead.Text.Basic

/-! # Maps from texts

A map from texts is the list of its entries by increasing key. All changes go through `alter`, which
keeps the order, so that maps with the same entries are equal. -/

namespace Typeahead

/-- A map from texts, as the list of its entries by increasing key. -/
abbrev WordMap (α : Type) := List (Text × α)

namespace WordMap

variable {α : Type}

/-- The value of a key. -/
def get? (m : WordMap α) (k : Text) : Option α := (m.find? (·.1 == k)).map (·.2)

/-- The map has the key. -/
def has (m : WordMap α) (k : Text) : Bool := m.any (·.1 == k)

/-- Sets, changes or removes the value of a key by what `f` makes of it. -/
def alter (k : Text) (f : Option α → Option α) : WordMap α → WordMap α
  | [] => ((f none).map (k, ·)).toList
  | (k', v) :: rest =>
    match compare k k' with
    | .lt => ((f none).map (k, ·)).toList ++ (k', v) :: rest
    | .eq => ((f (some v)).map (k, ·)).toList ++ rest
    | .gt => (k', v) :: alter k f rest

/-- Sets the value of a key. -/
def set (k : Text) (v : α) (m : WordMap α) : WordMap α := alter k (fun _ => some v) m

/-- Removes a key. -/
def erase (k : Text) (m : WordMap α) : WordMap α := alter k (fun _ => none) m

/-- Sets a key to the greater of the number it has and `n`. -/
def raise (k : Text) (n : Nat) (m : WordMap Nat) : WordMap Nat :=
  alter k (fun old => some (max (old.getD n) n)) m

/-- The keys, in order. -/
def keys (m : WordMap α) : List Text := m.map (·.1)

/-- A set of texts as a map: the texts by increasing order. -/
def ofKeys (ks : List Text) : WordMap Unit := ks.foldl (fun m k => set k () m) []

end WordMap

end Typeahead
