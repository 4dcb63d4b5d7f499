import Typeahead.Disk

/-! # Outcomes of commands -/

namespace Typeahead.CommandLine

/-- What a command leaves behind: an exit code, what it printed, and the disk. -/
structure Outcome where
  code : Nat
  output : Text := []
  disk : Disk
  deriving DecidableEq, Repr

namespace Outcome

/-- The command succeeded. -/
def success (disk : Disk) (output : Text) : Outcome := ⟨0, output, disk⟩

/-- The command failed. -/
def failure (disk : Disk) : Outcome := ⟨1, [], disk⟩

/-- The arguments were not understood. -/
def misuse (disk : Disk) : Outcome := ⟨2, [], disk⟩

end Outcome

end Typeahead.CommandLine
