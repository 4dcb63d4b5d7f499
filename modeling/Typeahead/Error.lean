import Typeahead.Text.Quoted

/-! # Errors

What can go wrong when dictionaries are built, opened and changed. Only two causes have a wording of
their own. -/

namespace Typeahead

/-- The cause of a failure. -/
inductive Failure where
  | io
  | badIndex
  | badPayload
  | badStore
  | noDictionary
  | invalidWord (word : Text)
  | invalidData (reason : Text)
  deriving DecidableEq, Repr

namespace Failure

/-- The wording of a failure, where it has one. -/
def message? : Failure → Option Text
  | invalidWord w => some ("invalid word: ".toList ++ Text.quoted w)
  | invalidData reason => some ("invalid dictionary data: ".toList ++ reason)
  | _ => none

end Failure

end Typeahead
