import Typeahead.Text.Basic

/-! # The keyboard

What a keyboard says about itself when suggestions are asked for: its shift state and the purpose of
the field that is typed into. -/

namespace Typeahead

/-- The shift state. -/
inductive CapsMode where
  | off
  | manualShifted
  | manualLocked
  | autoShifted
  | autoLocked
  deriving DecidableEq, Repr, Inhabited

namespace CapsMode

/-- The shift state is a lock. -/
def isLocked : CapsMode → Bool
  | manualLocked | autoLocked => true
  | _ => false

/-- The shift state holds for one letter. -/
def isOneShot : CapsMode → Bool
  | manualShifted | autoShifted => true
  | _ => false

/-- The keyboard chose the shift state by itself. -/
def isAutomatic : CapsMode → Bool
  | autoShifted | autoLocked => true
  | _ => false

end CapsMode

/-- The purpose of a field. -/
inductive Purpose where
  | freeForm
  | email
  | url
  | password
  | number
  | phone
  deriving DecidableEq, Repr, Inhabited

namespace Purpose

/-- A field in which what was typed must stand as it is. -/
def isAddress : Purpose → Bool
  | email | url => true
  | _ => false

end Purpose

/-- How suggestions came about. -/
inductive InputStyle where
  | none
  | typing
  | updateBatch
  | tailBatch
  | applicationSpecified
  | recorrection
  | prediction
  | startPrediction
  deriving DecidableEq, Repr, Inhabited

namespace InputStyle

/-- Nothing was typed. -/
def isPrediction : InputStyle → Bool
  | prediction | startPrediction => true
  | _ => false

/-- The name of a style in reports. -/
def title : InputStyle → Text
  | none => "None".toList
  | typing => "Typing".toList
  | updateBatch => "UpdateBatch".toList
  | tailBatch => "TailBatch".toList
  | applicationSpecified => "ApplicationSpecified".toList
  | recorrection => "Recorrection".toList
  | prediction => "Prediction".toList
  | startPrediction => "BeginningOfSentencePrediction".toList

/-- The input was a gesture. -/
def isBatch : InputStyle → Bool
  | updateBatch | tailBatch => true
  | _ => false

end InputStyle

end Typeahead
