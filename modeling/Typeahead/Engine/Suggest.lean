import Typeahead.Engine.Lookup
import Typeahead.Strip

/-! # Suggesting

`Engine.suggest` answers a request of the keyboard. A word typed key by key is looked up as it
stands, and where nothing was typed, the context's predictions stand for candidates. A gesture is
looked up as one. The predictions of the context are remembered where they were looked at. -/

namespace Typeahead

/-- A request of the keyboard. -/
structure SuggestRequest where
  composer : Composer
  context : Context
  caps : CapsMode := .off
  purpose : Purpose := .freeForm
  settings : Settings
  enabled : Bool := true
  style : InputStyle := .typing
  sequence : Int := 0
  deriving DecidableEq, Repr

namespace SuggestRequest

/-- What the dictionaries are asked. -/
def lookup (r : SuggestRequest) : Request where
  typed := r.composer.word
  gesture := r.composer.batch || r.style.isBatch
  context := r.context
  block := r.settings.blocksOffensive

/-- The request is about the context alone. -/
def isPrediction (r : SuggestRequest) : Bool := !r.composer.batch && r.composer.word.isEmpty

end SuggestRequest

namespace Engine

/-- The words predicted where a request was made. -/
def predictionsFor (e : Engine) (r : SuggestRequest) : Ranking :=
  e.nextWords r.context r.settings.blocksOffensive

/-- The case of a word typed key by key. -/
def typingCase (e : Engine) (r : SuggestRequest) : TypingCase where
  settings := r.settings
  enabled := r.enabled
  composer := r.composer
  caps := r.caps
  purpose := r.purpose
  style := r.style
  sequence := r.sequence
  currentLocale := some e.preferred.locale
  hasMain := e.hasReadyMain
  results := if r.isPrediction then e.predictionsFor r else e.candidates r.lookup
  nextWords := e.predictionsFor r

/-- The case of a gesture. -/
def gestureCase (e : Engine) (r : SuggestRequest) : GestureCase where
  settings := r.settings
  composer := r.composer
  caps := r.caps
  style := r.style
  sequence := r.sequence
  results := e.candidates r.lookup
  nextWords := e.predictionsFor r

/-- The strip for a request. -/
def strip (e : Engine) (r : SuggestRequest) : Strip :=
  if r.composer.batch then (e.gestureCase r).strip else (e.typingCase r).strip

/-- The context's predictions are looked at for a request. -/
def looksAhead (e : Engine) (r : SuggestRequest) : Bool :=
  r.composer.batch || r.isPrediction || (e.typingCase r).decision.probed

/-- The strip for a request, and the engine that remembers what was looked at. -/
def suggest (e : Engine) (r : SuggestRequest) : Strip × Engine :=
  (e.strip r,
    if e.looksAhead r then e.rememberNextWords r.context r.settings.blocksOffensive else e)

end Engine

end Typeahead
