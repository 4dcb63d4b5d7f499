import Typeahead.Engine.Learning
import Typeahead.Engine.Locales
import Typeahead.Engine.Suggest
import Typeahead.Engine.Work

/-! # Actions

All that can happen to an engine, as one type: what is asked of it from outside, and one step of the
work that waits in the background. `Engine.perform` does an action, `Engine.after` a list of
them. -/

namespace Typeahead

/-- Something that happens to an engine. -/
inductive Action where
  | reset (request : ResetRequest)
  | close
  | restart
  | setSettings (settings : Settings)
  | clearPredictions
  | commit (text : Text) (autoCapitalized : Bool) (context : Context) (time : Nat) (block : Bool)
  | unlearn (word : Text) (why : Engine.Reason)
  | remove (word : Text)
  | clearHistory
  | suggest (request : SuggestRequest)
  | predict (context : Context) (block : Bool)
  | add (group : Nat) (origin : Origin) (word : Text) (frequency : Nat)
  | work
  deriving DecidableEq, Repr

namespace Engine

/-- Adds a word to a store of the group at a place, if both exist. -/
def addWord (e : Engine) (place : Nat) (o : Origin) (w : Text) (f : Nat) : Engine :=
  match (e.groups[place]?).bind (·.sub? o) with
  | none => e
  | some s =>
    match s.add w f with
    | .ok s => e.putStore s
    | .error _ => e

/-- The engine after an action. -/
def perform (e : Engine) : Action → Engine
  | .reset r => e.reset r
  | .close => e.close
  | .restart => e.restart
  | .setSettings s => e.setSettings s
  | .clearPredictions => e.clearPredictions
  | .commit text auto c time block => e.commit text auto c time block
  | .unlearn w why => e.unlearn w why
  | .remove w => e.removeWord w
  | .clearHistory => e.clearHistory
  | .suggest r => (e.suggest r).2
  | .predict c block => e.rememberNextWords c block
  | .add n o w f => e.addWord n o w f
  | .work => e.runNext

/-- The engine after some actions. -/
def after (e : Engine) (as : List Action) : Engine := as.foldl perform e

end Engine

end Typeahead
