import Typeahead.Engine.Lookup

/-! # Learning and forgetting

A committed text is learned word by word in the preferred locale. The first word of a sentence is
learned as it would be written inside one, and the contexts of the words after it are respelled
accordingly. Changes of stores wait in the background; changes of blacklists hold at once, and only
their files wait. -/

namespace Typeahead

namespace Engine

/-- The frequency from which a lower-case word is taken for what a capitalized one stands for. -/
def lowerCaseFrequency : Int := 140

/-- The history frequency that a word has to exceed before it becomes one of the user's own
words. -/
def promotionFrequency : Int := 120

/-- The engine with `g` in place of the group of its number, and its blacklist waiting to be written
where it has changed and has a file. -/
def putListed (e : Engine) (g : Group) : Engine :=
  let changed := (e.group? g.number).any (·.blacklist.words != g.blacklist.words)
  let e := e.putGroup g
  if changed && g.blacklist.path.isSome then e.queueTask (.writeList g.blacklist.number) else e

/-! ### Confidence -/

/-- The group's confidence after a word was committed. -/
def adjust (w : Text) (autoCapitalized : Bool) (g : Group) : Group :=
  if g.isValid w || (autoCapitalized && g.isValid (Text.decapitalize w)) then g.raiseConfidence
  else g.lowerConfidence

/-- The engine after a word was committed: with several groups, those that know it gain confidence
and the others lose some. -/
def adjustConfidences (e : Engine) (w : Text) (autoCapitalized : Bool) : Engine :=
  if e.groups.length ≤ 1 || w.contains ' ' then e
  else { e with groups := e.groups.map (adjust w autoCapitalized) }

/-! ### Promotion -/

/-- The store of own words that a word is to be added to: the clearly preferred group's, if the word
is valid nowhere in the group but well known in its history. -/
def promotionTarget (gs : List Group) (w : Text) : Option Nat :=
  if w.length ≤ 1 then none
  else match clearlyPreferredGroup gs with
    | none => none
    | some g =>
      match g.sub? .user, g.sub? .history with
      | some user, some history =>
        if g.isValid w || user.contains w || history.frequency w ≤ promotionFrequency then none
        else some user.number
      | _, _ => none

/-- The primary group has a history. -/
def hasPrimaryHistory (e : Engine) : Bool := e.groups.head?.any fun g => g.has .history g.account

/-- The engine after it was seen to whether a word is to be one of the user's own. -/
def promote (e : Engine) (w : Text) (autoCapitalized : Bool) : Engine :=
  if e.settings.promotesWords && e.hasPrimaryHistory && !autoCapitalized then
    match promotionTarget e.groups w with
    | some n => e.queueTask (.promote n w)
    | none => e
  else e

/-! ### Learning -/

/-- How a word is to be learned in a group: its form, and the respelling that is pending then. -/
def learnedForm (g : Group) (pending : Option Respelling) (first : Bool) (w : Text) :
    Text × Option Respelling :=
  if first then
    let small := Text.decapitalize w
    if g.isValid w && !g.isValid small then (w, pending) else (small, some ⟨w, small⟩)
  else
    let small := Text.lower w
    let frequency (v : Text) : Int := (g.main.map (·.frequency v)).getD (-1)
    if frequency w < frequency small && lowerCaseFrequency ≤ frequency small then (small, pending)
    else (w, pending)

/-- The context after the pending respelling, and the respelling if it stays pending. -/
def respelled (pending : Option Respelling) (c : Context) : Context × Option Respelling :=
  match pending with
  | none => (c, none)
  | some s =>
    match c.changeAfterStart? s.written s.learned with
    | some c => (c, pending)
    | none => (c, none)

/-- One word of a committed text is learned in a group, if it has a history and the word is not
blocked. The context comes back as it was respelled. -/
def learnWord (e : Engine) (g : Group) (c : Context) (w : Text) (autoCapitalized : Bool)
    (time : Nat) (block : Bool) : Engine × Context :=
  match g.sub? .history with
  | none => (e, c)
  | some history =>
    let frequency : Int := (g.main.map (·.frequency w)).getD (-1)
    if frequency = 0 && block then (e, c)
    else
      let (c, pending) := respelled e.respelling c
      let (form, pending) := learnedForm g pending (autoCapitalized || c.isStart) w
      ({ e with respelling := pending }.queueTask
        (.learn history.number c form (0 < frequency) time), c)

/-- Takes a word off the blacklists of the groups that are as confident as `confidence`. -/
def unblacklist (e : Engine) (confidence : Nat) (w : Text) : Engine :=
  e.groups.foldl (fun e g =>
    if g.confidence = confidence then e.putListed (g.unblacklistWord w) else e) e

/-- The words of a committed text are learned one after another in the group of a number. -/
def learnWords (number : Nat) (time : Nat) (block : Bool) :
    Engine → Context → Bool → List Text → Engine
  | e, _, _, [] => e
  | e, c, autoCapitalized, w :: rest =>
    let g := (e.group? number).getD default
    let (e, c) := e.learnWord g c w autoCapitalized time block
    let e := e.unblacklist g.confidence w
    learnWords number time block e (c.next (.word w)) false rest

/-- The engine after a text was committed. A single word also counts for the confidences and for
promotion. -/
def commit (e : Engine) (text : Text) (autoCapitalized : Bool) (c : Context) (time : Nat)
    (block : Bool) : Engine :=
  let words := Text.words text
  let e := match words with
    | [w] => (e.adjustConfidences w autoCapitalized).promote w autoCapitalized
    | _ => e
  let e := learnWords e.preferred.number time block e c autoCapitalized words
  e.rememberSpelling text

/-! ### Forgetting -/

/-- Why a word is taken back. -/
inductive Reason where
  | backspace
  | revert
  | recorrection
  | other
  deriving DecidableEq, Repr

/-- The engine after a word was taken back. A backspace alone is no reason to forget it. -/
def unlearn (e : Engine) (w : Text) (why : Reason) : Engine :=
  let e := match why, e.preferred.sub? .history with
    | .backspace, _ | _, none => e
    | _, some history => e.queueTask (.unlearn history.number w)
  e.forgetSpelling w

/-- The engine after the user removed a word. -/
def removeWord (e : Engine) (w : Text) : Engine :=
  let e := e.groups.foldl (fun e g => e.putListed (g.removeWord w)) e
  (e.forgetSpelling w).clearPredictions

/-- A group without its history. -/
def clearedHistory (g : Group) : Group :=
  match (g.sub? .history).map Store.clear with
  | some (.ok s) => g.putStore s
  | _ => g

/-- The engine without the histories of its groups. -/
def clearHistory (e : Engine) : Engine :=
  { e with groups := e.groups.map clearedHistory }.clearPredictions

end Engine

end Typeahead
