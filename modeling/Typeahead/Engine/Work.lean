import Typeahead.Engine.State

/-! # Work in the background

`Engine.runNext` does what waits first. A task about something that is gone does nothing; one that
fails leaves everything as it was, save for directories that it has made by then. -/

namespace Typeahead

namespace Engine

/-- The frequency of a word added to the user's own words. -/
def userFrequency : Nat := 250

/-- The engine after a change of the store of a number, which may fail; `after` follows a change. -/
def changeStore (e : Engine) (n : Nat) (change : Store → Except Failure Store)
    (after : Engine → Engine) : Engine :=
  match e.store? n with
  | none => e
  | some s =>
    match change s with
    | .ok s => after (e.putStore s)
    | .error _ => e

/-- The engine after the main dictionary of a group was asked for. -/
def loadMain (e : Engine) (number : Nat) (l : Locale) : Engine :=
  match e.group? number with
  | none => e
  | some g =>
    let e := { e with loads := e.loads + 1 }
    match e.provider.loadMain e.disk l with
    | .ok d => e.putGroup { g with main := some d }
    | .error _ => e

/-- The engine after a word was forgotten by the store of a number. -/
def forget (e : Engine) (n : Nat) (w : Text) : Engine :=
  match e.store? n with
  | none => e
  | some s =>
    match s.remove w with
    | .ok (held, s) => if held then (e.putStore s).clearPredictions else e.putStore s
    | .error _ => e

/-- The engine after a blacklist was written. -/
def writeList (e : Engine) (n : Nat) : Engine :=
  match e.list? n with
  | none => e
  | some b => { e with disk := (b.persist e.disk).2 }

/-- The engine after a task. -/
def run (e : Engine) : Task → Engine
  | .learn n c w valid time => e.changeStore n (·.use c w valid 1 time) clearPredictions
  | .promote n w => e.changeStore n (·.add w userFrequency) id
  | .unlearn n w => e.forget n w
  | .writeList n => e.writeList n
  | .loadMain n l => e.loadMain n l

/-- The engine after the task that waits first; a cancelled one is passed over. -/
def runNext (e : Engine) : Engine :=
  match e.queue.waiting with
  | [] => e
  | w :: _ =>
    let e := if w.cancelled then e else e.run w.task
    { e with
      queue := e.queue.start.finish
      loading := if w.task.isLoad then e.loading - 1 else e.loading }.settle

/-- The engine after all that waits. -/
def drain (e : Engine) : Engine := e.queue.waiting.foldl (fun e _ => e.runNext) e

end Engine

end Typeahead
