/-! # Task queues

Work that is done in the background by one worker, in the order in which it was queued. A task that
can be cancelled takes along the token that the queue issues at the time. `cancelWaiting` revokes
that token and issues another one; a task whose token is revoked is passed over when its turn comes.
`TaskQueue.pending` is kept by counting: a task is counted in when it is queued, and counted off
when it is done, broke off or is passed over. -/

namespace Typeahead

/-- A queued task; one that can be cancelled holds a token. -/
structure Queued (α : Type) where
  task : α
  token : Option Nat := none
  deriving DecidableEq, Repr

/-- What becomes of a queued task if nothing else happens. -/
structure Waiting (α : Type) where
  task : α
  cancelled : Bool := false
  deriving DecidableEq, Repr

/-- What one worker has before it, and whether it is at work. -/
structure TaskQueue (α : Type) where
  queued : List (Queued α) := []
  running : Option α := none
  pending : Nat := 0
  token : Nat := 0
  revoked : List Nat := []
  deriving DecidableEq, Repr, Inhabited

namespace TaskQueue

variable {α σ : Type}

/-- Counts a task in. -/
def enter (q : TaskQueue α) : TaskQueue α := { q with pending := q.pending + 1 }

/-- Counts a task off. -/
def exit (q : TaskQueue α) : TaskQueue α := { q with pending := q.pending - 1 }

/-- Queues a task with its token. -/
def enqueue (q : TaskQueue α) (t : α) (token : Option Nat) : TaskQueue α :=
  { q.enter with queued := q.queued ++ [⟨t, token⟩] }

/-- Queues a task that always runs. -/
def push (q : TaskQueue α) (t : α) : TaskQueue α := q.enqueue t none

/-- Queues a task that can be cancelled. -/
def pushCancellable (q : TaskQueue α) (t : α) : TaskQueue α := q.enqueue t (some q.token)

/-- Cancels the queued tasks that can be cancelled. -/
def cancelWaiting (q : TaskQueue α) : TaskQueue α :=
  { q with revoked := q.token :: q.revoked, token := q.token + 1 }

/-- The token of a queued task is revoked. -/
def isCancelled (q : TaskQueue α) (w : Queued α) : Bool := w.token.any q.revoked.contains

/-- The queued tasks as things stand. -/
def waiting (q : TaskQueue α) : List (Waiting α) := q.queued.map fun w => ⟨w.task, q.isCancelled w⟩

/-- The worker, if it is free, turns to the next task; a cancelled one is passed over. -/
def start (q : TaskQueue α) : TaskQueue α :=
  match q.running, q.queued with
  | none, w :: rest =>
    let q := { q with queued := rest }
    if q.isCancelled w then q.exit else { q with running := some w.task }
  | _, _ => q

/-- The worker is rid of its task, whether that was done or broke off. -/
def finish (q : TaskQueue α) : TaskQueue α :=
  match q.running with
  | some _ => { q with running := none }.exit
  | none => q

/-- Does the tasks of a list that are not cancelled, in order. A task that breaks off changes
nothing. -/
def runAll (run : α → σ → Option σ) (ws : List (Waiting α)) (s : σ) : σ :=
  ws.foldl (fun s w => if w.cancelled then s else (run w.task s).getD s) s

end TaskQueue

/-- The results of jobs `0` to `n - 1` in the order of the jobs, from reports in any order; a job
that broke off or did not report has none. -/
def joinReports {β : Type} (n : Nat) (reports : List (Nat × Option β)) : List (Option β) :=
  reports.foldl (fun slots (i, r) => slots.set i r) (List.replicate n none)

end Typeahead
