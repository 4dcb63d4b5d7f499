import Mathlib.Data.List.Basic
import Mathlib.Data.List.Induction
import Mathlib.Order.Basic
import Typeahead.TaskQueue

/-! # The turns of queued tasks

A history of a queue is a list of steps: calls and moves of the worker, in any order. `run` follows
a queue through a history. It names a task by the place of the step that queued it, and logs each
turn: which task a step took from the queue, and whether the worker was at it afterwards.

What a history does is said by `Serves`. It follows from the invariant `Inv`, which relates the
token of a queued task to the cancellations so far: a token counts the cancellations before the task
was queued, and the revoked tokens are those that count fewer than there have been by now. Hence a
task is cancelled exactly if a cancellation came after it (`Inv.isCancelled_iff`). -/

namespace Typeahead.TaskQueue

/-! ### Histories -/

/-- What happens to a queue. The task that the worker is at may be done or break off. -/
inductive Step where
  | push
  | pushCancellable
  | cancel
  | start
  | finish (broke : Bool)
  deriving DecidableEq, Repr

/-- The step queues a task. -/
def Step.queues : Step → Bool
  | push | pushCancellable => true
  | _ => false

/-- The queue after a step; a task queued by it is `n`. -/
def step (q : TaskQueue Nat) (n : Nat) : Step → TaskQueue Nat
  | .push => q.push n
  | .pushCancellable => q.pushCancellable n
  | .cancel => q.cancelWaiting
  | .start => q.start
  -- a task that breaks off is counted off like one that is done
  | .finish _ => q.finish

/-- The turn of a task: when it came, and whether the task ran then. -/
structure Turn where
  task : Nat
  time : Nat
  ran : Bool
  deriving DecidableEq, Repr

/-- The turn of the task that the step at a time took from the queue. -/
def turn? (time : Nat) (before after : TaskQueue Nat) : Option Turn :=
  if after.queued.length < before.queued.length then
    before.queued.head?.map fun w => ⟨w.task, time, after.running == some w.task⟩
  else none

/-- A queue with the turns that there were. -/
structure Run where
  queue : TaskQueue Nat := {}
  time : Nat := 0
  turns : List Turn := []

/-- The run after one more step. -/
def Run.next (r : Run) (s : Step) : Run :=
  let q := r.queue.step r.time s
  ⟨q, r.time + 1, r.turns ++ (turn? r.time r.queue q).toList⟩

/-- The run of a history. -/
def run (es : List Step) : Run := es.foldl Run.next {}

/-- The tasks that wait. -/
def Run.waits (r : Run) : List Nat := r.queue.queued.map (·.task)

/-- The tasks that ran, one after the other. -/
def Run.ran (r : Run) : List Nat := (r.turns.filter (·.ran)).map (·.task)

/-- The tasks that a history queues. -/
def submitted (es : List Step) : List Nat :=
  (List.range es.length).filter fun i => es[i]?.any Step.queues

/-- A cancellation lies between two steps. -/
def CancelsWithin (es : List Step) (i j : Nat) : Prop := ∃ k < j, i < k ∧ es[k]? = some .cancel

instance (es : List Step) (i j : Nat) : Decidable (CancelsWithin es i j) := by
  unfold CancelsWithin; infer_instance

theorem run_concat (es : List Step) (s : Step) : run (es ++ [s]) = (run es).next s := by
  simp only [run, List.foldl_append, List.foldl_cons, List.foldl_nil]

/-! ### Places in a history -/

theorem getElem?_concat_of_eq_some {es : List Step} {i : Nat} {e : Step} (h : es[i]? = some e)
    (s : Step) : (es ++ [s])[i]? = some e := by
  have hi : i < es.length := (List.getElem?_eq_some_iff.mp h).1
  rw [List.getElem?_append_left hi, h]

theorem submitted_concat (es : List Step) (s : Step) :
    submitted (es ++ [s]) = submitted es ++ if s.queues then [es.length] else [] := by
  have hold : ∀ i ∈ List.range es.length,
      (es ++ [s])[i]?.any Step.queues = es[i]?.any Step.queues := fun i hi => by
    rw [List.getElem?_append_left (List.mem_range.mp hi)]
  have hlast : (es ++ [s])[es.length]? = some s := List.getElem?_concat_length
  rw [submitted, List.length_append, List.length_singleton, List.range_succ, List.filter_append,
    List.filter_congr hold, List.filter_singleton, hlast, Option.any_some, Bool.cond_eq_ite]
  rfl

theorem pairwise_submitted (es : List Step) : (submitted es).Pairwise (· < ·) :=
  List.pairwise_lt_range.sublist List.filter_sublist

theorem mem_submitted {es : List Step} {i : Nat} {e : Step} (h : es[i]? = some e)
    (he : e.queues = true) : i ∈ submitted es := by
  have hi : i < es.length := (List.getElem?_eq_some_iff.mp h).1
  refine List.mem_filter.mpr ⟨List.mem_range.mpr hi, ?_⟩
  rw [h]
  exact he

/-- Fewer before a place than in all means that there is one from there on. -/
theorem count_take_lt_iff {es : List Step} {s : Step} {i : Nat} :
    (es.take i).count s < es.count s ↔ ∃ k, i ≤ k ∧ es[k]? = some s := by
  have hsplit : es.count s = (es.take i).count s + (es.drop i).count s := by
    rw [← List.count_append, List.take_append_drop]
  rw [hsplit, Nat.lt_add_right_iff_pos, List.count_pos_iff, List.mem_iff_getElem?]
  constructor
  · rintro ⟨k, hk⟩
    rw [List.getElem?_drop] at hk
    exact ⟨i + k, Nat.le_add_right i k, hk⟩
  · rintro ⟨k, hik, hk⟩
    refine ⟨k - i, ?_⟩
    rwa [List.getElem?_drop, Nat.add_sub_cancel' hik]

/-! ### One step -/

/-- **What a start does**: nothing while the worker is at a task or none waits; else the first task
leaves the queue, and is counted off or becomes the running one. -/
theorem start_cases {α : Type} (q : TaskQueue α) :
    (q.start = q ∧ (q.running ≠ none ∨ q.queued = [])) ∨
      ∃ w rest, q.running = none ∧ q.queued = w :: rest ∧
        q.start = if q.isCancelled w then { q with queued := rest, pending := q.pending - 1 }
          else { q with queued := rest, running := some w.task } := by
  rcases hr : q.running with _ | t
  · rcases hq : q.queued with _ | ⟨w, rest⟩
    · exact .inl ⟨by simp only [start, hr, hq], .inr rfl⟩
    · refine .inr ⟨w, rest, rfl, rfl, ?_⟩
      simp only [start, hr, hq]
      rfl
  · exact .inl ⟨by simp only [start, hr], .inl (by simp)⟩

theorem finish_eq {α : Type} (q : TaskQueue α) : q.finish =
    { q with running := none, pending := q.pending - q.running.toList.length } := by
  rcases q with ⟨queued, _ | t, pending, token, revoked⟩ <;> rfl

theorem turn?_of_length_le {time : Nat} {q q' : TaskQueue Nat}
    (h : q.queued.length ≤ q'.queued.length) : turn? time q q' = none :=
  if_neg (Nat.not_lt.mpr h)

theorem turn?_of_cons {time : Nat} {q q' : TaskQueue Nat} {w : Queued Nat}
    (h : q.queued = w :: q'.queued) :
    turn? time q q' = some ⟨w.task, time, q'.running == some w.task⟩ := by
  rw [turn?, if_pos (by rw [h, List.length_cons]; omega), h]
  rfl

/-- A step that is no start leaves the log as it is. -/
theorem turns_next {r : Run} {s : Step} (h : s ≠ .start) : (r.next s).turns = r.turns := by
  have hlen : r.queue.queued.length ≤ (r.queue.step r.time s).queued.length := by
    cases s with
    | push | pushCancellable =>
      simp only [step, push, pushCancellable, enqueue, List.length_append]
      omega
    | cancel => exact Nat.le_refl _
    | start => exact absurd rfl h
    | finish broke => exact Nat.le_of_eq (congrArg (·.queued.length) (finish_eq r.queue)).symm
  simp only [Run.next, turn?_of_length_le hlen, Option.toList_none, List.append_nil]

/-! ### The invariant -/

/-- The token of a queued task is the number of cancellations before it. -/
def Queued.Matches (es : List Step) (w : Queued Nat) : Prop :=
  es[w.task]? = some .push ∧ w.token = none ∨
    es[w.task]? = some .pushCancellable ∧ w.token = some ((es.take w.task).count .cancel)

/-- A turn came after the task was queued, and left out exactly what was cancelled by then. -/
def Turn.Matches (es : List Step) (t : Turn) : Prop :=
  t.task < t.time ∧ es[t.time]? = some .start ∧
    (t.ran = true ↔ es[t.task]? = some .push ∨ ¬ CancelsWithin es t.task t.time)

/-- **The invariant** of a run. -/
structure Inv (es : List Step) (r : Run) : Prop where
  time : r.time = es.length
  tasks : r.turns.map (·.task) ++ r.waits = submitted es
  pending : r.queue.pending = r.queue.queued.length + r.queue.running.toList.length
  token : r.queue.token = es.count .cancel
  revoked : ∀ n, n ∈ r.queue.revoked ↔ n < r.queue.token
  queued : ∀ w ∈ r.queue.queued, Queued.Matches es w
  turns : ∀ t ∈ r.turns, Turn.Matches es t

theorem Queued.Matches.concat {es : List Step} {w : Queued Nat} (h : Queued.Matches es w)
    (s : Step) : Queued.Matches (es ++ [s]) w := by
  rcases h with ⟨hpush, htoken⟩ | ⟨hpush, htoken⟩
  · exact .inl ⟨getElem?_concat_of_eq_some hpush s, htoken⟩
  · have hlt : w.task < es.length := (List.getElem?_eq_some_iff.mp hpush).1
    refine .inr ⟨getElem?_concat_of_eq_some hpush s, ?_⟩
    rw [List.take_append_of_le_length (Nat.le_of_lt hlt), htoken]

theorem cancelsWithin_concat {es : List Step} {s : Step} {i j : Nat} (hj : j ≤ es.length) :
    CancelsWithin (es ++ [s]) i j ↔ CancelsWithin es i j := by
  refine exists_congr fun k => and_congr_right fun hk => ?_
  rw [List.getElem?_append_left (Nat.lt_of_lt_of_le hk hj)]

theorem Turn.Matches.concat {es : List Step} {t : Turn} (h : Turn.Matches es t) (s : Step) :
    Turn.Matches (es ++ [s]) t := by
  obtain ⟨htask, htime, hran⟩ := h
  have hlt : t.time < es.length := (List.getElem?_eq_some_iff.mp htime).1
  refine ⟨htask, getElem?_concat_of_eq_some htime s, ?_⟩
  rw [hran, cancelsWithin_concat (Nat.le_of_lt hlt),
    List.getElem?_append_left (Nat.lt_trans htask hlt)]

/-- **Who is cancelled**: the tasks that can be, once a cancellation came after them. -/
theorem Inv.isCancelled_iff {es : List Step} {r : Run} (h : Inv es r) {w : Queued Nat}
    (hw : w ∈ r.queue.queued) :
    r.queue.isCancelled w = true ↔
      es[w.task]? ≠ some .push ∧ CancelsWithin es w.task es.length := by
  rcases h.queued w hw with ⟨hpush, htoken⟩ | ⟨hpush, htoken⟩
  · simp [isCancelled, htoken, hpush]
  · have hrevoked : r.queue.isCancelled w = true ↔
        ∃ k, w.task ≤ k ∧ es[k]? = some .cancel := by
      rw [isCancelled, htoken, Option.any_some, List.contains_iff_mem, h.revoked, h.token,
        count_take_lt_iff]
    rw [hrevoked, hpush]
    constructor
    · rintro ⟨k, hik, hk⟩
      have hne : w.task ≠ k := by
        rintro rfl
        rw [hpush] at hk
        exact nomatch hk
      exact ⟨by simp, k, (List.getElem?_eq_some_iff.mp hk).1, by omega, hk⟩
    · rintro ⟨-, k, -, hik, hk⟩
      exact ⟨k, Nat.le_of_lt hik, hk⟩

/-- The turn of a queued task, at the end of a history. -/
theorem Inv.turnMatches {es : List Step} {r : Run} (h : Inv es r) {w : Queued Nat}
    (hw : w ∈ r.queue.queued) {ran : Bool} (hran : ran = !r.queue.isCancelled w) :
    Turn.Matches (es ++ [.start]) ⟨w.task, r.time, ran⟩ := by
  have htask : w.task < es.length := by
    rcases h.queued w hw with ⟨hpush, -⟩ | ⟨hpush, -⟩ <;>
      exact (List.getElem?_eq_some_iff.mp hpush).1
  rw [h.time]
  refine ⟨htask, List.getElem?_concat_length, ?_⟩
  rw [hran, Bool.not_eq_true', ← Bool.not_eq_true, h.isCancelled_iff hw,
    List.getElem?_append_left htask, cancelsWithin_concat (Nat.le_refl _), not_and_or, not_not]

theorem inv_nil : Inv [] {} where
  time := rfl
  tasks := rfl
  pending := rfl
  token := rfl
  revoked n := by simp
  queued w hw := nomatch hw
  turns t ht := nomatch ht

section Steps

variable {es : List Step} {r : Run}

/-- Queueing keeps the invariant. -/
theorem Inv.enqueue (h : Inv es r) {s : Step} {token : Option Nat} (hs : s.queues = true)
    (hq : r.queue.step r.time s = r.queue.enqueue r.time token)
    (hw : Queued.Matches (es ++ [s]) ⟨es.length, token⟩) : Inv (es ++ [s]) (r.next s) := by
  have hstart : s ≠ .start := by rintro rfl; exact nomatch hs
  have hcancel : s ≠ .cancel := by rintro rfl; exact nomatch hs
  have hqueue : (r.next s).queue = r.queue.enqueue r.time token := hq
  have hturns := turns_next (r := r) hstart
  refine ⟨?_, ?_, ?_, ?_, ?_, ?_, ?_⟩
  · rw [List.length_append, ← h.time]
    rfl
  · rw [submitted_concat, if_pos hs, ← h.tasks, hturns, Run.waits, hqueue, List.append_assoc,
      ← h.time, TaskQueue.enqueue, List.map_append]
    rfl
  · have hpending := h.pending
    simp only [hqueue, TaskQueue.enqueue, enter, List.length_append, List.length_singleton]
    omega
  · rw [hqueue, List.count_append, List.count_singleton, if_neg (by simpa using hcancel)]
    exact h.token
  · rw [hqueue]
    exact h.revoked
  · intro w hmem
    rw [hqueue, TaskQueue.enqueue, List.mem_append, List.mem_singleton] at hmem
    rcases hmem with hmem | rfl
    · exact (h.queued w hmem).concat s
    · rw [h.time]
      exact hw
  · rw [hturns]
    exact fun t ht => (h.turns t ht).concat s

theorem Inv.cancel (h : Inv es r) : Inv (es ++ [.cancel]) (r.next .cancel) := by
  have hturns := turns_next (r := r) (s := .cancel) (by simp)
  refine ⟨?_, ?_, h.pending, ?_, ?_, ?_, ?_⟩
  · rw [List.length_append, ← h.time]
    rfl
  · rw [submitted_concat, hturns, if_neg (by simp [Step.queues]), List.append_nil, ← h.tasks]
    rfl
  · rw [List.count_append, ← h.token]
    rfl
  · intro n
    show n ∈ r.queue.token :: r.queue.revoked ↔ n < r.queue.token + 1
    rw [List.mem_cons, h.revoked]
    omega
  · exact fun w hw => (h.queued w hw).concat _
  · rw [hturns]
    exact fun t ht => (h.turns t ht).concat _

/-- A move of the worker keeps the invariant if it keeps the tasks in their order, counts them
right and logs a turn as it was. -/
theorem Inv.move (h : Inv es r) {s : Step} (hs : s = .start ∨ ∃ broke, s = .finish broke)
    (htasks : (r.next s).turns.map (·.task) ++ (r.next s).waits = r.turns.map (·.task) ++ r.waits)
    (hpending : (r.next s).queue.pending =
      (r.next s).queue.queued.length + (r.next s).queue.running.toList.length)
    (htoken : (r.next s).queue.token = r.queue.token)
    (hrevoked : (r.next s).queue.revoked = r.queue.revoked)
    (hqueued : ∀ w ∈ (r.next s).queue.queued, w ∈ r.queue.queued)
    (hturns : ∀ t ∈ (r.next s).turns, t ∈ r.turns ∨ Turn.Matches (es ++ [s]) t) :
    Inv (es ++ [s]) (r.next s) := by
  have hqueues : s.queues = false := by
    rcases hs with rfl | ⟨broke, rfl⟩ <;> rfl
  have hcancel : s ≠ .cancel := by
    rcases hs with rfl | ⟨broke, rfl⟩ <;> simp
  refine ⟨?_, ?_, hpending, ?_, ?_, ?_, ?_⟩
  · rw [List.length_append, ← h.time]
    rfl
  · rw [htasks, h.tasks, submitted_concat, hqueues, if_neg (by simp), List.append_nil]
  · rw [htoken, h.token, List.count_append, List.count_singleton,
      if_neg (by simpa using hcancel), Nat.add_zero]
  · rw [htoken, hrevoked]
    exact h.revoked
  · exact fun w hw => (h.queued w (hqueued w hw)).concat s
  · exact fun t ht => (hturns t ht).elim (fun hold => (h.turns t hold).concat s) id

theorem Inv.finish (h : Inv es r) (broke : Bool) :
    Inv (es ++ [.finish broke]) (r.next (.finish broke)) := by
  have hturns := turns_next (r := r) (s := .finish broke) (by simp)
  have hqueue : (r.next (.finish broke)).queue =
      { r.queue with
        running := none, pending := r.queue.pending - r.queue.running.toList.length } :=
    finish_eq r.queue
  have hpending := h.pending
  refine h.move (.inr ⟨broke, rfl⟩) ?_ ?_ (by rw [hqueue]) (by rw [hqueue]) ?_ ?_
  · rw [hturns, Run.waits, hqueue]
    rfl
  · rw [hqueue]
    simp only [Option.toList_none, List.length_nil]
    omega
  · rw [hqueue]
    exact fun w hw => hw
  · rw [hturns]
    exact fun t ht => .inl ht

theorem Inv.start (h : Inv es r) : Inv (es ++ [.start]) (r.next .start) := by
  have hqueue : (r.next .start).queue = r.queue.start := rfl
  have hlog : (r.next .start).turns =
      r.turns ++ (turn? r.time r.queue r.queue.start).toList := rfl
  have hpending := h.pending
  rcases start_cases r.queue with ⟨hsame, -⟩ | ⟨w, rest, hrunning, hqueued, hstart⟩
  · rw [hsame] at hqueue hlog
    rw [turn?_of_length_le (Nat.le_refl _), Option.toList_none, List.append_nil] at hlog
    refine h.move (.inl rfl) ?_ ?_ (by rw [hqueue]) (by rw [hqueue]) ?_ ?_
    · rw [hlog, Run.waits, hqueue]
      rfl
    · rw [hqueue, hpending]
    · rw [hqueue]
      exact fun w hw => hw
    · rw [hlog]
      exact fun t ht => .inl ht
  · -- the first task has its turn
    have hmem : w ∈ r.queue.queued := by rw [hqueued]; exact List.mem_cons_self
    have hrest : r.queue.start.queued = rest := by rw [hstart]; split_ifs <;> rfl
    have hran : r.queue.start.running = if r.queue.isCancelled w then none else some w.task := by
      rw [hstart]; split_ifs <;> simp [hrunning]
    rw [turn?_of_cons (by rw [hqueued, hrest]), Option.toList_some] at hlog
    rw [hqueued, hrunning, Option.toList_none, List.length_nil, List.length_cons] at hpending
    refine h.move (.inl rfl) ?_ ?_ ?_ ?_ ?_ ?_
    · rw [hlog, Run.waits, hqueue, hrest, Run.waits, hqueued, List.map_append, List.append_assoc]
      rfl
    · rw [hqueue, hrest, hran, hstart]
      split_ifs
      · simp only [Option.toList_none, List.length_nil]
        omega
      · simp only [Option.toList_some, List.length_singleton]
        omega
    · rw [hqueue, hstart]; split_ifs <;> rfl
    · rw [hqueue, hstart]; split_ifs <;> rfl
    · rw [hqueue, hrest, hqueued]
      exact fun v hv => List.mem_cons_of_mem w hv
    · intro t ht
      rw [hlog, List.mem_append, List.mem_singleton] at ht
      refine ht.imp_right ?_
      rintro rfl
      exact h.turnMatches hmem (by rw [hran]; split_ifs <;> simp_all)

/-- **Every step keeps the invariant.** -/
theorem Inv.next (h : Inv es r) (s : Step) : Inv (es ++ [s]) (r.next s) := by
  cases s with
  | push =>
    refine h.enqueue rfl rfl (.inl ⟨?_, rfl⟩)
    exact List.getElem?_concat_length
  | pushCancellable =>
    refine h.enqueue rfl rfl (.inr ⟨List.getElem?_concat_length, ?_⟩)
    rw [h.token, List.take_left]
  | cancel => exact h.cancel
  | start => exact h.start
  | finish broke => exact h.finish broke

end Steps

/-- **The invariant holds of every run.** -/
theorem inv_run (es : List Step) : Inv es (run es) := by
  induction es using List.reverseRecOn with
  | nil => exact inv_nil
  | append_singleton es s ih =>
    rw [run_concat]
    exact ih.next s

end Typeahead.TaskQueue
