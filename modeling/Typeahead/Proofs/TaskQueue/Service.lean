import Mathlib.Data.List.Nodup
import Typeahead.Proofs.TaskQueue.Turns

/-! # How queued tasks are served

What callers can rely on, whatever the order of calls and moves of the worker: a task that cannot
be cancelled waits or has run once; one that can be runs once or not at all, as its turn finds it;
tasks run in the order in which they were queued; and the count of pending tasks is right at any
time (`Serves`). A worker that goes on takes the waiting tasks one after the other, which is what
`runAll` does at once (`runAll_waiting`); it serves every task in the end (`serves_run`). -/

namespace Typeahead.TaskQueue

/-! ### Turns and tasks that ran -/

theorem Inv.pairwise_tasks {es : List Step} {r : Run} (h : Inv es r) :
    (r.turns.map (·.task) ++ r.waits).Pairwise (· < ·) := by
  rw [h.tasks]
  exact pairwise_submitted es

theorem Inv.nodup_tasks {es : List Step} {r : Run} (h : Inv es r) :
    (r.turns.map (·.task) ++ r.waits).Nodup := h.pairwise_tasks.imp Nat.ne_of_lt

theorem ran_sublist (r : Run) : r.ran.Sublist (r.turns.map (·.task)) := List.filter_sublist.map _

/-- A task ran once if it ran at its turn, else not at all. -/
theorem Inv.count_ran {es : List Step} {r : Run} (h : Inv es r) {t : Turn} (ht : t ∈ r.turns) :
    r.ran.count t.task = if t.ran then 1 else 0 := by
  have hnodup : (r.turns.map (·.task)).Nodup := (List.nodup_append.mp h.nodup_tasks).1
  split_ifs with hran
  · refine List.count_eq_one_of_mem (hnodup.sublist (ran_sublist r)) ?_
    exact List.mem_map_of_mem (List.mem_filter.mpr ⟨ht, hran⟩)
  · refine List.count_eq_zero_of_not_mem fun hmem => ?_
    obtain ⟨u, hu, htask⟩ := List.mem_map.mp hmem
    obtain ⟨hu, huran⟩ := List.mem_filter.mp hu
    have hut : u = t := List.inj_on_of_nodup_map hnodup hu ht htask
    exact hran (hut ▸ huran)

/-- A task that waits has not run. -/
theorem Inv.count_ran_of_waits {es : List Step} {r : Run} (h : Inv es r) {i : Nat}
    (hi : i ∈ r.waits) : r.ran.count i = 0 :=
  List.count_eq_zero_of_not_mem fun hran =>
    (List.nodup_append.mp h.nodup_tasks).2.2 i ((ran_sublist r).subset hran) i hi rfl

/-- A task that was queued waits or has had its turn. -/
theorem Inv.waits_or_turn {es : List Step} {r : Run} (h : Inv es r) {i : Nat} {e : Step}
    (he : es[i]? = some e) (hqueues : e.queues = true) :
    i ∈ r.waits ∨ i ∉ r.waits ∧ ∃ t ∈ r.turns, t.task = i := by
  have hmem := mem_submitted he hqueues
  rw [← h.tasks, List.mem_append] at hmem
  by_cases hi : i ∈ r.waits
  · exact .inl hi
  · exact .inr ⟨hi, List.mem_map.mp (hmem.resolve_right hi)⟩

/-! ### What a run does -/

/-- **What a run does** with the tasks that its history queues. -/
structure Serves (es : List Step) (r : Run) : Prop where
  tasks : r.turns.map (·.task) ++ r.waits = submitted es
  inOrder : r.ran.Pairwise (· < ·)
  push : ∀ i, es[i]? = some .push → (r.ran ++ r.waits).count i = 1
  cancellable : ∀ i, es[i]? = some .pushCancellable →
    (i ∈ r.waits ∧ r.ran.count i = 0) ∨
      (i ∉ r.waits ∧ ∃ t ∈ r.turns, t.task = i ∧ i < t.time ∧ es[t.time]? = some .start ∧
        r.ran.count i = if CancelsWithin es i t.time then 0 else 1)
  pending : r.queue.pending = r.queue.queued.length + if r.queue.running.isSome then 1 else 0

theorem Inv.serves {es : List Step} {r : Run} (h : Inv es r) : Serves es r where
  tasks := h.tasks
  inOrder := ((List.pairwise_append.mp h.pairwise_tasks).1).sublist (ran_sublist r)
  push i hi := by
    have hnodup := List.nodup_append.mp h.nodup_tasks
    rw [List.count_append]
    rcases h.waits_or_turn hi rfl with hwaits | ⟨hwaits, t, ht, rfl⟩
    · rw [h.count_ran_of_waits hwaits, List.count_eq_one_of_mem hnodup.2.1 hwaits]
    · have hran : t.ran = true := (h.turns t ht).2.2.mpr (.inl hi)
      rw [h.count_ran ht, if_pos hran, List.count_eq_zero_of_not_mem hwaits]
  cancellable i hi := by
    rcases h.waits_or_turn hi rfl with hwaits | ⟨hwaits, t, ht, rfl⟩
    · exact .inl ⟨hwaits, h.count_ran_of_waits hwaits⟩
    · obtain ⟨htask, htime, hran⟩ := h.turns t ht
      refine .inr ⟨hwaits, t, ht, rfl, htask, htime, ?_⟩
      rw [h.count_ran ht]
      by_cases hcancel : CancelsWithin es t.task t.time
      · rw [if_pos hcancel, if_neg (by rw [hran, hi]; simp [hcancel])]
      · rw [if_neg hcancel, if_pos (hran.mpr (.inr hcancel))]
  pending := by
    rw [h.pending]
    cases r.queue.running <;> rfl

/-! ### The worker goes on -/

/-- The worker turns to its next task and is rid of it, again and again; `bs` tells which tasks
break off. -/
def rounds (bs : List Bool) : List Step := bs.flatMap fun broke => [.start, .finish broke]

/-- The tasks of a list that are not cancelled. -/
def uncancelled {α : Type} (ws : List (Waiting α)) : List α :=
  (ws.filter (!·.cancelled)).map (·.task)

theorem uncancelled_append {α : Type} (ws vs : List (Waiting α)) :
    uncancelled (ws ++ vs) = uncancelled ws ++ uncancelled vs := by
  rw [uncancelled, List.filter_append, List.map_append, uncancelled, uncancelled]

theorem runAll_eq_foldl {α σ : Type} (f : α → σ → Option σ) (ws : List (Waiting α)) (s : σ) :
    runAll f ws s = (uncancelled ws).foldl (fun s t => (f t s).getD s) s := by
  rw [uncancelled, List.foldl_map, List.foldl_filter, runAll]
  congr 1
  funext s w
  cases w.cancelled <;> rfl

theorem run_append (es fs : List Step) : run (es ++ fs) = fs.foldl Run.next (run es) :=
  List.foldl_append

/-- A round takes the first task from the queue, runs it unless it is cancelled, and leaves the
worker free. -/
theorem Run.round {r : Run} (h : r.queue.running = none) (broke : Bool) :
    let r' := (r.next .start).next (.finish broke)
    r'.queue.running = none ∧ r'.queue.waiting = r.queue.waiting.drop 1 ∧
      r'.ran = r.ran ++ uncancelled (r.queue.waiting.take 1) := by
  intro r'
  have hqueue : r'.queue = r.queue.start.finish := rfl
  have hturns : r'.turns = r.turns ++ (turn? r.time r.queue r.queue.start).toList :=
    turns_next (r := r.next .start) (s := .finish broke) (by simp)
  refine ⟨by rw [hqueue, finish_eq], ?_⟩
  rcases start_cases r.queue with ⟨hsame, hidle⟩ | ⟨w, rest, -, hqueued, hstart⟩
  · have hnil : r.queue.waiting = [] := by
      rw [waiting, hidle.resolve_left fun hbusy => hbusy h, List.map_nil]
    rw [hsame, turn?_of_length_le (Nat.le_refl _), Option.toList_none, List.append_nil] at hturns
    rw [hqueue, hsame, finish_eq, hnil, Run.ran, hturns]
    exact ⟨hnil, (List.append_nil _).symm⟩
  · have hrest : r.queue.start.queued = rest := by rw [hstart]; split_ifs <;> rfl
    have hrevoked : r.queue.start.revoked = r.queue.revoked := by rw [hstart]; split_ifs <;> rfl
    have hran : (r.queue.start.running == some w.task) = !r.queue.isCancelled w := by
      rw [hstart]; split_ifs <;> simp_all
    have hwaiting : r.queue.waiting =
        ⟨w.task, r.queue.isCancelled w⟩ :: rest.map fun v => ⟨v.task, r.queue.isCancelled v⟩ := by
      rw [waiting, hqueued, List.map_cons]
    rw [turn?_of_cons (by rw [hqueued, hrest]), Option.toList_some, hran] at hturns
    constructor
    · rw [hqueue, finish_eq, hwaiting, List.drop_one, List.tail_cons, ← hrest]
      simp only [waiting, isCancelled, hrevoked]
    · rw [Run.ran, hturns, List.filter_append, List.map_append, hwaiting, Run.ran, uncancelled]
      cases r.queue.isCancelled w <;> rfl

/-- **What rounds do**: as many of the waiting tasks have their turns, and those that are not
cancelled run. -/
theorem Run.foldl_rounds (bs : List Bool) {r : Run} (h : r.queue.running = none) :
    let r' := (rounds bs).foldl Run.next r
    r'.queue.running = none ∧ r'.queue.waiting = r.queue.waiting.drop bs.length ∧
      r'.ran = r.ran ++ uncancelled (r.queue.waiting.take bs.length) := by
  induction bs generalizing r with
  | nil => exact ⟨h, rfl, (List.append_nil _).symm⟩
  | cons broke bs ih =>
    obtain ⟨hfree, hwaiting, hran⟩ := Run.round h broke
    obtain ⟨hfree', hwaiting', hran'⟩ := ih hfree
    refine ⟨hfree', ?_, ?_⟩
    · rw [List.length_cons, Nat.add_comm, ← List.drop_drop, ← hwaiting]
      exact hwaiting'
    · rw [List.length_cons, Nat.add_comm, List.take_add, uncancelled_append, ← List.append_assoc,
        ← hran, ← hwaiting]
      exact hran'

/-- Doing what waits is doing what runs when a free worker goes on for long enough. -/
theorem runAll_waiting {σ : Type} (f : Nat → σ → Option σ) (s : σ) {es : List Step}
    (h : (run es).queue.running = none) {bs : List Bool}
    (hbs : (run es).queue.queued.length ≤ bs.length) :
    ∃ ts, (run (es ++ rounds bs)).ran = (run es).ran ++ ts ∧
      runAll f (run es).queue.waiting s = ts.foldl (fun s t => (f t s).getD s) s := by
  refine ⟨uncancelled (run es).queue.waiting, ?_, runAll_eq_foldl f _ s⟩
  have hran := (Run.foldl_rounds bs h).2.2
  rwa [← run_append, List.take_of_length_le (by rwa [waiting, List.length_map])] at hran

/-- **Every task is served as it should be**, at any time; and once the worker has gone on for long
enough, nothing is pending and every task has had its turn, whichever tasks break off. -/
theorem serves_run (es : List Step) : Serves es (run es) ∧
    ∀ (broke : Bool) (bs : List Bool), (run es).queue.queued.length ≤ bs.length →
      let fs := es ++ .finish broke :: rounds bs
      (run fs).queue.queued = [] ∧ (run fs).queue.running = none ∧ (run fs).queue.pending = 0 ∧
        (∀ i, es[i]? = some .push → (run fs).ran.count i = 1) ∧
        ∀ i, es[i]? = some .pushCancellable → ∃ t ∈ (run fs).turns, t.task = i ∧
          (run fs).ran.count i = if CancelsWithin fs i t.time then 0 else 1 := by
  refine ⟨(inv_run es).serves, ?_⟩
  intro broke bs hbs fs
  have hfs : fs = es ++ [.finish broke] ++ rounds bs := (List.append_cons es _ _)
  have hqueue : (run (es ++ [.finish broke])).queue = (run es).queue.finish := by
    rw [run_concat]
    rfl
  have hfree : (run (es ++ [.finish broke])).queue.running = none := by
    rw [hqueue, finish_eq]
  have hlength : (run (es ++ [.finish broke])).queue.waiting.length ≤ bs.length := by
    rwa [waiting, List.length_map, hqueue, finish_eq]
  obtain ⟨hrunning, hwaiting, -⟩ := Run.foldl_rounds bs hfree
  rw [← run_append, ← hfs] at hrunning hwaiting
  have hqueued : (run fs).queue.queued = [] := by
    rwa [List.drop_eq_nil_of_le hlength, waiting, List.map_eq_nil_iff] at hwaiting
  have hserves : Serves fs (run fs) := (inv_run fs).serves
  have hwaits : (run fs).waits = [] := by rw [Run.waits, hqueued]; rfl
  have hplace {i : Nat} {e : Step} (he : es[i]? = some e) : fs[i]? = some e := by
    rw [List.getElem?_append_left (List.getElem?_eq_some_iff.mp he).1, he]
  refine ⟨hqueued, hrunning, ?_, fun i hi => ?_, fun i hi => ?_⟩
  · rw [hserves.pending, hqueued, hrunning]
    rfl
  · have hcount := hserves.push i (hplace hi)
    rwa [hwaits, List.append_nil] at hcount
  · rcases hserves.cancellable i (hplace hi) with ⟨hi, -⟩ | ⟨-, t, ht, htask, -, -, hcount⟩
    · rw [hwaits] at hi
      exact absurd hi List.not_mem_nil
    · exact ⟨t, ht, htask, hcount⟩

/-- While the worker is at a first task, a load is queued, then a write; the load is cancelled and
queued once more; the first task and the write break off. -/
theorem serves_run_load_twice :
    let es : List Step := [.push, .start, .pushCancellable, .push, .cancel, .pushCancellable]
    let fs := es ++ .finish true :: rounds [false, true, false]
    (run es).queue.queued.length ≤ 3 ∧ (run es).queue.pending = 4 ∧ Serves es (run es) ∧
      (run fs).queue.pending = 0 ∧ (run fs).ran = [0, 3, 5] ∧ (run fs).ran.count 0 = 1 ∧
      (run fs).ran.count 3 = 1 := by
  intro es fs
  have h := (serves_run es).2 true [false, true, false] (by decide)
  exact ⟨by decide, by decide, (serves_run es).1, h.2.2.1, by decide, h.2.2.2.1 0 rfl,
    h.2.2.2.1 3 rfl⟩

end Typeahead.TaskQueue
