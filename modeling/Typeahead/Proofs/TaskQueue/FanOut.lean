import Mathlib.Algebra.GroupWithZero.Nat
import Mathlib.Data.List.Basic
import Typeahead.TaskQueue

/-! # Jobs that are fanned out

Jobs are handed to workers that take them up in any order. A worker that did its job, or was broken
off in it, sends a report through the channel and then gives its sender back; a job may also be
dropped before it reports, with its sender. The caller reads the reports in the order in which they
were sent and goes on when no sender is left and the channel is empty. `FanOut` is the state of all
of them together, `Move` what may happen next, and `Run` counts the moves from `dispatch` on.

What the caller makes of the reports is `joinReports`. The invariant `Inv` says what it would make of
all the reports that were sent so far, read or not: the result of each job that has reported, at the
place of the job. Reading moves a report from the channel to those that arrived and changes nothing
of that, and so the result does not depend on the order of the moves (`Inv.getElem?_joined`). There
is always a move as long as the caller waits (`Inv.exists_move`), and each move leaves less to do
(`Move.remaining_lt`), so the caller goes on in the end. -/

namespace Typeahead

section
variable {β : Type}

/-! ### Reports -/

theorem joinReports_concat (n : Nat) (reports : List (Nat × Option β)) (i : Nat) (r : Option β) :
    joinReports n (reports ++ [(i, r)]) = (joinReports n reports).set i r := by
  simp only [joinReports, List.foldl_append, List.foldl_cons, List.foldl_nil]

theorem length_joinReports (n : Nat) (reports : List (Nat × Option β)) :
    (joinReports n reports).length = n := by
  refine List.foldlRecOn (motive := fun slots : List (Option β) => slots.length = n) _ _
    List.length_replicate ?_
  rintro slots hslots ⟨i, r⟩ -
  exact List.length_set.trans hslots

/-! ### Moves -/

/-- How far a job has come. -/
inductive Stage where
  | queued
  | running
  /-- The report is sent, the sender not yet given back. -/
  | sent
  | done
  /-- Dropped with its sender, without a report. -/
  | lost
  deriving DecidableEq, Repr

namespace Stage

/-- The job has sent its report. -/
def hasReported : Stage → Bool
  | sent | done => true
  | _ => false

/-- The job has given its sender back. -/
def isOver : Stage → Bool
  | done | lost => true
  | _ => false

/-- How many moves a job may still cause, but for the reading of a report in the channel. -/
def remaining : Stage → Nat
  | queued => 4
  | running => 3
  | sent => 1
  | done | lost => 0

/-- A job that is over has reported or was lost. -/
theorem hasReported_of_isOver {stage : Stage} (h : stage.isOver = true) (hlost : stage ≠ lost) :
    stage.hasReported = true := by
  cases stage with
  | queued | running => exact nomatch h
  | sent | done => rfl
  | lost => exact absurd rfl hlost

end Stage

/-- Jobs in flight: how far each has come, the reports in the channel, and those that were read. -/
structure FanOut (β : Type) where
  stages : List Stage
  channel : List (Nat × Option β) := []
  arrived : List (Nat × Option β) := []

namespace FanOut

/-- The jobs as they are handed out. A job is given by what it yields, which is nothing if it breaks
off. -/
def dispatch (jobs : List (Option β)) : FanOut β := { stages := jobs.map fun _ => .queued }

/-- What may happen next. -/
inductive Move (jobs : List (Option β)) : FanOut β → FanOut β → Prop where
  | start {s : FanOut β} {i : Nat} (h : s.stages[i]? = some .queued) :
      Move jobs s { s with stages := s.stages.set i .running }
  | report {s : FanOut β} {i : Nat} {r : Option β} (h : s.stages[i]? = some .running)
      (hr : jobs[i]? = some r) :
      Move jobs s { s with stages := s.stages.set i .sent, channel := s.channel ++ [(i, r)] }
  | leave {s : FanOut β} {i : Nat} (h : s.stages[i]? = some .sent) :
      Move jobs s { s with stages := s.stages.set i .done }
  | drop {s : FanOut β} {i : Nat} (h : s.stages[i]? = some .queued ∨ s.stages[i]? = some .running) :
      Move jobs s { s with stages := s.stages.set i .lost }
  | read {s : FanOut β} {m : Nat × Option β} {rest : List (Nat × Option β)}
      (h : s.channel = m :: rest) :
      Move jobs s { s with channel := rest, arrived := s.arrived ++ [m] }

/-- The moves of some jobs since they were handed out, and how many there were. -/
inductive Run (jobs : List (Option β)) : Nat → FanOut β → Prop where
  | dispatch : Run jobs 0 (dispatch jobs)
  | move {n : Nat} {s s' : FanOut β} (hrun : Run jobs n s) (hmove : Move jobs s s') :
      Run jobs (n + 1) s'

/-- The caller need not wait any longer: no sender is left, and all reports are read. -/
def IsOver (s : FanOut β) : Prop := (∀ stage ∈ s.stages, stage.isOver = true) ∧ s.channel = []

/-- The job at a place was dropped without a report. -/
def Lost (s : FanOut β) (i : Nat) : Prop := s.stages[i]? = some .lost

instance (s : FanOut β) (i : Nat) : Decidable (s.Lost i) := inferInstanceAs (Decidable (_ = _))

/-- What the caller makes of the reports. -/
def joined (s : FanOut β) : List (Option β) := joinReports s.stages.length s.arrived

variable {jobs : List (Option β)} {s s' : FanOut β} {n : Nat}

/-! ### What the reports come to -/

/-- What all reports so far come to, read or not: the result of each job that has reported. -/
structure Inv (jobs : List (Option β)) (s : FanOut β) : Prop where
  length : s.stages.length = jobs.length
  slot : ∀ (i : Nat) (stage : Stage) (r : Option β), s.stages[i]? = some stage → jobs[i]? = some r →
    (joinReports jobs.length (s.arrived ++ s.channel))[i]? =
      some (if stage.hasReported then r else none)

theorem inv_dispatch (jobs : List (Option β)) : Inv jobs (dispatch jobs) := by
  refine ⟨List.length_map _, fun i stage r hstage hr => ?_⟩
  have hi : i < jobs.length := (List.getElem?_eq_some_iff.mp hr).1
  have hqueued : stage = .queued := by
    rw [dispatch, List.getElem?_map, hr] at hstage
    exact (Option.some.inj hstage).symm
  rw [hqueued]
  show (List.replicate jobs.length none)[i]? = some none
  rw [List.getElem?_replicate, if_pos hi]

/-- A job that goes on without a report changes nothing of what the reports come to. -/
theorem Inv.of_stage (h : Inv jobs s) {i : Nat} {stage stage' : Stage}
    (hstage : s.stages[i]? = some stage) (hsame : stage'.hasReported = stage.hasReported) :
    Inv jobs { s with stages := s.stages.set i stage' } := by
  refine ⟨List.length_set.trans h.length, fun j stage'' r hj hr => ?_⟩
  by_cases hij : i = j
  · subst hij
    rw [List.getElem?_set_self (List.getElem?_eq_some_iff.mp hstage).1] at hj
    rw [← Option.some.inj hj, hsame]
    exact h.slot i stage r hstage hr
  · rw [List.getElem?_set_ne hij] at hj
    exact h.slot j stage'' r hj hr

/-- A job that reports puts its result in its place. -/
theorem Inv.of_report (h : Inv jobs s) {i : Nat} {r : Option β} (hr : jobs[i]? = some r) :
    Inv jobs { s with stages := s.stages.set i .sent, channel := s.channel ++ [(i, r)] } := by
  refine ⟨List.length_set.trans h.length, fun j stage q hj hq => ?_⟩
  dsimp only at hj ⊢
  rw [← List.append_assoc, joinReports_concat]
  by_cases hij : i = j
  · subst hij
    have hi : i < jobs.length := (List.getElem?_eq_some_iff.mp hr).1
    rw [List.getElem?_set_self (h.length ▸ hi)] at hj
    rw [List.getElem?_set_self ((length_joinReports _ _).symm ▸ hi), ← Option.some.inj hj,
      ← Option.some.inj (hr.symm.trans hq)]
    rfl
  · rw [List.getElem?_set_ne hij] at hj ⊢
    exact h.slot j stage q hj hq

/-- **What the reports come to** is kept by every move. -/
theorem Inv.move (h : Inv jobs s) (hmove : Move jobs s s') : Inv jobs s' := by
  cases hmove with
  | start hstage => exact h.of_stage hstage rfl
  | report _ hr => exact h.of_report hr
  | leave hstage => exact h.of_stage hstage rfl
  | drop hstage =>
    rcases hstage with hstage | hstage
    · exact h.of_stage hstage rfl
    · exact h.of_stage hstage rfl
  | @read m rest hchannel =>
    refine ⟨h.length, fun i stage r hstage hr => ?_⟩
    have hslot := h.slot i stage r hstage hr
    rw [hchannel, List.append_cons] at hslot
    exact hslot

theorem inv_run (hrun : Run jobs n s) : Inv jobs s := by
  induction hrun with
  | dispatch => exact inv_dispatch jobs
  | move _ hmove ih => exact ih.move hmove

theorem Inv.length_joined (h : Inv jobs s) : s.joined.length = jobs.length :=
  (length_joinReports _ _).trans h.length

/-- **The results are joined** in the order of the jobs; a job that was lost has none. -/
theorem Inv.getElem?_joined (h : Inv jobs s) (hover : s.IsOver) (i : Nat) :
    s.joined[i]? = if s.Lost i then some none else jobs[i]? := by
  obtain ⟨hstages, hchannel⟩ := hover
  rw [joined, h.length]
  by_cases hi : i < s.stages.length
  · have hat : s.stages[i]? = some s.stages[i] := List.getElem?_eq_getElem hi
    have hjob : jobs[i]? = some (jobs.get ⟨i, h.length ▸ hi⟩) := List.getElem?_eq_getElem _
    have hslot := h.slot i _ _ hat hjob
    rw [hchannel, List.append_nil] at hslot
    rw [hslot]
    by_cases hlost : s.stages[i] = .lost
    · have hl : s.Lost i := hat.trans (congrArg some hlost)
      rw [if_pos hl, hlost]
      rfl
    · have hnot : ¬ s.Lost i := fun hl => hlost (Option.some.inj (hat.symm.trans hl))
      rw [if_neg hnot, hjob, Stage.hasReported_of_isOver (hstages _ (List.getElem_mem hi)) hlost]
      rfl
  · have hlength : jobs.length ≤ i := h.length ▸ Nat.not_lt.mp hi
    have hstage : s.stages[i]? = none := List.getElem?_eq_none (Nat.not_lt.mp hi)
    have hnot : ¬ s.Lost i := fun hl => nomatch hstage.symm.trans hl
    rw [if_neg hnot, List.getElem?_eq_none hlength]
    exact List.getElem?_eq_none ((length_joinReports _ _).symm ▸ hlength)

/-- **The order of the moves is of no account**: two runs that lose the same jobs come to the same
results. -/
theorem Run.joined_unique {m : Nat} {t : FanOut β} (hrun : Run jobs n s) (hover : s.IsOver)
    (hrun' : Run jobs m t) (hover' : t.IsOver) (hlost : ∀ i, t.Lost i ↔ s.Lost i) :
    t.joined = s.joined := by
  refine List.ext_getElem? fun i => ?_
  rw [(inv_run hrun').getElem?_joined hover', (inv_run hrun).getElem?_joined hover]
  exact if_congr (hlost i) rfl rfl

theorem Run.joined_of_none_lost (hrun : Run jobs n s) (hover : s.IsOver) (hnone : ∀ i, ¬ s.Lost i) :
    s.joined = jobs := by
  refine List.ext_getElem? fun i => ?_
  rw [(inv_run hrun).getElem?_joined hover, if_neg (hnone i)]

/-! ### The caller goes on -/

/-- How many moves there may still be. -/
def remaining (s : FanOut β) : Nat := (s.stages.map Stage.remaining).sum + s.channel.length

theorem sum_set_stage (stage' : Stage) {stage : Stage} : ∀ {stages : List Stage} {i : Nat},
    stages[i]? = some stage → ((stages.set i stage').map Stage.remaining).sum + stage.remaining =
      (stages.map Stage.remaining).sum + stage'.remaining
  | [], _, h => nomatch h
  | first :: stages, 0, h => by
    obtain rfl : first = stage := Option.some.inj h
    rw [List.set_cons_zero, List.map_cons, List.map_cons, List.sum_cons, List.sum_cons]
    omega
  | first :: stages, i + 1, h => by
    have ih := sum_set_stage stage' (List.getElem?_cons_succ ▸ h)
    rw [List.set_cons_succ, List.map_cons, List.map_cons, List.sum_cons, List.sum_cons]
    omega

theorem sum_set_stage_lt {stage stage' : Stage} {stages : List Stage} {i : Nat}
    (hstage : stages[i]? = some stage) (hless : stage'.remaining < stage.remaining) :
    ((stages.set i stage').map Stage.remaining).sum < (stages.map Stage.remaining).sum := by
  have hsum := sum_set_stage stage' hstage
  omega

/-- **Each move leaves less to do.** -/
theorem Move.remaining_lt (hmove : Move jobs s s') : s'.remaining < s.remaining := by
  unfold remaining
  cases hmove with
  | start hstage => exact Nat.add_lt_add_right (sum_set_stage_lt hstage (by decide)) _
  | report hstage _ =>
    -- a report that is sent is one more to read
    have hsum := sum_set_stage .sent hstage
    simp only [Stage.remaining, List.length_append, List.length_singleton] at hsum ⊢
    omega
  | leave hstage => exact Nat.add_lt_add_right (sum_set_stage_lt hstage (by decide)) _
  | drop hstage =>
    rcases hstage with hstage | hstage
    · exact Nat.add_lt_add_right (sum_set_stage_lt hstage (by decide)) _
    · exact Nat.add_lt_add_right (sum_set_stage_lt hstage (by decide)) _
  | read hchannel =>
    rw [hchannel, List.length_cons]
    exact Nat.lt_succ_self _

/-- There are at most four moves for each job. -/
theorem Run.length_le (hrun : Run jobs n s) : n + s.remaining ≤ 4 * jobs.length := by
  induction hrun with
  | dispatch =>
    unfold remaining FanOut.dispatch
    rw [List.map_map]
    simp [Function.comp_def, Stage.remaining, Nat.mul_comm]
  | move _ hmove ih =>
    have hlt := hmove.remaining_lt
    omega

/-- **There is a move** as long as the caller waits. -/
theorem Inv.exists_move (h : Inv jobs s) (hwaits : ¬ s.IsOver) : ∃ s', Move jobs s s' := by
  rcases hchannel : s.channel with _ | ⟨m, rest⟩
  · have hstages : ¬ ∀ stage ∈ s.stages, stage.isOver = true := fun hall => hwaits ⟨hall, hchannel⟩
    push Not at hstages
    obtain ⟨stage, hmem, hopen⟩ := hstages
    obtain ⟨i, hi, hstage⟩ := List.getElem_of_mem hmem
    have hat : s.stages[i]? = some stage := List.getElem?_eq_some_iff.mpr ⟨hi, hstage⟩
    cases stage with
    | queued => exact ⟨_, .start hat⟩
    | running => exact ⟨_, .report hat (List.getElem?_eq_getElem (h.length ▸ hi))⟩
    | sent => exact ⟨_, .leave hat⟩
    | done => exact absurd rfl hopen
    | lost => exact absurd rfl hopen
  · exact ⟨_, .read hchannel⟩

end FanOut

end

end Typeahead
