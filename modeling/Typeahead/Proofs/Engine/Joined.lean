import Typeahead.Lexicon.Draft
import Typeahead.Proofs.Engine.Lookup
import Typeahead.Proofs.TaskQueue.FanOut

/-! # Lookups in several groups at a time

The caller of a lookup asks the first group itself, while the other groups are asked by jobs that
were fanned out before. What the jobs yield is joined in the order of the groups whatever the order
in which they report (`FanOut.joined_eq`), and put behind the candidates of the first group. So the
ranking depends only on what the groups answer and on the jobs that were lost, and where none was it
is `mergedRanking` (`lookups_joined_in_order`). -/

namespace Typeahead

/-! ### A request and its jobs -/

/-- What the lookup in the first group yields. -/
def firstLookup (gs : List Group) (r : Request) : Option (List Candidate) :=
  match gs with
  | [] => some []
  | g :: _ => g.candidates gs r

/-- What the jobs for the other groups yield. -/
def otherLookups (gs : List Group) (r : Request) : List (Option (List Candidate)) :=
  gs.tail.map (·.candidates gs r)

/-- The ranking of what was offered. -/
def rankingOf (r : Request) (all : List Candidate) : Ranking :=
  let start : Ranking := { capacity := Ranking.defaultCapacity, atStart := r.context.isStart }
  { (start.addAll all).withTwoOthers all r.typed with offered := some all }

/-- The ranking of a request once its jobs are joined. A lookup in the first group that breaks off
breaks off the request. -/
def joinedRanking (gs : List Group) (r : Request) (joined : List (Option (List Candidate))) :
    Option Ranking :=
  (firstLookup gs r).map fun first => rankingOf r (first ++ (joined.filterMap id).flatten)

variable {gs : List Group} {r : Request} {n : Nat} {s : FanOut (List Candidate)}

theorem mergedRanking_eq (gs : List Group) (r : Request) :
    mergedRanking gs r = rankingOf r (offeredBy gs r) := rfl

/-- The candidates of all groups are those of the first one and of the others. -/
theorem offeredBy_eq_append {first : List Candidate} (hfirst : firstLookup gs r = some first) :
    offeredBy gs r = first ++ ((otherLookups gs r).filterMap id).flatten := by
  rw [offeredBy_eq]
  cases gs with
  | nil =>
    obtain rfl : [] = first := Option.some.inj hfirst
    rfl
  | cons g gs =>
    have hg : g.candidates (g :: gs) r = some first := hfirst
    rw [List.filterMap_cons_some (f := fun h : Group => h.candidates (g :: gs) r) hg,
      List.flatten_cons, otherLookups, List.filterMap_map]
    rfl

/-! ### Joining -/

/-- The candidates of the other groups are joined in the order of the groups. -/
theorem FanOut.joined_eq (hrun : Run (otherLookups gs r) n s) (hover : s.IsOver) :
    s.joined = gs.tail.zipIdx.map fun (g, i) => if s.Lost i then none else g.candidates gs r := by
  have hinv := inv_run hrun
  refine List.ext_getElem? fun i => ?_
  rw [hinv.getElem?_joined hover, otherLookups, List.getElem?_map, List.getElem?_map,
    List.getElem?_zipIdx]
  split_ifs with hlost
  · have hi : i < gs.tail.length := by
      have hstages := (List.getElem?_eq_some_iff.mp hlost).1
      rw [hinv.length, otherLookups, List.length_map] at hstages
      exact hstages
    rw [List.getElem?_eq_getElem hi]
    simp [hlost]
  · cases gs.tail[i]? <;> simp [hlost]

/-- **Lookups are joined in order.** The results of jobs that were fanned out are joined at the
places of the jobs, by moves of which there are no more than four for each job and at least one more
as long as the caller waits. Hence the candidates of the groups are merged in the order of the
groups, and the ranking of a request is the same for all orders in which its jobs report. -/
theorem lookups_joined_in_order (gs : List Group) (r : Request) :
    (∀ (β : Type) (jobs : List (Option β)) (n : Nat) (s : FanOut β), FanOut.Run jobs n s →
      n ≤ 4 * jobs.length ∧ ((∀ s', ¬ FanOut.Move jobs s s') → s.IsOver) ∧
        (s.IsOver → s.joined.length = jobs.length ∧
          ∀ i, s.joined[i]? = if s.Lost i then some none else jobs[i]?)) ∧
    ∀ (n : Nat) (s : FanOut (List Candidate)), FanOut.Run (otherLookups gs r) n s → s.IsOver →
      (joinedRanking gs r s.joined = (firstLookup gs r).map fun first => rankingOf r
        (first ++ (gs.tail.zipIdx.filterMap fun (g, i) =>
          if s.Lost i then none else g.candidates gs r).flatten)) ∧
      (∀ (m : Nat) (t : FanOut (List Candidate)), FanOut.Run (otherLookups gs r) m t → t.IsOver →
        (∀ i, t.Lost i ↔ s.Lost i) → joinedRanking gs r t.joined = joinedRanking gs r s.joined) ∧
      ((∀ i, ¬ s.Lost i) → (firstLookup gs r).isSome = true →
        joinedRanking gs r s.joined = some (mergedRanking gs r)) := by
  refine ⟨fun β jobs n s hrun => ?_, fun n s hrun hover => ⟨?_, ?_, ?_⟩⟩
  · have hinv := FanOut.inv_run hrun
    have hmoves := hrun.length_le
    refine ⟨by omega, fun hstuck => ?_, fun hover =>
      ⟨hinv.length_joined, hinv.getElem?_joined hover⟩⟩
    by_contra hwaits
    obtain ⟨s', hmove⟩ := hinv.exists_move hwaits
    exact hstuck s' hmove
  · rw [joinedRanking, FanOut.joined_eq hrun hover, List.filterMap_map]
    rfl
  · intro m t hrun' hover' hlost
    rw [hrun.joined_unique hover hrun' hover' hlost]
  · intro hnone hfirst
    obtain ⟨first, hfirst⟩ := Option.isSome_iff_exists.mp hfirst
    rw [joinedRanking, hfirst, hrun.joined_of_none_lost hover hnone, mergedRanking_eq,
      offeredBy_eq_append hfirst]
    rfl

/-- Three groups, the last of which reports before the second. -/
theorem lookups_joined_in_order_last_first :
    let group (n : Nat) (w : String) : Group :=
      { number := n, locale := .root,
        main := some (({ locale := .root } : Draft).addWord w.toList 100).build.dictionary }
    let gs := [group 0 "cat", group 1 "car", group 2 "cap"]
    let r : Request := { typed := "ca".toList, context := .empty 3, block := false }
    ∃ s, FanOut.Run (otherLookups gs r) 8 s ∧ s.IsOver ∧ s.arrived.map (·.1) = [1, 0] ∧
      joinedRanking gs r s.joined = some (mergedRanking gs r) := by
  intro group gs r
  let jobs := otherLookups gs r
  let second := (group 1 "car").candidates gs r
  let third := (group 2 "cap").candidates gs r
  let s : FanOut (List Candidate) :=
    { stages := [.done, .done], arrived := [(1, third), (0, second)] }
  have hstart : FanOut.Run jobs 2 { stages := [.running, .running] } :=
    (FanOut.Run.dispatch.move (.start (i := 0) rfl)).move (.start (i := 1) rfl)
  have hlast : FanOut.Run jobs 4
      { stages := [.running, .sent], arrived := [(1, third)] } :=
    (hstart.move (.report (i := 1) rfl rfl)).move (.read rfl)
  have hrun : FanOut.Run jobs 8 s :=
    (((hlast.move (.report (i := 0) rfl rfl)).move (.leave (i := 1) rfl)).move (.read rfl)).move
      (.leave (i := 0) rfl)
  have hover : s.IsOver := ⟨by decide, rfl⟩
  have hnone (i : Nat) : ¬ s.Lost i := fun hl => by
    have hmem : Stage.lost ∈ [Stage.done, Stage.done] := List.mem_of_getElem? hl
    exact absurd hmem (by decide)
  have hfirst : (firstLookup gs r).isSome = true := by decide +kernel
  exact ⟨s, hrun, hover, rfl, ((lookups_joined_in_order gs r).2 8 s hrun hover).2.2 hnone hfirst⟩

end Typeahead
