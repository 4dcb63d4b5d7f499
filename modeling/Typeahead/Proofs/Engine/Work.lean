import Typeahead.Proofs.Engine.Groups

/-! # What waiting work does

A task changes nothing, or it changes what it names: a store, the file of a blacklist or the main
dictionary of a group. `Ran` says all of what it can do (`ran_run`), so that later modules need not
follow `Engine.run`; `runNext_cases` says the same of a turn, which takes the first task from the
queue. -/

namespace Typeahead

theorem TaskQueue.start_finish {α : Type} {q : TaskQueue α} {w : Queued α} {rest : List (Queued α)}
    (hfree : q.running = none) (hq : q.queued = w :: rest) :
    q.start.finish = { q with queued := rest, pending := q.pending - 1 } := by
  unfold start
  rw [hfree, hq]
  dsimp only
  split_ifs
  · rw [finish, exit]
  · rw [finish, exit, ← hfree]

theorem Task.eq_writeList {t : Task} {n : Nat} (h : t.list? = some n) : t = .writeList n := by
  cases t with
  | writeList m => exact congrArg _ (Option.some.inj h)
  | learn | promote | unlearn | loadMain => exact nomatch h

/-- The task turns a store into a new version of it, and `forgets` says whether predictions are
forgotten with that. -/
inductive Task.Writes : Task → Store → Bool → Store → Prop
  | learn {s s' : Store} {c : Context} {w : Text} {valid : Bool} {time : Nat}
      (h : s.use c w valid 1 time = .ok s') : Writes (.learn s.number c w valid time) s true s'
  | promote {s s' : Store} {w : Text} (h : s.add w Engine.userFrequency = .ok s') :
      Writes (.promote s.number w) s false s'
  | unlearn {s s' : Store} {w : Text} {held : Bool} (h : s.remove w = .ok (held, s')) :
      Writes (.unlearn s.number w) s held s'

namespace Engine

variable {e e' : Engine} {t : Task} {n : Nat}

/-! ### Tasks -/

theorem mem_of_store? {s : Store} (h : e.store? n = some s) : s ∈ e.stores ∧ s.number = n :=
  ⟨List.mem_of_find?_eq_some h, by simpa using List.find?_some h⟩

/-- **What a task can do** to the engine. -/
inductive Ran (e : Engine) : Task → Engine → Prop
  | nothing (t : Task) (loads : Nat) : Ran e t { e with loads }
  | store {t : Task} {s s' : Store} {forgets : Bool} (hs : s ∈ e.stores)
      (hwrites : t.Writes s forgets s') :
      Ran e t { e.putStore s' with predictions := if forgets then [] else e.predictions }
  | list {n : Nat} {b : Blacklist} (hb : e.list? n = some b) :
      Ran e (.writeList n) { e with disk := (b.persist e.disk).2 }
  | main {g : Group} {l : Locale} {d : Dictionary} (hg : g ∈ e.groups)
      (hd : e.provider.loadMain e.disk l = .ok d) :
      Ran e (.loadMain g.number l)
        ({ e with loads := e.loads + 1 }.putGroup { g with main := some d })

theorem ran_changeStore {change : Store → Except Failure Store} {after : Engine → Engine}
    (forgets : Bool) (hafter : ∀ e', after e' =
      { e' with predictions := if forgets then [] else e'.predictions })
    (hwrites : ∀ s s', s.number = n → change s = .ok s' → t.Writes s forgets s') :
    e.Ran t (e.changeStore n change after) := by
  unfold changeStore
  split
  · exact .nothing t e.loads
  · next s hs =>
    obtain ⟨hmem, hn⟩ := mem_of_store? hs
    split
    · next s' hs' =>
      rw [hafter]
      exact .store hmem (hwrites s s' hn hs')
    · exact .nothing t e.loads

theorem ran_forget (e : Engine) (n : Nat) (w : Text) : e.Ran (.unlearn n w) (e.forget n w) := by
  unfold forget
  split
  · exact .nothing _ e.loads
  · next s hs =>
    obtain ⟨hmem, rfl⟩ := mem_of_store? hs
    split
    · next held s' hs' =>
      have hran := Ran.store hmem (.unlearn hs')
      cases held with
      | false => exact hran
      | true => exact hran
    · exact .nothing _ e.loads

theorem ran_loadMain (e : Engine) (n : Nat) (l : Locale) :
    e.Ran (.loadMain n l) (e.loadMain n l) := by
  unfold loadMain
  split
  · exact .nothing _ e.loads
  · next g hg =>
    obtain rfl : g.number = n := by simpa using List.find?_some hg
    dsimp only
    split
    · next d hd => exact .main (List.mem_of_find?_eq_some hg) hd
    · exact .nothing _ (e.loads + 1)

theorem ran_writeList (e : Engine) (n : Nat) : e.Ran (.writeList n) (e.writeList n) := by
  unfold writeList
  split
  · exact .nothing _ e.loads
  · next b hb => exact .list hb

/-- **A task** does what it can do. -/
theorem ran_run (e : Engine) (t : Task) : e.Ran t (e.run t) := by
  cases t with
  | learn n c w valid time =>
    refine ran_changeStore true (fun _ => rfl) fun s s' hn hs' => ?_
    rw [← hn]
    exact .learn hs'
  | promote n w =>
    refine ran_changeStore false (fun _ => rfl) fun s s' hn hs' => ?_
    rw [← hn]
    exact .promote hs'
  | unlearn n w => exact ran_forget e n w
  | writeList n => exact ran_writeList e n
  | loadMain n l => exact ran_loadMain e n l

/-- Only a write changes the disk. -/
theorem Ran.disk_eq (h : e.Ran t e') (hn : t.list? = none) : e'.disk = e.disk := by
  cases h with
  | nothing => rfl
  | store => rfl
  | list => exact nomatch hn
  | main => rfl

/-- Nothing but groups, stores, predictions and the disk is changed. -/
structure SameQueue (e e' : Engine) : Prop where
  queue : e'.queue = e.queue
  loading : e'.loading = e.loading
  numbers : e'.groups.map (·.number) = e.groups.map (·.number)
  nextNumber : e'.nextNumber = e.nextNumber
  spelling : e'.spelling = e.spelling
  predictions : e'.predictions = e.predictions ∨ e'.predictions = []

theorem Ran.sameQueue (h : e.Ran t e') : SameQueue e e' := by
  cases h with
  | nothing => exact ⟨rfl, rfl, rfl, rfl, rfl, .inl rfl⟩
  | store =>
    refine ⟨rfl, rfl, numbers_putStore e _, rfl, rfl, ?_⟩
    dsimp only
    split_ifs
    · exact .inr rfl
    · exact .inl rfl
  | list => exact ⟨rfl, rfl, rfl, rfl, rfl, .inl rfl⟩
  | main => exact ⟨rfl, rfl, numbers_putGroup _ _, rfl, rfl, .inl rfl⟩

/-- **Of the groups** a task changes the dictionaries and nothing else. -/
theorem Ran.groups (h : e.Ran t e') (he : e.Numbered) : ∃ f : Group → Group,
    e'.groups = e.groups.map f ∧
      ∀ g ∈ e.groups, f g = { g with main := (f g).main, subs := (f g).subs } := by
  cases h with
  | nothing => exact ⟨id, (List.map_id _).symm, fun _ _ => rfl⟩
  | @store _ s s' => exact ⟨(·.putStore s'), rfl, fun _ _ => rfl⟩
  | list => exact ⟨id, (List.map_id _).symm, fun _ _ => rfl⟩
  | main hg =>
    refine ⟨_, rfl, fun k hk => ?_⟩
    dsimp only
    split_ifs with hn
    · rw [List.inj_on_of_nodup_map he.distinct hk hg hn]
    · rfl

/-! ### Turns -/

/-- **A turn** takes the first task from the queue and does it, unless it is cancelled. -/
theorem runNext_cases (hfree : e.queue.running = none) :
    (e.queue.queued = [] ∧ e.runNext = e) ∨
    ∃ q rest e', e.queue.queued = q :: rest ∧ e.Ran q.task e' ∧
      (e.queue.isCancelled q = false → e' = e.run q.task) ∧
      e.runNext = { e' with
        queue := { e.queue with queued := rest, pending := e.queue.pending - 1 }
        loading := if q.task.isLoad then e.loading - 1 else e.loading }.settle := by
  rcases hq : e.queue.queued with _ | ⟨q, rest⟩
  · refine .inl ⟨rfl, ?_⟩
    unfold runNext TaskQueue.waiting
    rw [hq]
    rfl
  · have hran : e.Ran q.task (if e.queue.isCancelled q then e else e.run q.task) := by
      split_ifs
      · exact .nothing q.task e.loads
      · exact ran_run e q.task
    refine .inr ⟨q, rest, _, rfl, hran, fun hgoes => if_neg (Bool.eq_false_iff.mp hgoes), ?_⟩
    unfold runNext TaskQueue.waiting
    rw [hq]
    simp only [List.map_cons]
    rw [hran.sameQueue.queue, hran.sameQueue.loading, TaskQueue.start_finish hfree hq]

end Engine

end Typeahead
