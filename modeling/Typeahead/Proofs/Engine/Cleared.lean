import Typeahead.Proofs.Engine.Reachable
import Typeahead.Proofs.TaskQueue.Service

/-! # Histories that are cleared

Clearing empties the histories at once, while what was learned just before still waits. So a word
comes back with a task that brings it, unless it is unlearned later in the queue (`Task.LeftIn`).
What a task makes of the tables of a store is `Task.on`; by `histories_drain` the waiting tasks make
just that of each history, one after another. Hence the histories stay empty exactly if no task that
waits leaves a word in one of them (`cleared_iff`). -/

namespace Typeahead

/-! ### Tasks about one store -/

namespace Task

variable {n : Nat} {w : Text} {t : Tables} {ts : List Task} {task : Task}

/-- The tables of the store of a number after a task. -/
def on (n : Nat) (t : Tables) : Task → Tables
  | .learn m c w valid time => if m = n ∧ w ≠ [] then t.use c w valid 1 time else t
  | .promote m w => if m = n ∧ w ≠ [] then t.add w Engine.userFrequency else t
  | .unlearn m w => if m = n then t.remove w else t
  | _ => t

/-- The task brings a word to the store of a number. -/
def Brings (n : Nat) (w : Text) : Task → Prop
  | .learn m _ v _ _ | .promote m v => m = n ∧ v ≠ [] ∧ v = w
  | _ => False

/-- Some task brings a word to the store of a number, and none that comes later takes it back. -/
def LeftIn (n : Nat) (w : Text) (ts : List Task) : Prop :=
  ∃ before task after, ts = before ++ task :: after ∧ task.Brings n w ∧ .unlearn n w ∉ after

theorem leftIn_nil : ¬ LeftIn n w [] := by
  rintro ⟨before, task, after, hsplit, -⟩
  exact absurd hsplit.symm (List.append_ne_nil_of_right_ne_nil before (List.cons_ne_nil task after))

theorem leftIn_concat : LeftIn n w (ts ++ [task]) ↔
    task.Brings n w ∨ LeftIn n w ts ∧ task ≠ .unlearn n w := by
  constructor
  · rintro ⟨before, t, after, hsplit, hbrings, hkept⟩
    rcases List.eq_nil_or_concat' after with rfl | ⟨later, last, rfl⟩
    · obtain ⟨-, hlast⟩ := List.append_inj' hsplit rfl
      obtain rfl := (List.cons.inj hlast).1
      exact .inl hbrings
    · rw [← List.cons_append, ← List.append_assoc] at hsplit
      obtain ⟨hinit, hlast⟩ := List.append_inj' hsplit rfl
      obtain rfl := (List.cons.inj hlast).1
      refine .inr ⟨⟨before, t, later, hinit, hbrings, fun hmem => ?_⟩, ?_⟩
      · exact hkept (List.mem_append_left _ hmem)
      · rintro rfl
        exact hkept (List.mem_append_right _ List.mem_cons_self)
  · rintro (hbrings | ⟨⟨before, t, after, rfl, hbrings, hkept⟩, hne⟩)
    · exact ⟨ts, task, [], rfl, hbrings, List.not_mem_nil⟩
    · refine ⟨before, t, after ++ [task], by rw [List.append_assoc]; rfl, hbrings, fun hmem => ?_⟩
      rcases List.mem_append.mp hmem with hmem | hmem
      · exact hkept hmem
      · exact hne (List.mem_singleton.mp hmem).symm

/-- A task about something else leaves the tables. -/
theorem on_of_ne (h : task.store? ≠ some n) : task.on n t = t := by
  cases task with
  | learn m c w valid time => exact if_neg fun hm => h (congrArg some hm.1)
  | promote m w => exact if_neg fun hm => h (congrArg some hm.1)
  | unlearn m w => exact if_neg fun hm => h (congrArg some hm)
  | writeList m => rfl
  | loadMain m l => rfl

theorem sound_on (h : t.Sound) (task : Task) : (on n t task).Sound := by
  cases task with
  | learn m c v valid time =>
    unfold on
    dsimp only
    split_ifs
    · exact Tables.sound_use h c v valid 1 time
    · exact h
  | promote m v =>
    unfold on
    dsimp only
    split_ifs
    · exact Tables.sound_add h v Engine.userFrequency
    · exact h
  | unlearn m v =>
    unfold on
    dsimp only
    split_ifs
    · exact Tables.sound_remove h v
    · exact h
  | writeList m => exact h
  | loadMain m l => exact h

/-- **What a task does to a word** of a store: it brings the word or takes it back, or leaves it. -/
theorem has_on (h : t.Sound) : (on n t task).words.has w = true ↔
    task.Brings n w ∨ t.words.has w = true ∧ task ≠ .unlearn n w := by
  cases task with
  | learn m c v valid time =>
    unfold on Brings
    dsimp only
    split_ifs with hm
    · rw [Tables.has_words_use h]
      simp [hm, eq_comm (a := w)]
    · have hnot : ¬ (m = n ∧ v ≠ [] ∧ v = w) := fun hb => hm ⟨hb.1, hb.2.1⟩
      simp [hnot]
  | promote m v =>
    unfold on Brings
    dsimp only
    split_ifs with hm
    · rw [Tables.has_words_add h]
      simp [hm, eq_comm (a := w)]
    · have hnot : ¬ (m = n ∧ v ≠ [] ∧ v = w) := fun hb => hm ⟨hb.1, hb.2.1⟩
      simp [hnot]
  | unlearn m v =>
    unfold on Brings
    dsimp only
    split_ifs with hm
    · rw [Tables.has_words_remove h]
      simp [hm, and_comm, eq_comm (a := w)]
    · simp [hm]
  | writeList m => simp [on, Brings]
  | loadMain m l => simp [on, Brings]

/-- **What tasks leave** in a store that was empty. -/
theorem has_foldl_on (ts : List Task) : (ts.foldl (on n) {}).Sound ∧
    ∀ w, (ts.foldl (on n) {}).words.has w = true ↔ LeftIn n w ts := by
  induction ts using List.reverseRecOn with
  | nil => exact ⟨Tables.sound_empty, fun w => ⟨fun h => (nomatch h), fun h => absurd h leftIn_nil⟩⟩
  | append_singleton ts task ih =>
    obtain ⟨hsound, hhas⟩ := ih
    rw [List.foldl_concat]
    refine ⟨sound_on hsound task, fun w => ?_⟩
    rw [has_on hsound, hhas, leftIn_concat]

instance : Decidable (LeftIn n w ts) := decidable_of_iff _ ((has_foldl_on ts).2 w)

end Task

/-- Sound tables without words have no followers either. -/
theorem Tables.Sound.eq_empty_iff {t : Tables} (h : t.Sound) :
    t = {} ↔ ∀ w, t.words.has w = false := by
  constructor
  · rintro rfl w
    rfl
  · intro hnone
    have hwords : t.words = [] := by
      by_contra hne
      obtain ⟨w, hw⟩ := WordMap.ne_nil_iff.mp hne
      rw [← WordMap.has_eq, hnone w] at hw
      exact nomatch hw
    refine eq_of_alike h.areMaps areMaps_empty h.full full_empty ⟨hwords, fun k => ?_⟩
    by_contra hne
    obtain ⟨v, hv⟩ := WordMap.ne_nil_iff.mp hne
    rw [← WordMap.has_eq] at hv
    have hword := h.held hv
    rw [hnone v] at hword
    exact nomatch hword

namespace Store

variable {s s' : Store} {t : Task}

/-- The store after a task. -/
def did (s : Store) (t : Task) : Store := s.withTables (t.on s.number s.tables)

theorem withTables_tables (h : s.Sound) : s.withTables s.tables = s := by
  have hfile : s.file.map (fun f => { f with tables := s.tables }) = s.file := by
    rcases hf : s.file with _ | f
    · rfl
    · rw [Option.map_some, ← h.file f hf]
  unfold withTables
  rw [hfile]

theorem sound_did (h : s.Sound) (t : Task) : (s.did t).Sound :=
  h.withTables (Task.sound_on h.tables t)

/-- A task about something else leaves the store as it is. -/
theorem did_of_ne (h : s.Sound) (hn : t.store? ≠ some s.number) : s.did t = s := by
  unfold did
  rw [Task.on_of_ne hn, withTables_tables h]

/-- The tasks of a list, one after another. -/
theorem foldl_did (ts : List Task) : ∀ {s : Store}, s.Sound →
    ts.foldl did s = s.withTables (ts.foldl (Task.on s.number) s.tables) := by
  induction ts with
  | nil => exact fun h => (withTables_tables h).symm
  | cons t ts ih =>
    intro s h
    rw [List.foldl_cons, ih (sound_did h t), List.foldl_cons]
    unfold did withTables
    rw [Option.map_map]
    rfl

end Store

namespace Engine

variable {e : Engine} {s s' : Store} {t : Task} {n : Nat}

/-- The stores of each group. -/
def subs (e : Engine) : List (List Store) := e.groups.map (·.subs)

/-- The histories of the groups. -/
def histories (e : Engine) : List Store := e.subs.flatten.filter (·.origin == .history)

theorem mem_stores_of_subs {ss : List Store} (hss : ss ∈ e.subs) (hs : s ∈ ss) :
    s ∈ e.stores := by
  obtain ⟨g, hg, rfl⟩ := List.mem_map.mp hss
  exact mem_stores_of_mem_subs hg hs

/-! ### What a task does to the stores -/

theorem subs_eq_of_did (hdid : ∀ s ∈ e.stores, s.did t = s) :
    e.subs.map (·.map (·.did t)) = e.subs := by
  refine (List.map_congr_left fun ss hss => ?_).trans (List.map_id _)
  refine (List.map_congr_left fun s hs => ?_).trans (List.map_id _)
  exact hdid s (mem_stores_of_subs hss hs)

theorem subs_putStore (h : e.Consistent) (hs : s ∈ e.stores) (ht : t.store? = some s.number) :
    (e.putStore (s.did t)).subs = e.subs.map (·.map (·.did t)) := by
  unfold subs putStore
  rw [List.map_map, List.map_map]
  refine List.map_congr_left fun g hg => List.map_congr_left fun u hu => ?_
  have hmem : u ∈ e.stores := mem_stores_of_mem_subs hg hu
  show (if u.number = s.number then s.did t else u) = u.did t
  by_cases hn : u.number = s.number
  · rw [if_pos hn, h.eq_of_number hmem hs hn]
  · rw [if_neg hn, Store.did_of_ne (h.soundStores u hmem)]
    rw [ht]
    exact fun hsome => hn (Option.some.inj hsome).symm

theorem subs_changeStore (h : e.Consistent) {change : Store → Except Failure Store}
    {after : Engine → Engine} (ht : t.store? = some n) (hafter : ∀ e', (after e').subs = e'.subs)
    (hchange : ∀ s, s.Sound → s.number = n →
      change s = .ok (s.did t) ∨ (∃ f, change s = .error f) ∧ s.did t = s) :
    (e.changeStore n change after).subs = e.subs.map (·.map (·.did t)) := by
  -- a store of another number is not touched
  have hother (s : Store) (hs : s ∈ e.stores) (hn : s.number ≠ n) : s.did t = s := by
    refine Store.did_of_ne (h.soundStores s hs) ?_
    rw [ht]
    exact fun hsome => hn (Option.some.inj hsome).symm
  unfold changeStore
  split
  · next hnone =>
    refine (subs_eq_of_did fun s hs => hother s hs fun hn => ?_).symm
    exact absurd hn (by simpa using List.find?_eq_none.mp hnone s hs)
  · next s hsome =>
    obtain ⟨hs, hn⟩ := mem_of_store? hsome
    rcases hchange s (h.soundStores s hs) hn with hok | ⟨⟨f, hf⟩, hsame⟩
    · rw [hok]
      show (after (e.putStore (s.did t))).subs = _
      rw [hafter, subs_putStore h hs (hn ▸ ht)]
    · rw [hf]
      refine (subs_eq_of_did fun u hu => ?_).symm
      by_cases hun : u.number = n
      · rw [h.eq_of_number hu hs (hun.trans hn.symm)]
        exact hsame
      · exact hother u hu hun

/-- A change that is refused for the empty word only. -/
theorem ok_or_same_of_word {w : Text} {u : Tables} (hs : s.Sound)
    (hon : t.on s.number s.tables = if s.number = s.number ∧ w ≠ [] then u else s.tables) :
    let r : Except Failure Store :=
      if w.isEmpty then .error (.invalidWord w) else .ok (s.withTables u)
    r = .ok (s.did t) ∨ (∃ f, r = .error f) ∧ s.did t = s := by
  intro r
  unfold Store.did
  rw [hon]
  by_cases hw : w = []
  · right
    refine ⟨⟨.invalidWord w, if_pos (List.isEmpty_iff.mpr hw)⟩, ?_⟩
    rw [if_neg fun hboth => hboth.2 hw, Store.withTables_tables hs]
  · left
    rw [if_pos ⟨rfl, hw⟩]
    exact if_neg fun hempty => hw (List.isEmpty_iff.mp hempty)

theorem subs_run_of_none (h : e.Consistent) (ht : t.store? = none) :
    (e.run t).subs = e.subs.map (·.map (·.did t)) := by
  rw [subs_eq_of_did fun s hs => Store.did_of_ne (h.soundStores s hs) (by rw [ht]; exact nofun)]
  obtain ⟨e', he', hran⟩ : ∃ e', e.run t = e' ∧ e.Ran t e' := ⟨_, rfl, ran_run e t⟩
  rw [he']
  cases hran with
  | nothing => rfl
  | store _ hwrites => cases hwrites <;> exact nomatch ht
  | list => rfl
  | @main g l d hg hd =>
    unfold subs putGroup
    rw [List.map_map]
    refine List.map_congr_left fun k hk => ?_
    rw [Function.comp_apply]
    dsimp only
    split_ifs with hn
    · rw [List.inj_on_of_nodup_map h.distinct hk hg hn]
    · rfl

/-- **A task** does to every store of a group what it says. -/
theorem subs_run (h : e.Consistent) (t : Task) :
    (e.run t).subs = e.subs.map (·.map (·.did t)) := by
  cases t with
  | learn n c w valid time =>
    refine subs_changeStore h rfl (fun _ => rfl) fun s hs hn => ?_
    subst hn
    rw [Store.use_eq hs]
    exact ok_or_same_of_word hs rfl
  | promote n w =>
    refine subs_changeStore h rfl (fun _ => rfl) fun s hs hn => ?_
    subst hn
    rw [Store.add_eq hs]
    exact ok_or_same_of_word hs rfl
  | unlearn n w =>
    have hforget : (e.forget n w).subs =
        (e.changeStore n (fun s => (s.remove w).map Prod.snd) id).subs := by
      unfold forget changeStore
      split
      · rfl
      · next s _ =>
        dsimp only
        rcases s.remove w with f | ⟨_ | _, s'⟩ <;> rfl
    show (e.forget n w).subs = _
    rw [hforget]
    refine subs_changeStore h rfl (fun _ => rfl) fun s hs hn => .inl ?_
    subst hn
    rw [Store.remove_eq hs]
    unfold Store.did Task.on
    dsimp only
    rw [if_pos rfl]
    rfl
  | writeList n => exact subs_run_of_none h rfl
  | loadMain n l => exact subs_run_of_none h rfl

/-! ### What waits -/

/-- **A turn** does what waits first, unless it is cancelled. -/
theorem subs_runNext (h : e.Sound) {w : Waiting Task} {ws : List (Waiting Task)}
    (hw : e.queue.waiting = w :: ws) : e.runNext.queue.waiting = ws ∧ e.runNext.subs =
      e.subs.map (·.map fun s => if w.cancelled then s else s.did w.task) := by
  obtain ⟨q, rest, hq, rfl, rfl⟩ : ∃ q rest, e.queue.queued = q :: rest ∧
      ⟨q.task, e.queue.isCancelled q⟩ = w ∧
      (rest.map fun q => ⟨q.task, e.queue.isCancelled q⟩) = ws :=
    List.map_eq_cons_iff.mp hw
  constructor
  · obtain ⟨hnone, -⟩ | ⟨q', rest', e', hq', -, -, hnext⟩ := runNext_cases h.free
    · exact nomatch hq.symm.trans hnone
    · obtain ⟨-, rfl⟩ := List.cons.inj (hq.symm.trans hq')
      rw [hnext]
      rfl
  · have hsubs : e.runNext.subs = (if e.queue.isCancelled q then e else e.run q.task).subs := by
      unfold runNext
      rw [hw]
      rfl
    rw [hsubs]
    dsimp only
    split_ifs
    · simp only [List.map_id_fun', id_eq]
    · exact subs_run h.toConsistent q.task

theorem subs_foldl_runNext (ws : List (Waiting Task)) : ∀ {e : Engine}, e.Sound →
    e.queue.waiting = ws → (ws.foldl (fun e _ => e.runNext) e).subs =
      e.subs.map (·.map fun s => (TaskQueue.uncancelled ws).foldl Store.did s) := by
  induction ws with
  | nil =>
    intro e _ _
    show e.subs = e.subs.map (·.map fun s => s)
    simp only [List.map_id_fun', id_eq]
  | cons w ws ih =>
    intro e h hw
    obtain ⟨hwaiting, hsubs⟩ := subs_runNext h hw
    rw [List.foldl_cons, ih (sound_runNext h) hwaiting, hsubs, List.map_map]
    refine List.map_congr_left fun ss _ => ?_
    rw [Function.comp_apply, List.map_map]
    refine List.map_congr_left fun s _ => ?_
    unfold TaskQueue.uncancelled
    rw [List.filter_cons, Function.comp_apply]
    cases w.cancelled <;> rfl

/-- **All that waits**, one after another. -/
theorem subs_drain (h : e.Sound) : e.drain.subs =
    e.subs.map (·.map fun s => (TaskQueue.uncancelled e.queue.waiting).foldl Store.did s) :=
  subs_foldl_runNext e.queue.waiting h rfl

/-! ### Clearing -/

theorem subs_clearHistory (h : e.Consistent) : e.clearHistory.subs =
    e.subs.map (·.map fun s => if s.origin = .history then s.withTables {} else s) := by
  have hgroup (g : Group) (hg : g ∈ e.groups) : (clearedHistory g).subs =
      g.subs.map fun s => if s.origin = .history then s.withTables {} else s := by
    have hsound := h.soundGroups g hg
    unfold clearedHistory
    rcases hsub : g.sub? .history with _ | s
    · refine ((List.map_congr_left fun u hu => ?_).trans (List.map_id _)).symm
      refine if_neg fun horigin => ?_
      rw [← horigin, Group.sub?_of_mem hsound hu] at hsub
      exact nomatch hsub
    · obtain ⟨hs, horigin⟩ := Group.mem_of_sub? hsub
      rw [Option.map_some, Store.clear_eq (h.sound_subs hg s hs)]
      refine List.map_congr_left fun u hu => ?_
      have hsame : u.number = s.number ↔ u.origin = .history := by
        constructor
        · intro hn
          rw [h.eq_of_number (mem_stores_of_mem_subs hg hu) (mem_stores_of_mem_subs hg hs) hn]
          exact horigin
        · intro ho
          have hu' := Group.sub?_of_mem hsound hu
          rw [ho, hsub] at hu'
          rw [Option.some.inj hu']
      show (if u.number = s.number then s.withTables {} else u) = _
      by_cases hn : u.number = s.number
      · rw [if_pos hn, if_pos (hsame.mp hn),
          h.eq_of_number (mem_stores_of_mem_subs hg hu) (mem_stores_of_mem_subs hg hs) hn]
      · rw [if_neg hn, if_neg fun ho => hn (hsame.mpr ho)]
  show ((e.groups.map clearedHistory).map fun g => g.subs) = _
  unfold subs
  rw [List.map_map, List.map_map]
  exact List.map_congr_left hgroup

/-- Histories stay histories. -/
theorem histories_eq_of_subs {e e' : Engine} {f : Store → Store}
    (horigin : ∀ s, (f s).origin = s.origin) (hsubs : e'.subs = e.subs.map (·.map f)) :
    e'.histories = e.histories.map f := by
  unfold histories
  rw [hsubs, ← List.map_flatten, List.filter_map]
  congr 1
  refine List.filter_congr fun s _ => ?_
  rw [Function.comp_apply, horigin]

theorem origin_foldl_did (ts : List Task) :
    ∀ s : Store, (ts.foldl Store.did s).origin = s.origin := by
  induction ts with
  | nil => exact fun _ => rfl
  | cons t ts ih => exact fun s => ih (s.did t)

/-- **The histories after clearing**, when all that waits is done. -/
theorem histories_clearHistory_drain (h : e.Sound) : e.clearHistory.drain.histories =
    e.histories.map fun s =>
      (TaskQueue.uncancelled e.queue.waiting).foldl Store.did (s.withTables {}) := by
  have hsound : e.clearHistory.Sound := h.perform .clearHistory
  rw [histories_eq_of_subs (origin_foldl_did _) (subs_drain hsound),
    histories_eq_of_subs (fun s => ?_) (subs_clearHistory h.toConsistent), List.map_map]
  · refine List.map_congr_left fun s hs => ?_
    have horigin : s.origin = .history := by simpa using (List.mem_filter.mp hs).2
    rw [Function.comp_apply, if_pos horigin]
    rfl
  · split_ifs <;> rfl

theorem sound_of_mem_histories (h : e.Consistent) (hs : s ∈ e.histories) : s.Sound := by
  obtain ⟨ss, hss, hmem⟩ := List.mem_flatten.mp (List.mem_filter.mp hs).1
  exact h.soundStores s (mem_stores_of_subs hss hmem)

/-- **Clearing is final** exactly if no task that waits leaves a word in one of the histories: what
is learned but not yet done when the histories are cleared comes back, unless it is unlearned
later. -/
theorem cleared_iff {p : Provider} {d : Disk} (hp : p.Sound) (hd : d.Sound) (s : Settings)
    (as : List Action) :
    let e := (start p s d).after as
    (∀ h ∈ e.clearHistory.drain.histories, h.tables = {}) ↔
      ∀ h ∈ e.histories, ∀ w,
        ¬ Task.LeftIn h.number w (TaskQueue.uncancelled e.queue.waiting) := by
  intro e
  have hsound : e.Sound := sound_after hp hd s as
  rw [histories_clearHistory_drain hsound, List.forall_mem_map]
  refine forall₂_congr fun h hh => ?_
  have hcleared : (h.withTables {}).Sound :=
    (sound_of_mem_histories hsound.toConsistent hh).withTables Tables.sound_empty
  obtain ⟨htables, hhas⟩ :=
    Task.has_foldl_on (n := h.number) (TaskQueue.uncancelled e.queue.waiting)
  have hleft : ((TaskQueue.uncancelled e.queue.waiting).foldl Store.did (h.withTables {})).tables =
      (TaskQueue.uncancelled e.queue.waiting).foldl (Task.on h.number) {} := by
    rw [Store.foldl_did _ hcleared]
    rfl
  rw [hleft, htables.eq_empty_iff]
  refine forall_congr' fun w => ?_
  rw [← hhas w, Bool.not_eq_true]

/-- A word is learned, and unlearned before the histories are cleared; another one was learned
long before. -/
theorem cleared_iff_unlearned :
    let p : Provider := .memory []
    let as : List Action := [.reset { primary := ⟨"en".toList⟩ },
      .commit "world".toList false (Context.empty 3) 1 false, .work, .work,
      .commit "hello".toList false (Context.empty 3) 2 false, .unlearn "hello".toList .revert]
    let e := (start p {} default).after as
    (p.Sound ∧ (default : Disk).Sound) ∧
      e.histories.map (·.tables.words.keys) = [["world".toList]] ∧ e.queue.queued.length = 2 ∧
      ∀ h ∈ e.clearHistory.drain.histories, h.tables = {} := by
  intro p as e
  have hp : p.Sound := Provider.sound_memory fun m hm => absurd hm List.not_mem_nil
  refine ⟨⟨hp, Disk.sound_default⟩, by decide +kernel, by decide +kernel, ?_⟩
  refine (cleared_iff hp Disk.sound_default {} as).mpr fun h hh w hleft => ?_
  have hempty : ∀ h ∈ e.histories,
      (TaskQueue.uncancelled e.queue.waiting).foldl (Task.on h.number) {} = {} := by decide +kernel
  rw [← (Task.has_foldl_on _).2 w, hempty h hh] at hleft
  exact nomatch hleft

/-- A word waits to be learned when the histories are cleared, and is in the history again when all
that waits is done. -/
theorem cleared_word_returns :
    let e := (start (.memory []) {} default).after [.reset { primary := ⟨"en".toList⟩ },
      .commit "hello".toList false (Context.empty 3) 1 false]
    e.clearHistory.histories.map (·.tables.words.keys) = [[]] ∧
      e.clearHistory.drain.queue.queued = [] ∧
      e.clearHistory.drain.histories.map (·.tables.words.keys) = [["hello".toList]] := by
  decide +kernel

end Engine

end Typeahead
