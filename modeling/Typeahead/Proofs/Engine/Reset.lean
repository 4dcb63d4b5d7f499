import Typeahead.Proofs.Engine.Work

/-! # What a reset does

A reset builds one group after another next to the engine: a store of the group comes from the old
group, or is opened under the next number (`addSub_of_none`); the group gets a number behind those
of its stores (`addGroup_eq`). What is built leaves the rest of the engine alone (`Opened`). Cached
answers are forgotten, and loads are queued for the groups that are not ready (`reset_eq`). -/

namespace Typeahead

namespace ResetRequest

theorem nodup_locales (r : ResetRequest) : r.locales.Nodup := by
  have hfold : ∀ (ls ms : List Locale), ms.Nodup →
      (ls.foldl (fun ls l => if ls.contains l then ls else ls ++ [l]) ms).Nodup := by
    intro ls
    induction ls with
    | nil => exact fun ms h => h
    | cons l ls ih =>
      intro ms h
      refine ih _ ?_
      dsimp only
      split_ifs with hl
      · exact h
      · refine h.append (List.nodup_singleton l) fun m hm hm' => ?_
        rw [List.mem_singleton.mp hm'] at hm
        exact hl (by simpa using hm)
  exact hfold r.secondary [r.primary] (List.nodup_singleton _)

theorem nodup_origins (r : ResetRequest) : r.origins.Nodup := by
  unfold origins
  split_ifs <;> decide

theorem origins_subset (r : ResetRequest) : r.origins ⊆ Origin.learned := by
  unfold origins
  split_ifs <;> decide

end ResetRequest

namespace Engine

/-- More was opened: numbers were given, and the disk may have changed. -/
structure Opened (e e' : Engine) : Prop where
  rest : e' = { e with nextNumber := e'.nextNumber, opens := e'.opens, disk := e'.disk }
  le : e.nextNumber ≤ e'.nextNumber

theorem Opened.refl (e : Engine) : Opened e e := ⟨rfl, Nat.le_refl _⟩

theorem Opened.trans {e e' e'' : Engine} (h : Opened e e') (h' : Opened e' e'') :
    Opened e e'' := by
  refine ⟨?_, Nat.le_trans h.le h'.le⟩
  rw [h'.rest, h.rest]

namespace Opened

variable {e e' : Engine} (h : Opened e e')
include h

theorem groups : e'.groups = e.groups := by rw [h.rest]

theorem provider : e'.provider = e.provider := by rw [h.rest]

theorem queue : e'.queue = e.queue := by rw [h.rest]

theorem keptStores : e'.keptStores = e.keptStores := by rw [h.rest]

theorem keptLists : e'.keptLists = e.keptLists := by rw [h.rest]

theorem stores : e'.stores = e.stores := by rw [Engine.stores, h.groups, h.keptStores, Engine.stores]

end Opened

namespace Building

variable {b : Building} {l : Locale} {account : Option Text} {old : Option Group} {o : Origin}

/-! ### Stores -/

theorem addSub_of_some {s : Store} (h : old.bind (·.sub? o) = some s) :
    addSub l account old b o = { b with subs := b.subs ++ [s] } := by
  unfold addSub
  rw [h]

/-- A store that the old group has not is opened, if it can be. -/
theorem addSub_of_none (h : old.bind (·.sub? o) = none) : addSub l account old b o =
    let r := b.engine.provider.openStore b.engine.disk b.placesInUse b.engine.nextNumber o l account
    { b with
      engine := { b.engine with
        nextNumber := b.engine.nextNumber + 1
        opens := b.engine.opens + 1
        disk := r.2 }
      subs := b.subs ++ r.1.toOption.toList } := by
  unfold addSub
  rw [h]
  simp only [fresh]
  split
  · next s disk hr =>
    rw [hr]
    rfl
  · next f disk hr =>
    rw [hr]
    show _ = Building.mk _ _ (b.subs ++ [])
    rw [List.append_nil]

theorem groups_addSub (l : Locale) (account : Option Text) (old : Option Group) (b : Building)
    (o : Origin) :
    (addSub l account old b o).groups = b.groups := by
  rcases h : old.bind (·.sub? o) with _ | s
  · rw [addSub_of_none h]
  · rw [addSub_of_some h]

theorem opened_addSub (l : Locale) (account : Option Text) (old : Option Group) (b : Building)
    (o : Origin) :
    Opened b.engine (addSub l account old b o).engine := by
  rcases h : old.bind (·.sub? o) with _ | s
  · rw [addSub_of_none h]
    exact ⟨rfl, Nat.le_succ _⟩
  · rw [addSub_of_some h]
    exact Opened.refl _

theorem foldl_addSub (os : List Origin) : ∀ b : Building,
    (os.foldl (addSub l account old) b).groups = b.groups ∧
      Opened b.engine (os.foldl (addSub l account old) b).engine := by
  induction os with
  | nil => exact fun b => ⟨rfl, Opened.refl _⟩
  | cons o os ih =>
    intro b
    obtain ⟨hgroups, hopened⟩ := ih (addSub l account old b o)
    exact ⟨hgroups.trans (groups_addSub l account old b o),
      (opened_addSub l account old b o).trans hopened⟩

/-! ### Groups -/

/-- The blacklist that a locale gets if it has none. -/
def newList (p : Provider) (l : Locale) (n : Nat) (d : Disk) : Blacklist :=
  match p.blacklistPath l with
  | some path => .load n path d
  | none => { number := n }

theorem number_newList (p : Provider) (l : Locale) (n : Nat) (d : Disk) :
    (newList p l n d).number = n := by
  unfold newList
  split <;> rfl

theorem path_newList (p : Provider) (l : Locale) (n : Nat) (d : Disk) :
    (newList p l n d).path = p.blacklistPath l := by
  unfold newList
  split
  · next path h => exact h.symm
  · next h => exact h.symm

theorem listFor_cases (e : Engine) (l : Locale) :
    (∃ g ∈ e.groups, g.locale = l ∧ listFor e l = (g.blacklist, e)) ∨
      (∀ g ∈ e.groups, g.locale ≠ l) ∧ listFor e l =
        (newList e.provider l e.nextNumber e.disk, { e with nextNumber := e.nextNumber + 1 }) := by
  unfold listFor newList
  split
  · next g hg =>
    exact .inl ⟨g, List.mem_of_find?_eq_some hg, by simpa using List.find?_some hg, rfl⟩
  · next hnone =>
    refine .inr ⟨fun g hg => by simpa using List.find?_eq_none.mp hnone g hg, ?_⟩
    simp only [fresh]
    rcases e.provider.blacklistPath l with _ | path <;> rfl

theorem opened_listFor (e : Engine) (l : Locale) : Opened e (listFor e l).2 := by
  rcases listFor_cases e l with ⟨g, -, -, h⟩ | ⟨-, h⟩
  · rw [h]
    exact Opened.refl e
  · rw [h]
    exact ⟨rfl, Nat.le_succ _⟩

theorem disk_listFor (e : Engine) (l : Locale) : (listFor e l).2.disk = e.disk := by
  rcases listFor_cases e l with ⟨g, -, -, h⟩ | ⟨-, h⟩
  · rw [h]
  · rw [h]

/-- The old group whose dictionaries a new one takes over. -/
def oldGroup (r : ResetRequest) (e : Engine) (l : Locale) : Option Group :=
  if r.force then none else e.groups.find? fun g => g.locale == l && g.account == r.account

theorem oldGroup_opened {e e' : Engine} (r : ResetRequest) (h : Opened e e') (l : Locale) :
    oldGroup r e' l = oldGroup r e l := by
  rw [oldGroup, oldGroup, h.groups]

/-- The building once the stores of the next group are there. -/
def withSubs (r : ResetRequest) (b : Building) (l : Locale) : Building :=
  r.origins.foldl (addSub l r.account (oldGroup r b.engine l)) { b with subs := [] }

theorem groups_withSubs (r : ResetRequest) (b : Building) (l : Locale) :
    (withSubs r b l).groups = b.groups := (foldl_addSub r.origins { b with subs := [] }).1

theorem opened_withSubs (r : ResetRequest) (b : Building) (l : Locale) :
    Opened b.engine (withSubs r b l).engine := (foldl_addSub r.origins { b with subs := [] }).2

/-- **The group of a locale** has the number after those of its stores and of its blacklist. -/
theorem addGroup_eq (r : ResetRequest) (b : Building) (l : Locale) : addGroup r b l =
    let e := (listFor (withSubs r b l).engine l).2
    let g : Group :=
      { number := e.nextNumber
        locale := l
        account := r.account
        main := (oldGroup r b.engine l).bind (·.main)
        subs := (withSubs r b l).subs
        blacklist := (listFor (withSubs r b l).engine l).1 }
    { engine := { e with nextNumber := e.nextNumber + 1 }, groups := b.groups ++ [g] } := by
  dsimp only
  conv_rhs => rw [← groups_withSubs r b l]
  rfl

theorem opened_listFor_withSubs (r : ResetRequest) (b : Building) (l : Locale) :
    Opened b.engine (listFor (withSubs r b l).engine l).2 :=
  (opened_withSubs r b l).trans (opened_listFor _ l)

theorem opened_addGroup (r : ResetRequest) (b : Building) (l : Locale) :
    Opened b.engine (addGroup r b l).engine := by
  rw [addGroup_eq]
  exact (opened_listFor_withSubs r b l).trans ⟨rfl, Nat.le_succ _⟩

theorem opened_foldl (r : ResetRequest) (ls : List Locale) : ∀ b : Building,
    Opened b.engine (ls.foldl (addGroup r) b).engine := by
  induction ls with
  | nil => exact fun b => Opened.refl _
  | cons l ls ih => exact fun b => (opened_addGroup r b l).trans (ih _)

theorem locales_addGroup (r : ResetRequest) (b : Building) (l : Locale) :
    (addGroup r b l).groups.map (·.locale) = b.groups.map (·.locale) ++ [l] := by
  rw [addGroup_eq, List.map_append, List.map_singleton]

theorem locales_foldl (r : ResetRequest) (ls : List Locale) : ∀ b : Building,
    (ls.foldl (addGroup r) b).groups.map (·.locale) = b.groups.map (·.locale) ++ ls := by
  induction ls with
  | nil => exact fun b => (List.append_nil _).symm
  | cons l ls ih =>
    intro b
    rw [List.foldl_cons, ih, locales_addGroup, List.append_assoc, List.singleton_append]

/-- What holds of the disk while stores are opened holds of it in the end. -/
theorem disk_foldl_addSub {P : Disk → Prop} {p : Provider} (os : List Origin) :
    ∀ {b : Building}, (∀ o ∈ os, ∀ d inUse n, P d → P (p.openStore d inUse n o l account).2) →
      b.engine.provider = p → P b.engine.disk →
      P (os.foldl (addSub l account old) b).engine.disk := by
  induction os with
  | nil => exact fun _ _ h => h
  | cons o os ih =>
    intro b hopen hp h
    have hprovider : (addSub l account old b o).engine.provider = p := by
      rw [(opened_addSub l account old b o).rest]
      exact hp
    refine ih (fun o' ho' => hopen o' (List.mem_cons_of_mem o ho')) hprovider ?_
    rcases hsub : old.bind (·.sub? o) with _ | s
    · rw [addSub_of_none hsub]
      dsimp only
      rw [hp]
      exact hopen o List.mem_cons_self b.engine.disk b.placesInUse b.engine.nextNumber h
    · rw [addSub_of_some hsub]
      exact h

/-- The numbers of the groups so far are different and below the next one. -/
def Numbered (b : Building) : Prop := ({ b.engine with groups := b.groups } : Engine).Numbered

theorem Numbered.addGroup {r : ResetRequest} (h : b.Numbered) (l : Locale) :
    (addGroup r b l).Numbered := by
  have hle := (opened_listFor_withSubs r b l).le
  rw [addGroup_eq]
  refine ⟨?_, ?_⟩
  · show (List.map _ (b.groups ++ [_])).Nodup
    rw [List.map_append, List.map_singleton, List.nodup_append]
    refine ⟨h.distinct, List.nodup_singleton _, fun n hn m hm => ?_⟩
    rw [List.mem_singleton.mp hm]
    exact Nat.ne_of_lt (Nat.lt_of_lt_of_le (h.below n hn) hle)
  · intro n hn
    show n < (listFor (withSubs r b l).engine l).2.nextNumber + 1
    rw [List.map_append, List.mem_append] at hn
    rcases hn with hn | hn
    · exact Nat.lt_succ_of_lt (Nat.lt_of_lt_of_le (h.below n hn) hle)
    · rw [List.mem_singleton.mp hn]
      exact Nat.lt_succ_self _

theorem Numbered.foldl {r : ResetRequest} (ls : List Locale) : ∀ {b : Building}, b.Numbered →
    (ls.foldl (Building.addGroup r) b).Numbered := by
  induction ls with
  | nil => exact fun h => h
  | cons l ls ih => exact fun h => ih (h.addGroup l)

end Building

variable {e : Engine}

/-! ### The reset as a whole -/

/-- The loads of the groups whose main dictionary is missing or not ready. -/
def loadsFor (token : Nat) (gs : List Group) : List (Queued Task) :=
  (gs.filter (!·.isReady)).map fun g => ⟨.loadMain g.number g.locale, some token⟩

theorem mem_loadsFor {token : Nat} {gs : List Group} {q : Queued Task} :
    q ∈ loadsFor token gs ↔
      ∃ g ∈ gs, g.isReady = false ∧ q = ⟨.loadMain g.number g.locale, some token⟩ := by
  unfold loadsFor
  simp only [List.mem_map, List.mem_filter, Bool.not_eq_true', and_assoc, eq_comm (a := q)]

/-- Loads are queued and counted in. -/
theorem queueLoads_eq (gs : List Group) : ∀ e : Engine,
    e.queueLoads gs = { e with
      queue := { e.queue with
        queued := e.queue.queued ++ loadsFor e.queue.token gs
        pending := e.queue.pending + (loadsFor e.queue.token gs).length }
      loading := e.loading + (loadsFor e.queue.token gs).length } := by
  induction gs with
  | nil => exact fun e => by rw [loadsFor, List.filter_nil, List.map_nil, List.append_nil]; rfl
  | cons g gs ih =>
    intro e
    by_cases hready : g.isReady
    · rw [queueLoads, List.foldl_cons, if_pos hready, ← queueLoads, ih, loadsFor, loadsFor,
        List.filter_cons_of_neg (by simp [hready])]
    · rw [queueLoads, List.foldl_cons, if_neg hready, ← queueLoads, ih, loadsFor, loadsFor,
        List.filter_cons_of_pos (by simp [hready])]
      simp only [queueLoad, TaskQueue.pushCancellable, TaskQueue.enqueue, TaskQueue.enter,
        List.append_assoc, List.singleton_append, List.map_cons, List.length_cons,
        Nat.add_assoc, Nat.add_comm 1]

/-- The building that a reset ends with. -/
def built (e : Engine) (r : ResetRequest) : Building :=
  r.locales.foldl (Building.addGroup r) { engine := { e with queue := e.queue.cancelWaiting } }

/-- **A reset** replaces the groups, queues loads, and forgets cached answers. -/
theorem reset_eq (e : Engine) (r : ResetRequest) : e.reset r =
    let e' := (e.built r).engine.replaceGroups (e.built r).groups
    { e' with
      queue := { e'.queue with
        queued := e'.queue.queued ++ loadsFor e'.queue.token (e.built r).groups
        pending := e'.queue.pending + (loadsFor e'.queue.token (e.built r).groups).length }
      loading := e'.loading + (loadsFor e'.queue.token (e.built r).groups).length
      spelling := e'.spelling.clear
      predictions := [] } := by
  unfold reset
  dsimp only
  rw [← built, queueLoads_eq]
  rfl

theorem opened_built (e : Engine) (r : ResetRequest) :
    Opened { e with queue := e.queue.cancelWaiting } (e.built r).engine :=
  Building.opened_foldl r r.locales { engine := { e with queue := e.queue.cancelWaiting } }

theorem numbered_built (e : Engine) (r : ResetRequest) : (e.built r).Numbered := by
  have hstart : ({ engine := { e with queue := e.queue.cancelWaiting } } : Building).Numbered :=
    ⟨List.nodup_nil, by simp⟩
  exact hstart.foldl r.locales

end Engine

end Typeahead
