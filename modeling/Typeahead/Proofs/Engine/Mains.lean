import Typeahead.Proofs.Engine.Cleared
import Typeahead.Proofs.Engine.Loads

/-! # Where main dictionaries come from

A main dictionary is one that the engine had before, or the provider has just loaded it
(`mem_mains_perform`). So in every run the main dictionaries are those of the provider
(`loaded_after`), and while no load waits they stay as they are until nothing waits at all
(`mains_drain`). -/

namespace Typeahead

namespace Engine

/-- The main dictionaries that the groups have. -/
def mains (e : Engine) : List Dictionary := e.groups.filterMap (·.main)

variable {e e' : Engine} {m : Dictionary} {ws : List Text}

theorem mem_mains : m ∈ e.mains ↔ ∃ g ∈ e.groups, g.main = some m := List.mem_filterMap

/-! ### Actions -/

theorem Edits.mains_eq (h : e.Edits ws e') : e'.mains = e.mains := by
  obtain ⟨f, hgroups, hf⟩ := h.groups
  rw [mains, hgroups, List.filterMap_map, mains]
  exact List.filterMap_congr fun g _ => (hf g).main

/-- The groups of a reset take over main dictionaries of the old ones. -/
theorem Building.main_of_mem_foldl {r : ResetRequest} {gs : List Group} {k : Group}
    (hmain : k.main = some m) (ls : List Locale) : ∀ {b : Building}, b.engine.groups = gs →
    k ∈ (ls.foldl (addGroup r) b).groups → k ∈ b.groups ∨ ∃ g ∈ gs, g.main = some m := by
  induction ls with
  | nil => exact fun _ hk => .inl hk
  | cons l ls ih =>
    intro b hgs hk
    obtain hk | hold := ih ((opened_addGroup r b l).groups.trans hgs) hk
    · rw [addGroup_eq, List.mem_append, List.mem_singleton] at hk
      obtain hk | rfl := hk
      · exact .inl hk
      · obtain ⟨g, hg, hgm⟩ := Option.bind_eq_some_iff.mp hmain
        unfold oldGroup at hg
        split_ifs at hg
        exact .inr ⟨g, hgs ▸ List.mem_of_find?_eq_some hg, hgm⟩
    · exact .inr hold

theorem mem_mains_reset {r : ResetRequest} (h : m ∈ (e.reset r).mains) : m ∈ e.mains := by
  rw [reset_eq] at h
  obtain ⟨k, hk, hmain⟩ := mem_mains.mp h
  refine mem_mains.mpr ?_
  exact (Building.main_of_mem_foldl (b := { engine := { e with queue := e.queue.cancelWaiting } })
    hmain r.locales rfl hk).resolve_left List.not_mem_nil

theorem mem_mains_runNext (h : e.Orderly) (hm : m ∈ e.runNext.mains) :
    m ∈ e.mains ∨ ∃ d l, e.provider.loadMain d l = .ok m := by
  rcases runNext_cases h.free with ⟨-, heq⟩ | ⟨q, rest, e', -, hran, -, heq⟩
  · exact .inl (heq ▸ hm)
  · obtain ⟨f, hgroups, hf⟩ := hran.mains h.toNumbered
    rw [heq] at hm
    obtain ⟨k, hk, hmain⟩ := mem_mains.mp hm
    replace hk : k ∈ e'.groups := hk
    rw [hgroups] at hk
    obtain ⟨g, hg, rfl⟩ := List.mem_map.mp hk
    obtain hsame | ⟨l, d, -, hd, hnew⟩ := (hf g hg).2.2
    · exact .inl (mem_mains.mpr ⟨g, hg, hsame ▸ hmain⟩)
    · exact .inr ⟨e.disk, l, Option.some.inj (hnew.symm.trans hmain) ▸ hd⟩

/-- **A main dictionary** was there before, or it was loaded now. -/
theorem mem_mains_perform (h : e.Orderly) (a : Action) (hm : m ∈ (e.perform a).mains) :
    m ∈ e.mains ∨ ∃ d l, e.provider.loadMain d l = .ok m := by
  cases a using Action.edit_cases with
  | edit a ha => exact .inl ((edits_perform h ha).mains_eq ▸ hm)
  | reset r => exact .inl (mem_mains_reset hm)
  | close => exact absurd hm List.not_mem_nil
  | restart => exact absurd hm List.not_mem_nil
  | work => exact mem_mains_runNext h hm

/-- **Whatever happened**, the main dictionaries are the provider's. -/
theorem loaded_after (p : Provider) (s : Settings) (d : Disk) (as : List Action) :
    ∀ m ∈ ((start p s d).after as).mains, ∃ d l, p.loadMain d l = .ok m := by
  induction as using List.reverseRecOn with
  | nil => exact fun m hm => absurd hm List.not_mem_nil
  | append_singleton as a ih =>
    intro m hm
    rw [after, List.foldl_concat, ← after] at hm
    obtain hold | hnew := mem_mains_perform (orderly_after p s d as) a hm
    · exact ih m hold
    · rwa [provider_after] at hnew

/-! ### When all that waits is done -/

/-- What holds through every turn holds when nothing waits any more. -/
theorem drain_induction {P : Engine → Prop} (hstep : ∀ e : Engine, e.Sound → P e → P e.runNext)
    (hsound : e.Sound) (h : P e) : P e.drain ∧ e.drain.Sound ∧ e.drain.queue.queued = [] := by
  have hrun : ∀ (ws : List (Waiting Task)) (e : Engine), e.Sound → P e → e.queue.waiting = ws →
      P (ws.foldl (fun e _ => e.runNext) e) ∧ (ws.foldl (fun e _ => e.runNext) e).Sound ∧
        (ws.foldl (fun e _ => e.runNext) e).queue.queued = [] := by
    intro ws
    induction ws with
    | nil => exact fun e hsound h hws => ⟨h, hsound, List.map_eq_nil_iff.mp hws⟩
    | cons w ws ih =>
      exact fun e hsound h hws =>
        ih e.runNext (sound_runNext hsound) (hstep e hsound h) (subs_runNext hsound hws).1
  exact hrun e.queue.waiting e hsound h rfl

theorem sound_drain (hsound : e.Sound) : e.drain.Sound :=
  (drain_induction (P := fun _ => True) (fun _ _ _ => trivial) hsound trivial).2.1

theorem idle_drain (hsound : e.Sound) : e.drain.queue.queued = [] :=
  (drain_induction (P := fun _ => True) (fun _ _ _ => trivial) hsound trivial).2.2

/-- No load waits. -/
def NoLoads (e : Engine) : Prop := ∀ q ∈ e.queue.queued, q.task.isLoad = false

theorem NoLoads.edits (h : e.NoLoads) (he : e.Edits ws e') : e'.NoLoads := by
  obtain ⟨ts, hqueue, hts⟩ := he.queue
  intro q hq
  rw [hqueue, TaskQueue.queued_pushAll, List.mem_append] at hq
  obtain hq | hq := hq
  · exact h q hq
  · obtain ⟨t, ht, rfl⟩ := List.mem_map.mp hq
    exact (hts t ht).1

/-- **A turn** that loads nothing leaves the groups' main dictionaries. -/
theorem NoLoads.runNext (h : e.NoLoads) (he : e.Orderly) :
    e.runNext.NoLoads ∧ e.runNext.groups.map (·.main) = e.groups.map (·.main) := by
  rcases runNext_cases he.free with ⟨-, heq⟩ | ⟨q, rest, e', hqueue, hran, -, heq⟩
  · rw [heq]
    exact ⟨h, rfl⟩
  · obtain ⟨f, hgroups, hf⟩ := hran.mains he.toNumbered
    rw [heq]
    refine ⟨fun p hp => h p (hqueue ▸ List.mem_cons_of_mem q hp), ?_⟩
    show e'.groups.map (·.main) = _
    rw [hgroups, List.map_map]
    refine List.map_congr_left fun g hg => ((hf g hg).2.2).resolve_right ?_
    rintro ⟨l, d, htask, -, -⟩
    have hload := h q (hqueue ▸ List.mem_cons_self)
    rw [htask] at hload
    exact nomatch hload

/-- **Main dictionaries stay** where no load waits. -/
theorem mains_drain (hsound : e.Sound) (h : e.NoLoads) :
    e.drain.groups.map (·.main) = e.groups.map (·.main) := by
  have hkept := drain_induction
    (P := fun k => k.NoLoads ∧ k.groups.map (·.main) = e.groups.map (·.main))
    (fun k hk hstays => ?_) hsound ⟨h, rfl⟩
  · exact hkept.1.2
  · obtain ⟨hnone, hsame⟩ := hstays.1.runNext hk.toOrderly
    exact ⟨hnone, hsame.trans hstays.2⟩

end Engine

end Typeahead
