import Typeahead.Lexicon.Draft
import Typeahead.Proofs.Engine.Edits

/-! # Loads of main dictionaries

A reset cancels the loads that wait and queues one for each group that is not ready. What waits to
be loaded is counted, its tasks name groups by numbers that no other locale gets (`Tracked`), and a
group whose locale can be loaded is ready or has a load waiting that nobody cancelled (`Tended`).
Both hold through every run. So when nothing waits, all groups that can be ready are, and nobody who
waits for main dictionaries is held up (`loaded_when_idle`). -/

namespace Typeahead

/-- Whether locales are asked for after an action. -/
def Action.asks (asked : Bool) : Action → Bool
  | .reset _ => true
  | .close | .restart => false
  | _ => asked

namespace Engine

/-- Locales were asked for, and not given up since. -/
def asked (as : List Action) : Bool := as.foldl Action.asks false

/-- The main dictionary of a locale can be loaded as things stand, and is ready then. -/
def canLoad (e : Engine) (l : Locale) : Bool :=
  match e.provider.loadMain e.disk l with
  | .ok m => m.initialized
  | .error _ => false

/-- The loads that wait are counted, and the groups that they name have the locales that are to be
loaded. -/
structure Tracked (e : Engine) : Prop where
  loading : e.loading = e.queue.queued.countP (·.task.isLoad)
  revoked : ∀ n ∈ e.queue.revoked, n < e.queue.token
  loads : ∀ q ∈ e.queue.queued, ∀ n l, q.task = .loadMain n l →
    n < e.nextNumber ∧ ∀ g ∈ e.groups, g.number = n → g.locale = l

/-- The groups of a locale are ready, or have a load waiting that can be cancelled by the next reset
only. -/
def Tended (l : Locale) (e : Engine) : Prop :=
  ∀ g ∈ e.groups, g.locale = l →
    g.isReady = true ∨ ⟨.loadMain g.number l, some e.queue.token⟩ ∈ e.queue.queued

variable {e e' : Engine} {l : Locale} {ws : List Text}

/-! ### Actions that keep the groups -/

theorem Tracked.edits (h : e.Tracked) (he : e.Edits ws e') : e'.Tracked := by
  obtain ⟨f, hgroups, hf⟩ := he.groups
  obtain ⟨ts, hqueue, hts⟩ := he.queue
  rw [TaskQueue.pushAll_eq] at hqueue
  have hnone : (ts.map fun t => (⟨t, none⟩ : Queued Task)).countP (·.task.isLoad) = 0 := by
    rw [List.countP_map, List.countP_eq_zero]
    intro t ht
    rw [Function.comp_apply, (hts t ht).1]
    exact Bool.false_ne_true
  refine ⟨?_, ?_, fun q hq n l hload => ?_⟩
  · rw [he.loading, hqueue, List.countP_append, hnone]
    exact h.loading
  · rw [hqueue]
    exact h.revoked
  · rw [hqueue] at hq
    rcases List.mem_append.mp hq with hq | hq
    · obtain ⟨hbelow, hlocale⟩ := h.loads q hq n l hload
      refine ⟨he.nextNumber ▸ hbelow, fun k hk hn => ?_⟩
      rw [hgroups] at hk
      obtain ⟨g, hg, rfl⟩ := List.mem_map.mp hk
      rw [(hf g).locale]
      exact hlocale g hg ((hf g).number ▸ hn)
    · obtain ⟨t, ht, rfl⟩ := List.mem_map.mp hq
      have hnot := (hts t ht).1
      rw [show t = .loadMain n l from hload] at hnot
      exact nomatch hnot

theorem Tended.edits (h : Tended l e) (he : e.Edits ws e') : Tended l e' := by
  obtain ⟨f, hgroups, hf⟩ := he.groups
  obtain ⟨ts, hqueue, -⟩ := he.queue
  rw [TaskQueue.pushAll_eq] at hqueue
  intro k hk hl
  rw [hgroups] at hk
  obtain ⟨g, hg, rfl⟩ := List.mem_map.mp hk
  rcases h g hg ((hf g).locale ▸ hl) with hready | hwaits
  · left
    rw [Group.isReady, (hf g).main]
    exact hready
  · right
    rw [hqueue, (hf g).number]
    exact List.mem_append_left _ hwaits

/-! ### Changes of locales -/

namespace Building

theorem number_le_foldl {r : ResetRequest} {n : Nat} (ls : List Locale) : ∀ {b : Building},
    n ≤ b.engine.nextNumber → (∀ g ∈ b.groups, n ≤ g.number) →
    ∀ g ∈ (ls.foldl (addGroup r) b).groups, n ≤ g.number := by
  induction ls with
  | nil => exact fun _ h => h
  | cons l ls ih =>
    intro b hn h
    refine ih (Nat.le_trans hn (opened_addGroup r b l).le) fun g hg => ?_
    rw [addGroup_eq] at hg
    rcases List.mem_append.mp hg with hg | hg
    · exact h g hg
    · rw [List.mem_singleton.mp hg]
      exact Nat.le_trans hn (opened_listFor_withSubs r b l).le

end Building

/-- The groups that a reset builds have new numbers. -/
theorem number_le_built {r : ResetRequest} {g : Group} (hg : g ∈ (e.built r).groups) :
    e.nextNumber ≤ g.number :=
  Building.number_le_foldl r.locales (b := { engine := { e with queue := e.queue.cancelWaiting } })
    (Nat.le_refl _) (fun _ h => absurd h List.not_mem_nil) g hg

theorem countP_loadsFor (token : Nat) (gs : List Group) :
    (loadsFor token gs).countP (·.task.isLoad) = (loadsFor token gs).length := by
  rw [List.countP_eq_length]
  intro q hq
  obtain ⟨g, -, -, rfl⟩ := mem_loadsFor.mp hq
  rfl

theorem Tracked.reset (h : e.Tracked) (r : ResetRequest) : (e.reset r).Tracked := by
  have hopened := opened_built e r
  have hbuilt := numbered_built e r
  have hqueue : (e.built r).engine.queue = e.queue.cancelWaiting := by rw [hopened.rest]
  have hloading : (e.built r).engine.loading = e.loading := by rw [hopened.rest]
  rw [reset_eq]
  refine ⟨?_, fun n hn => ?_, fun q hq n l hload => ?_⟩
  · show (e.built r).engine.loading + _ =
      ((e.built r).engine.queue.queued ++ loadsFor _ _).countP (·.task.isLoad)
    rw [List.countP_append, countP_loadsFor, hqueue, hloading, h.loading]
    rfl
  · replace hn : n ∈ (e.built r).engine.queue.revoked := hn
    show n < (e.built r).engine.queue.token
    rw [hqueue] at hn ⊢
    rcases List.mem_cons.mp hn with rfl | hn
    · exact Nat.lt_succ_self _
    · exact Nat.lt_succ_of_lt (h.revoked n hn)
  · replace hq : q ∈ (e.built r).engine.queue.queued ++ loadsFor _ (e.built r).groups := hq
    rcases List.mem_append.mp hq with hq | hq
    · -- an old load names no new group
      rw [hqueue] at hq
      have hbelow := (h.loads q hq n l hload).1
      refine ⟨Nat.lt_of_lt_of_le hbelow hopened.le, fun g hg hn => ?_⟩
      have hnew := number_le_built hg
      omega
    · obtain ⟨g, hg, -, rfl⟩ := mem_loadsFor.mp hq
      obtain ⟨rfl, rfl⟩ := Task.loadMain.inj hload
      refine ⟨hbuilt.below g.number (List.mem_map_of_mem hg), fun k hk hn => ?_⟩
      rw [List.inj_on_of_nodup_map hbuilt.distinct hk hg hn]

/-- **A reset tends to its groups**, whatever was before. -/
theorem tended_reset (e : Engine) (l : Locale) (r : ResetRequest) : Tended l (e.reset r) := by
  rw [reset_eq]
  intro g hg hl
  by_cases hready : g.isReady = true
  · exact .inl hready
  · right
    refine List.mem_append_right _ (mem_loadsFor.mpr ⟨g, hg, ?_, ?_⟩)
    · simpa using hready
    · rw [hl]

theorem Tracked.close (h : e.Tracked) : e.close.Tracked := by
  refine ⟨h.loading, h.revoked, fun q hq n l hload => ?_⟩
  have hbelow := (h.loads q hq n l hload).1
  refine ⟨Nat.lt_of_lt_of_le hbelow (Nat.le_add_right e.nextNumber 2), fun g hg hn => ?_⟩
  rw [List.mem_singleton.mp hg] at hn
  exact absurd hn (Nat.ne_of_gt hbelow)

theorem tracked_start (p : Provider) (s : Settings) (d : Disk) : (start p s d).Tracked :=
  ⟨rfl, fun _ hn => absurd hn List.not_mem_nil, fun _ hq => absurd hq List.not_mem_nil⟩

/-- A placeholder is of no other locale than the empty one. -/
theorem tended_of_placeholder {n m : Nat} (hgroups : e.groups = [.placeholder n m])
    (hl : l ≠ .root) : Tended l e := by
  intro g hg hlocale
  rw [hgroups] at hg
  rw [List.mem_singleton.mp hg] at hlocale
  exact absurd hlocale.symm hl

/-! ### Work in the background -/

/-- **Of the groups** a task changes at most the main dictionary of the one that is to be loaded. -/
theorem Ran.mains {t : Task} (h : e.Ran t e') (he : e.Numbered) : ∃ f : Group → Group,
    e'.groups = e.groups.map f ∧ ∀ g ∈ e.groups, (f g).number = g.number ∧
      (f g).locale = g.locale ∧ ((f g).main = g.main ∨ ∃ l d, t = .loadMain g.number l ∧
        e.provider.loadMain e.disk l = .ok d ∧ (f g).main = some d) := by
  cases h with
  | nothing => exact ⟨id, (List.map_id _).symm, fun _ _ => ⟨rfl, rfl, .inl rfl⟩⟩
  | @store _ s s' => exact ⟨(·.putStore s'), rfl, fun _ _ => ⟨rfl, rfl, .inl rfl⟩⟩
  | list => exact ⟨id, (List.map_id _).symm, fun _ _ => ⟨rfl, rfl, .inl rfl⟩⟩
  | @main g l d hg hd =>
    refine ⟨_, rfl, fun k hk => ?_⟩
    dsimp only
    split_ifs with hn
    · obtain rfl : k = g := List.inj_on_of_nodup_map he.distinct hk hg hn
      exact ⟨rfl, rfl, .inr ⟨l, d, rfl, hd, rfl⟩⟩
    · exact ⟨rfl, rfl, .inl rfl⟩

theorem initialized_of_canLoad {d : Dictionary} (hcan : e.canLoad l = true)
    (hd : e.provider.loadMain e.disk l = .ok d) : d.initialized = true := by
  unfold canLoad at hcan
  rw [hd] at hcan
  exact hcan

/-- A group is ready once its main dictionary was loaded. -/
theorem isReady_loadMain (h : e.Numbered) {g k : Group} (hg : g ∈ e.groups)
    (hcan : e.canLoad l = true) (hk : k ∈ (e.loadMain g.number l).groups)
    (hn : k.number = g.number) : k.isReady = true := by
  have hloaded : ∃ d, e.provider.loadMain e.disk l = .ok d := by
    unfold canLoad at hcan
    split at hcan
    · next d hd => exact ⟨d, hd⟩
    · exact nomatch hcan
  obtain ⟨d, hd⟩ := hloaded
  unfold loadMain at hk
  rw [group?_of_mem h hg] at hk
  dsimp only at hk
  rw [hd] at hk
  obtain ⟨k', -, rfl⟩ := List.mem_map.mp hk
  dsimp only at hn ⊢
  split_ifs at hn ⊢ with hput
  · exact initialized_of_canLoad hcan hd
  · exact absurd hn hput

theorem Tracked.runNext (h : e.Tracked) (he : e.Orderly) : e.runNext.Tracked := by
  rcases runNext_cases he.free with ⟨-, heq⟩ | ⟨q, rest, e', hqueue, hran, -, heq⟩
  · rw [heq]
    exact h
  · have hsame := hran.sameQueue
    obtain ⟨f, hgroups, hf⟩ := hran.mains he.toNumbered
    have hloading := h.loading
    rw [hqueue, List.countP_cons] at hloading
    rw [heq]
    refine ⟨?_, h.revoked, fun p hp n l hload => ?_⟩
    · show (if q.task.isLoad then e.loading - 1 else e.loading) = rest.countP (·.task.isLoad)
      split_ifs with hload
      · rw [if_pos hload] at hloading
        omega
      · rw [if_neg hload] at hloading
        omega
    · have hmem : p ∈ e.queue.queued := hqueue ▸ List.mem_cons_of_mem q hp
      obtain ⟨hbelow, hlocale⟩ := h.loads p hmem n l hload
      refine ⟨?_, fun k hk hn => ?_⟩
      · show n < e'.nextNumber
        rw [hsame.nextNumber]
        exact hbelow
      · replace hk : k ∈ e'.groups := hk
        rw [hgroups] at hk
        obtain ⟨g, hg, rfl⟩ := List.mem_map.mp hk
        obtain ⟨hnumber, hsamelocale, -⟩ := hf g hg
        rw [hsamelocale]
        exact hlocale g hg (hnumber ▸ hn)

/-- **A turn** leaves no group behind whose locale can be loaded: its load still waits, or was done
now. -/
theorem Tended.runNext (h : Tended l e) (he : e.Orderly) (ht : e.Tracked)
    (hcan : e.canLoad l = true) : Tended l e.runNext := by
  rcases runNext_cases he.free with ⟨-, heq⟩ | ⟨q, rest, e', hqueue, hran, hgoes, heq⟩
  · rw [heq]
    exact h
  · obtain ⟨f, hgroups, hf⟩ := hran.mains he.toNumbered
    rw [heq]
    intro k hk hl
    replace hk : k ∈ e'.groups := hk
    have hmem := hk
    rw [hgroups] at hk
    obtain ⟨g, hg, rfl⟩ := List.mem_map.mp hk
    obtain ⟨hnumber, hlocale, hmain⟩ := hf g hg
    rw [hlocale] at hl
    rcases h g hg hl with hready | hwaits
    · left
      rcases hmain with hsame | ⟨l', d, htask, hd, hloaded⟩
      · rw [Group.isReady, hsame]
        exact hready
      · -- what is loaded for this group is its own locale
        have hfirst : q ∈ e.queue.queued := hqueue ▸ List.mem_cons_self
        have hown := (ht.loads q hfirst g.number l' htask).2 g hg rfl
        obtain rfl : l' = l := hown.symm.trans hl
        rw [Group.isReady, hloaded]
        exact initialized_of_canLoad hcan hd
    · rw [hqueue] at hwaits
      rcases List.mem_cons.mp hwaits with rfl | hrest
      · left
        have hcurrent : e.queue.isCancelled ⟨.loadMain g.number l, some e.queue.token⟩ = false := by
          rw [TaskQueue.isCancelled, Option.any_some, List.contains_eq_mem, decide_eq_false_iff_not]
          exact fun hrevoked => absurd (ht.revoked _ hrevoked) (Nat.lt_irrefl _)
        rw [hgoes hcurrent] at hmem
        exact isReady_loadMain he.toNumbered hg hcan hmem hnumber
      · right
        show (⟨.loadMain (f g).number l, some e.queue.token⟩ : Queued Task) ∈ rest
        rw [hnumber]
        exact hrest

/-! ### Runs -/

theorem Tracked.perform (h : e.Tracked) (he : e.Orderly) (a : Action) : (e.perform a).Tracked := by
  cases a using Action.edit_cases with
  | edit a ha => exact h.edits (edits_perform he ha)
  | reset r => exact h.reset r
  | close => exact h.close
  | restart =>
    have hstart := tracked_start e.provider e.settings e.shutDown
    exact ⟨hstart.loading, hstart.revoked, hstart.loads⟩
  | work => exact h.runNext he

/-- **Whatever happened**, the loads that wait are counted. -/
theorem tracked_after (p : Provider) (s : Settings) (d : Disk) (as : List Action) :
    ((start p s d).after as).Tracked := by
  induction as using List.reverseRecOn with
  | nil => exact tracked_start p s d
  | append_singleton as a ih =>
    rw [after, List.foldl_concat, ← after]
    exact ih.perform (orderly_after p s d as) a

theorem asks_of_isEdit {a : Action} (ha : a.IsEdit) (b : Bool) : a.asks b = b := by
  cases a with
  | reset | close | restart | work => exact False.elim ha
  | _ => rfl

theorem asked_concat (as : List Action) (a : Action) : asked (as ++ [a]) = a.asks (asked as) :=
  List.foldl_concat ..

/-- **Groups are tended to** as long as their locale can be loaded. -/
theorem tended_after (p : Provider) (s : Settings) (d : Disk) (l : Locale) (as : List Action)
    (hcan : ∀ bs, bs <+: as → ((start p s d).after bs).canLoad l = true)
    (hasked : l ≠ .root ∨ asked as = true) : Tended l ((start p s d).after as) := by
  induction as using List.reverseRecOn with
  | nil => exact tended_of_placeholder rfl (hasked.resolve_right Bool.false_ne_true)
  | append_singleton as a ih =>
    have he := orderly_after p s d as
    have ht := tracked_after p s d as
    have hnow := hcan as (List.prefix_append as [a])
    replace ih := ih fun bs hbs => hcan bs (hbs.trans (List.prefix_append as [a]))
    rw [asked_concat] at hasked
    rw [after, List.foldl_concat, ← after]
    cases a using Action.edit_cases with
    | edit a ha =>
      rw [asks_of_isEdit ha] at hasked
      exact (ih hasked).edits (edits_perform he ha)
    | reset r => exact tended_reset _ l r
    | close => exact tended_of_placeholder rfl (hasked.resolve_right Bool.false_ne_true)
    | restart => exact tended_of_placeholder rfl (hasked.resolve_right Bool.false_ne_true)
    | work => exact (ih hasked).runNext he ht hnow

/-- A provider that does not read its dictionaries from disk can always load the same ones. -/
theorem canLoad_after {p : Provider} (hp : ∀ d d' l, p.loadMain d l = p.loadMain d' l)
    (s : Settings) (d : Disk) (as : List Action) (l : Locale) :
    ((start p s d).after as).canLoad l = (start p s d).canLoad l := by
  unfold canLoad
  rw [provider_after p s d as, hp _ d l]
  rfl

/-- **No load is lost**: whatever was done, and at whatever points the waiting work had its turns,
once nothing waits all groups whose locale can be loaded have a main dictionary that is ready, and
nobody waits for one. It is taken for granted that loading succeeds or fails by the locale only. -/
theorem loaded_when_idle {p : Provider} {s : Settings} {d : Disk} (as : List Action)
    (hsteady : ∀ bs, bs <+: as → ∀ l,
      ((start p s d).after bs).canLoad l = (start p s d).canLoad l)
    (hidle : ((start p s d).after as).queue.queued = []) :
    ((start p s d).after as).hasLoaded = true ∧
      ∀ g ∈ ((start p s d).after as).groups, (g.locale ≠ .root ∨ asked as = true) →
        (start p s d).canLoad g.locale = true → g.isReady = true := by
  constructor
  · have hcounted := (tracked_after p s d as).loading
    rw [hidle, List.countP_nil] at hcounted
    rw [hasLoaded, hcounted]
    rfl
  · intro g hg hasked hcan
    have htended := tended_after p s d g.locale as
      (fun bs hbs => (hsteady bs hbs g.locale).trans hcan) hasked
    refine (htended g hg rfl).resolve_right fun hwaits => ?_
    rw [hidle] at hwaits
    exact absurd hwaits List.not_mem_nil

/-- Resets overlap with the loads that they queue: four are cancelled, one succeeds, and one fails for
want of a dictionary. -/
theorem loaded_when_idle_overlapping :
    let l := (({ locale := ⟨"en".toList⟩ } : Draft).addWord "hello".toList 100).build
    let p := Provider.memory [("en".toList, l.dictionary)]
    let as : List Action :=
      [.reset { primary := ⟨"en".toList⟩, secondary := [⟨"de".toList⟩] },
        .reset { primary := ⟨"de".toList⟩, secondary := [⟨"en".toList⟩] }, .work, .work,
        .reset { primary := ⟨"en".toList⟩, secondary := [⟨"de".toList⟩], force := true }, .work,
        .work, .work, .work]
    ((start p {} default).after as).queue.queued = [] ∧
      ((start p {} default).after (as.take 5)).loading = 4 ∧
      ((start p {} default).after as).hasLoaded = true ∧
      ∀ g ∈ ((start p {} default).after as).groups, (g.locale ≠ .root ∨ asked as = true) →
        (start p {} default).canLoad g.locale = true → g.isReady = true := by
  intro l p as
  have hidle : ((start p {} default).after as).queue.queued = [] := by decide +kernel
  have hloaded := loaded_when_idle as (fun bs _ => canLoad_after (fun _ _ _ => rfl) {} default bs)
    hidle
  exact ⟨hidle, by decide +kernel, hloaded⟩

end Engine

end Typeahead
