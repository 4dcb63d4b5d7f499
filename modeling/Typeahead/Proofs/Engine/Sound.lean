import Typeahead.Proofs.Engine.Orderly
import Typeahead.Proofs.Provider
import Typeahead.Proofs.Text.Case

/-! # Sound engines

In a `Sound` engine no two open stores have the same number, all stores and main dictionaries are
sound, the history that a task names is open, and what is kept aside is waited for. `Consistent` is
the same but for the last, before what is no longer waited for is closed (`sound_settle`).

Two kinds of change keep an engine sound: new versions of its stores and dictionaries, with tasks
queued about the histories (`Sound.of_updates`), and other groups (`consistent_replaced`). -/

namespace Typeahead

/-- The store is a sound version of another one. -/
structure Store.Updates (s s' : Store) : Prop where
  number : s'.number = s.number
  origin : s'.origin = s.origin
  locale : s'.locale = s.locale
  place : s'.place = s.place
  sound : s'.Sound

namespace Store

variable {s s' s'' : Store} {w : Text}

theorem Updates.refl (h : s.Sound) : s.Updates s := ⟨rfl, rfl, rfl, rfl, h⟩

theorem Updates.trans (h : s.Updates s') (h' : s'.Updates s'') : s.Updates s'' :=
  ⟨h'.number.trans h.number, h'.origin.trans h.origin, h'.locale.trans h.locale,
    h'.place.trans h.place, h'.sound⟩

theorem updates_withTables {t : Tables} (h : s.Sound) (ht : t.Sound) :
    s.Updates (s.withTables t) := by
  refine ⟨rfl, rfl, rfl, ?_, h.withTables ht⟩
  show (s.file.map fun f => { f with tables := t }).map (·.place) = s.file.map (·.place)
  rw [Option.map_map]
  rfl

theorem updates_use (h : s.Sound) {c : Context} {valid : Bool} {n time : Nat}
    (hs' : s.use c w valid n time = .ok s') : s.Updates s' := by
  rw [use_eq h] at hs'
  split_ifs at hs'
  obtain rfl := Except.ok.inj hs'
  exact updates_withTables h (Tables.sound_use h.tables c w valid n time)

theorem updates_add (h : s.Sound) {f : Nat} (hs' : s.add w f = .ok s') : s.Updates s' := by
  rw [add_eq h] at hs'
  split_ifs at hs'
  obtain rfl := Except.ok.inj hs'
  exact updates_withTables h (Tables.sound_add h.tables w f)

theorem updates_remove (h : s.Sound) {held : Bool} (hs' : s.remove w = .ok (held, s')) :
    s.Updates s' := by
  rw [remove_eq h] at hs'
  obtain rfl := (Prod.ext_iff.mp (Except.ok.inj hs')).2
  exact updates_withTables h (Tables.sound_remove h.tables w)

end Store

/-- What a task writes is a sound version. -/
theorem Task.Writes.updates {t : Task} {s s' : Store} {forgets : Bool}
    (hwrites : t.Writes s forgets s') (h : s.Sound) : s.Updates s' := by
  cases hwrites with
  | learn huse => exact Store.updates_use h huse
  | promote hadd => exact Store.updates_add h hadd
  | unlearn hremove => exact Store.updates_remove h hremove

namespace Group

/-- The stores of the group are of its locale and have different origins, and its main dictionary is
regular. -/
structure Sound (g : Group) : Prop where
  main : ∀ d, g.main = some d → d.Regular
  distinct : (g.subs.map (·.origin)).Nodup
  learned : ∀ s ∈ g.subs, s.origin ∈ Origin.learned
  locale : ∀ s ∈ g.subs, s.locale = g.locale

/-- The group is another one with new versions of its dictionaries. -/
structure Updates (g g' : Group) : Prop where
  number : g'.number = g.number
  locale : g'.locale = g.locale
  account : g'.account = g.account
  main : ∀ d, g'.main = some d → g.main = some d ∨ d.Regular
  subs : ∃ f : Store → Store, g'.subs = g.subs.map f ∧ ∀ s ∈ g.subs, s.Updates (f s)

variable {g g' g'' : Group}

theorem Updates.trans (h : g.Updates g') (h' : g'.Updates g'') : g.Updates g'' := by
  obtain ⟨f, hsubs, hf⟩ := h.subs
  obtain ⟨f', hsubs', hf'⟩ := h'.subs
  refine ⟨h'.number.trans h.number, h'.locale.trans h.locale, h'.account.trans h.account,
    fun d hd => ?_, f' ∘ f, ?_, fun s hs => ?_⟩
  · exact (h'.main d hd).elim (h.main d) .inr
  · rw [hsubs', hsubs, List.map_map]
  · refine (hf s hs).trans (hf' (f s) ?_)
    rw [hsubs]
    exact List.mem_map_of_mem hs

theorem Updates.sound_subs (h : g.Updates g') : ∀ s ∈ g'.subs, s.Sound := by
  obtain ⟨f, hsubs, hf⟩ := h.subs
  intro s hs
  rw [hsubs] at hs
  obtain ⟨u, hu, rfl⟩ := List.mem_map.mp hs
  exact (hf u hu).sound

theorem Updates.of_subs_eq (hsound : ∀ s ∈ g.subs, s.Sound) (hnumber : g'.number = g.number)
    (hlocale : g'.locale = g.locale) (haccount : g'.account = g.account)
    (hmain : g'.main = g.main) (hsubs : g'.subs = g.subs) : g.Updates g' :=
  ⟨hnumber, hlocale, haccount, fun _ hd => .inl (hmain ▸ hd),
    ⟨id, by rw [hsubs, List.map_id], fun s hs => Store.Updates.refl (hsound s hs)⟩⟩

theorem Updates.sound (h : g.Updates g') (hg : g.Sound) : g'.Sound := by
  obtain ⟨f, hsubs, hf⟩ := h.subs
  refine ⟨fun d hd => (h.main d hd).elim (hg.main d) id, ?_, fun s hs => ?_, fun s hs => ?_⟩
  · have horigins : g'.subs.map (·.origin) = g.subs.map (·.origin) := by
      rw [hsubs, List.map_map]
      exact List.map_congr_left fun s hs => (hf s hs).origin
    rw [horigins]
    exact hg.distinct
  · rw [hsubs] at hs
    obtain ⟨u, hu, rfl⟩ := List.mem_map.mp hs
    rw [(hf u hu).origin]
    exact hg.learned u hu
  · rw [hsubs] at hs
    obtain ⟨u, hu, rfl⟩ := List.mem_map.mp hs
    rw [(hf u hu).locale, h.locale]
    exact hg.locale u hu

theorem sub?_of_mem (h : g.Sound) {s : Store} (hs : s ∈ g.subs) : g.sub? s.origin = some s := by
  rcases hfind : g.sub? s.origin with _ | u
  · exact absurd (List.find?_eq_none.mp hfind s hs) (by simp)
  · obtain ⟨hu, horigin⟩ := mem_of_sub? hfind
    rw [List.inj_on_of_nodup_map h.distinct hu hs horigin]

theorem sub?_map {k : Store → Store} (hsubs : g'.subs = g.subs.map k)
    (hk : ∀ s ∈ g.subs, (k s).origin = s.origin) (o : Origin) :
    g'.sub? o = (g.sub? o).map k := by
  have hfind : ∀ (ss : List Store), (∀ s ∈ ss, (k s).origin = s.origin) →
      (ss.map k).find? (·.origin == o) = (ss.find? (·.origin == o)).map k := by
    intro ss
    induction ss with
    | nil => exact fun _ => rfl
    | cons s ss ih =>
      intro hss
      have hrest := ih fun t ht => hss t (List.mem_cons_of_mem _ ht)
      rw [List.map_cons, List.find?_cons, List.find?_cons, hss s List.mem_cons_self, hrest]
      split <;> rfl
  rw [sub?, hsubs]
  exact hfind g.subs hk

theorem sound_placeholder (n m : Nat) : (placeholder n m).Sound :=
  ⟨fun _ hd => (nomatch hd), List.nodup_nil, fun _ hs => (nomatch hs), fun _ hs => (nomatch hs)⟩

end Group

/-- The task of a queue that is about a history names an open one, and one that learns has a word to
learn and cannot be cancelled. -/
def Queued.Rooted (labels : List (Nat × Origin)) (q : Queued Task) : Prop :=
  match q.task with
  | .learn n _ w _ _ => (n, Origin.history) ∈ labels ∧ w ≠ [] ∧ q.token = none
  | .unlearn n _ => (n, Origin.history) ∈ labels
  | _ => True

theorem Queued.Rooted.of_labels {q : Queued Task} {ls ls' : List (Nat × Origin)} (h : q.Rooted ls)
    (hsub : ∀ n o, q.task.store? = some n → (n, o) ∈ ls → (n, o) ∈ ls') : q.Rooted ls' := by
  obtain ⟨t, token⟩ := q
  cases t with
  | learn n c w valid time => exact ⟨hsub n _ rfl h.1, h.2⟩
  | unlearn n w => exact hsub n _ rfl h
  | promote n w => exact trivial
  | writeList n => exact trivial
  | loadMain n l => exact trivial

namespace Engine

/-- The parts of the engine fit together. -/
structure Consistent (e : Engine) : Prop extends Orderly e where
  provider : e.provider.Sound
  disk : e.disk.Sound
  soundGroups : ∀ g ∈ e.groups, g.Sound
  soundStores : ∀ s ∈ e.stores, s.Sound
  distinctStores : (e.stores.map (·.number)).Nodup
  storesBelow : ∀ s ∈ e.stores, s.number < e.nextNumber
  tasks : ∀ q ∈ e.queue.queued, q.Rooted e.labels

/-- The parts of the engine fit together, and the stores kept aside are waited for. -/
structure Sound (e : Engine) : Prop extends Consistent e where
  needed : ∀ s ∈ e.keptStores, e.needsStore s.number = true

variable {e e' : Engine} {s s' : Store} {n : Nat} {o : Origin}

theorem mem_labels_iff : (n, o) ∈ e.labels ↔ ∃ s ∈ e.stores, s.number = n ∧ s.origin = o := by
  unfold labels
  rw [List.mem_map]
  simp only [Prod.mk.injEq]

theorem needsStore_iff : e.needsStore n = true ↔ ∃ q ∈ e.queue.queued, q.task.store? = some n := by
  unfold needsStore TaskQueue.waiting
  rw [List.any_map, List.any_eq_true]
  simp only [Function.comp_apply, beq_iff_eq]

theorem mem_stores_of_mem_subs {g : Group} (hg : g ∈ e.groups) (hs : s ∈ g.subs) :
    s ∈ e.stores := List.mem_append_left _ (List.mem_flatMap.mpr ⟨g, hg, hs⟩)

/-- Open stores are told apart by their numbers. -/
theorem Consistent.eq_of_number (h : e.Consistent) (hs : s ∈ e.stores) (hs' : s' ∈ e.stores)
    (hn : s.number = s'.number) : s = s' :=
  List.inj_on_of_nodup_map h.distinctStores hs hs' hn

/-- An engine that differs in nothing that matters here. -/
theorem Sound.congr (h : e.Sound) (hprovider : e'.provider = e.provider) (hdisk : e'.disk = e.disk)
    (hgroups : e'.groups = e.groups) (hkept : e'.keptStores = e.keptStores)
    (hqueue : e'.queue = e.queue) (hnext : e'.nextNumber = e.nextNumber) : e'.Sound := by
  have hstores : e'.stores = e.stores := by rw [stores, hgroups, hkept, stores]
  refine ⟨⟨⟨⟨?_, ?_⟩, ?_⟩, ?_, ?_, ?_, ?_, ?_, ?_, ?_⟩, fun s hs => ?_⟩
  · exact hgroups ▸ h.distinct
  · exact hgroups ▸ hnext ▸ h.below
  · exact hqueue ▸ h.free
  · exact hprovider ▸ h.provider
  · exact hdisk ▸ h.disk
  · exact hgroups ▸ h.soundGroups
  · exact hstores ▸ h.soundStores
  · exact hstores ▸ h.distinctStores
  · exact hstores ▸ hnext ▸ h.storesBelow
  · rw [hqueue, labels, hstores]
    exact h.tasks
  · rw [needsStore, hqueue]
    exact h.needed s (hkept ▸ hs)

/-! ### Closing what nobody waits for -/

theorem sound_settle (h : e.Consistent) : e.settle.Sound := by
  have hsublist : e.settle.stores.Sublist e.stores :=
    (List.Sublist.refl _).append List.filter_sublist
  have hclosed : e.settle.disk.Sound := by
    refine Disk.sound_closeStores _ h.disk fun s hs => h.soundStores s ?_
    exact List.mem_append_right _ (List.mem_filter.mp hs).1
  refine ⟨⟨⟨⟨h.distinct, h.below⟩, h.free⟩, h.provider, hclosed, h.soundGroups,
    fun s hs => h.soundStores s (hsublist.subset hs), h.distinctStores.sublist (hsublist.map _),
    fun s hs => h.storesBelow s (hsublist.subset hs), fun q hq => ?_⟩,
    fun s hs => (List.mem_filter.mp hs).2⟩
  refine (h.tasks q hq).of_labels fun n o hn hmem => ?_
  obtain ⟨s, hs, rfl, rfl⟩ := mem_labels_iff.mp hmem
  refine mem_labels_iff.mpr ⟨s, ?_, rfl, rfl⟩
  rcases List.mem_append.mp hs with hs | hs
  · exact List.mem_append_left _ hs
  · exact List.mem_append_right _ (List.mem_filter.mpr ⟨hs, needsStore_iff.mpr ⟨q, hq, hn⟩⟩)

/-! ### New versions -/

/-- The engine has new versions of its stores and dictionaries, and more tasks wait. -/
structure Updates (e e' : Engine) : Prop where
  groups : ∃ f : Group → Group, e'.groups = e.groups.map f ∧ ∀ g ∈ e.groups, g.Updates (f g)
  kept : ∃ f : Store → Store, e'.keptStores = e.keptStores.map f ∧
    ∀ s ∈ e.keptStores, s.Updates (f s)
  queue : ∃ ts : List Task, e'.queue = e.queue.pushAll ts ∧
    ∀ t ∈ ts, (⟨t, none⟩ : Queued Task).Rooted e.labels
  provider : e'.provider = e.provider
  disk : e'.disk.Sound
  nextNumber : e'.nextNumber = e.nextNumber

theorem Updates.labels_eq (h : e.Updates e') : e'.labels = e.labels := by
  obtain ⟨f, hgroups, hf⟩ := h.groups
  obtain ⟨k, hkept, hk⟩ := h.kept
  have hsubs : (e'.groups.flatMap (·.subs)).map (fun s => (s.number, s.origin)) =
      (e.groups.flatMap (·.subs)).map fun s => (s.number, s.origin) := by
    rw [hgroups, List.flatMap_map, List.map_flatMap, List.map_flatMap]
    refine List.flatMap_congr fun g hg => ?_
    obtain ⟨v, hv, hversions⟩ := (hf g hg).subs
    rw [hv, List.map_map]
    refine List.map_congr_left fun s hs => ?_
    rw [Function.comp_apply, (hversions s hs).number, (hversions s hs).origin]
  have haside : e'.keptStores.map (fun s => (s.number, s.origin)) =
      e.keptStores.map fun s => (s.number, s.origin) := by
    rw [hkept, List.map_map]
    refine List.map_congr_left fun s hs => ?_
    rw [Function.comp_apply, (hk s hs).number, (hk s hs).origin]
  rw [labels, stores, List.map_append, hsubs, haside, ← List.map_append, ← stores, ← labels]

theorem Updates.exists_store (h : e.Updates e') (hs : s' ∈ e'.stores) :
    ∃ s ∈ e.stores, s.Updates s' := by
  obtain ⟨f, hgroups, hf⟩ := h.groups
  obtain ⟨k, hkept, hk⟩ := h.kept
  rcases List.mem_append.mp hs with hs | hs
  · obtain ⟨g', hg', hs⟩ := List.mem_flatMap.mp hs
    rw [hgroups] at hg'
    obtain ⟨g, hg, rfl⟩ := List.mem_map.mp hg'
    obtain ⟨v, hv, hversions⟩ := (hf g hg).subs
    rw [hv] at hs
    obtain ⟨u, hu, rfl⟩ := List.mem_map.mp hs
    exact ⟨u, mem_stores_of_mem_subs hg hu, hversions u hu⟩
  · rw [hkept] at hs
    obtain ⟨u, hu, rfl⟩ := List.mem_map.mp hs
    exact ⟨u, List.mem_append_right _ hu, hk u hu⟩

/-- **New versions** of its parts leave an engine sound. -/
theorem Sound.of_updates (h : e.Sound) (hu : e.Updates e') : e'.Sound := by
  obtain ⟨f, hgroups, hf⟩ := hu.groups
  obtain ⟨k, hkept, hk⟩ := hu.kept
  obtain ⟨ts, hqueue, hts⟩ := hu.queue
  have hnumbers : e'.groups.map (·.number) = e.groups.map (·.number) := by
    rw [hgroups, List.map_map]
    exact List.map_congr_left fun g hg => (hf g hg).number
  have hstores : e'.stores.map (·.number) = e.stores.map (·.number) := by
    have hlabels := congrArg (List.map Prod.fst) hu.labels_eq
    rwa [labels, labels, List.map_map, List.map_map] at hlabels
  have hqueued : e'.queue.queued = e.queue.queued ++ ts.map (⟨·, none⟩) := by
    rw [hqueue, TaskQueue.queued_pushAll]
  refine ⟨⟨⟨h.toNumbered.of_numbers hnumbers hu.nextNumber, ?_⟩, ?_, hu.disk, fun g hg => ?_,
    fun s hs => ?_, ?_, fun s hs => ?_, fun q hq => ?_⟩, fun s hs => ?_⟩
  · rw [hqueue, running_pushAll]
    exact h.free
  · rw [hu.provider]
    exact h.provider
  · rw [hgroups] at hg
    obtain ⟨k, hk, rfl⟩ := List.mem_map.mp hg
    exact (hf k hk).sound (h.soundGroups k hk)
  · obtain ⟨u, -, hupdates⟩ := hu.exists_store hs
    exact hupdates.sound
  · rw [hstores]
    exact h.distinctStores
  · obtain ⟨u, hmem, hupdates⟩ := hu.exists_store hs
    rw [hupdates.number, hu.nextNumber]
    exact h.storesBelow u hmem
  · rw [hu.labels_eq]
    rw [hqueued, List.mem_append] at hq
    rcases hq with hq | hq
    · exact h.tasks q hq
    · obtain ⟨t, ht, rfl⟩ := List.mem_map.mp hq
      exact hts t ht
  · rw [hkept] at hs
    obtain ⟨u, hu', rfl⟩ := List.mem_map.mp hs
    obtain ⟨q, hq, hn⟩ := needsStore_iff.mp (h.needed u hu')
    refine needsStore_iff.mpr ⟨q, ?_, ?_⟩
    · rw [hqueued]
      exact List.mem_append_left _ hq
    · rw [(hk u hu').number]
      exact hn

theorem Consistent.updates_store (h : e.Consistent) (hs : s ∈ e.stores) (hu : s.Updates s')
    {u : Store} (hmem : u ∈ e.stores) :
    u.Updates (if u.number = s'.number then s' else u) := by
  split_ifs with hn
  · rw [h.eq_of_number hmem hs (hn.trans hu.number)]
    exact hu
  · exact Store.Updates.refl (h.soundStores u hmem)

theorem Consistent.updates_group (h : e.Consistent) (hs : s ∈ e.stores) (hu : s.Updates s')
    {g : Group} (hg : g ∈ e.groups) : g.Updates (g.putStore s') :=
  ⟨rfl, rfl, rfl, fun _ hd => .inl hd,
    ⟨_, rfl, fun _ hmem => h.updates_store hs hu (mem_stores_of_mem_subs hg hmem)⟩⟩

/-- Another version of an open store in its place. -/
theorem updates_putStore (h : e.Consistent) (hs : s ∈ e.stores) (hu : s.Updates s') :
    e.Updates (e.putStore s') :=
  ⟨⟨(·.putStore s'), rfl, fun _ hg => h.updates_group hs hu hg⟩,
    ⟨_, rfl, fun _ hmem => h.updates_store hs hu (List.mem_append_right _ hmem)⟩,
    ⟨[], rfl, by simp⟩, rfl, h.disk, rfl⟩

/-- Changes of the groups that are new versions of each. -/
theorem updates_groups (h : e.Consistent) {f : Group → Group} {ts : List Task}
    (hf : ∀ g ∈ e.groups, g.Updates (f g))
    (hts : ∀ t ∈ ts, (⟨t, none⟩ : Queued Task).Rooted e.labels)
    (hgroups : e'.groups = e.groups.map f) (hkept : e'.keptStores = e.keptStores)
    (hqueue : e'.queue = e.queue.pushAll ts) (hprovider : e'.provider = e.provider)
    (hdisk : e'.disk = e.disk) (hnext : e'.nextNumber = e.nextNumber) : e.Updates e' := by
  refine ⟨⟨f, hgroups, hf⟩, ⟨id, by rw [hkept, List.map_id], fun s hs => ?_⟩, ⟨ts, hqueue, hts⟩,
    hprovider, hdisk ▸ h.disk, hnext⟩
  exact Store.Updates.refl (h.soundStores s (List.mem_append_right _ hs))

/-- Such changes while nothing comes to wait. -/
theorem updates_of_groups (h : e.Consistent) {f : Group → Group}
    (hf : ∀ g ∈ e.groups, g.Updates (f g)) (hgroups : e'.groups = e.groups.map f)
    (hkept : e'.keptStores = e.keptStores) (hqueue : e'.queue = e.queue)
    (hprovider : e'.provider = e.provider) (hdisk : e'.disk = e.disk)
    (hnext : e'.nextNumber = e.nextNumber) : e.Updates e' :=
  updates_groups h hf (fun t (ht : t ∈ []) => absurd ht List.not_mem_nil) hgroups hkept hqueue
    hprovider hdisk hnext

/-! ### Other groups -/

/-- The engine with other groups, before anything is closed. -/
def replaced (e : Engine) (gs : List Group) : Engine :=
  { e with
    groups := gs
    keptStores := e.keptStores ++ (e.groups.flatMap (·.subs)).filter fun s =>
      !gs.any fun g => g.subs.any (·.number == s.number)
    keptLists := e.keptLists ++ (e.groups.map (·.blacklist)).filter fun b =>
      !gs.any fun g => g.blacklist.number == b.number }

theorem replaceGroups_eq (e : Engine) (gs : List Group) :
    e.replaceGroups gs = (e.replaced gs).settle := rfl

/-- Groups that may take the place of an engine's: their stores are its own or newer than all of
them. -/
structure Replaces (e : Engine) (gs : List Group) : Prop where
  numbered : ({ e with groups := gs } : Engine).Numbered
  soundGroups : ∀ g ∈ gs, g.Sound
  soundStores : ∀ s ∈ gs.flatMap (·.subs), s.Sound
  distinctStores : ((gs.flatMap (·.subs)).map (·.number)).Nodup
  storesBelow : ∀ s ∈ gs.flatMap (·.subs), s.number < e.nextNumber
  known : ∀ s ∈ gs.flatMap (·.subs),
    s ∈ e.groups.flatMap (·.subs) ∨ ∀ t ∈ e.stores, t.number < s.number

theorem mem_stores_replaced {gs : List Group} (h : e.Consistent) (hgs : e.Replaces gs)
    (hs : s ∈ e.stores) : s ∈ (e.replaced gs).stores := by
  rcases List.mem_append.mp hs with hold | hkept
  · by_cases hheld : (gs.any fun g => g.subs.any (·.number == s.number)) = true
    · obtain ⟨g, hg, hany⟩ := List.any_eq_true.mp hheld
      obtain ⟨t, ht, hn⟩ := List.any_eq_true.mp hany
      have hmem : t ∈ gs.flatMap (·.subs) := List.mem_flatMap.mpr ⟨g, hg, ht⟩
      have hnumber : t.number = s.number := by simpa using hn
      rcases hgs.known t hmem with hknown | hnew
      · have heq : t = s := h.eq_of_number (List.mem_append_left _ hknown) hs hnumber
        exact heq ▸ List.mem_append_left _ hmem
      · exact absurd hnumber.symm (Nat.ne_of_lt (hnew s hs))
    · refine List.mem_append_right _ (List.mem_append_right _ (List.mem_filter.mpr ⟨hold, ?_⟩))
      simpa using hheld
  · exact List.mem_append_right _ (List.mem_append_left _ hkept)

/-- **Other groups** leave an engine consistent, and all its stores open. -/
theorem consistent_replaced {gs : List Group} (h : e.Consistent) (hgs : e.Replaces gs) :
    (e.replaced gs).Consistent := by
  have hkept (s : Store) (hs : s ∈ (e.replaced gs).keptStores) : s ∈ e.stores := by
    rcases List.mem_append.mp hs with hs | hs
    · exact List.mem_append_right _ hs
    · exact List.mem_append_left _ (List.mem_filter.mp hs).1
  have hcases (s : Store) (hs : s ∈ (e.replaced gs).stores) :
      s ∈ gs.flatMap (·.subs) ∨ s ∈ e.stores := by
    rcases List.mem_append.mp hs with hs | hs
    · exact .inl hs
    · exact .inr (hkept s hs)
  have hnumbered : (e.replaced gs).Numbered := ⟨hgs.numbered.distinct, hgs.numbered.below⟩
  refine ⟨⟨hnumbered, h.free⟩, h.provider, h.disk, hgs.soundGroups, fun s hs => ?_, ?_,
    fun s hs => ?_, fun q hq => ?_⟩
  · exact (hcases s hs).elim (hgs.soundStores s) (h.soundStores s)
  · have haside : ((e.replaced gs).keptStores.map (·.number)).Nodup := by
      have hperm : ((e.keptStores ++ e.groups.flatMap (·.subs)).map (·.number)).Nodup :=
        (List.perm_append_comm.map _).nodup_iff.mp h.distinctStores
      exact hperm.sublist (((List.Sublist.refl _).append List.filter_sublist).map _)
    show ((gs.flatMap (·.subs) ++ (e.replaced gs).keptStores).map (·.number)).Nodup
    rw [List.map_append]
    refine List.Nodup.append hgs.distinctStores haside fun n hn hn' => ?_
    obtain ⟨s, hs, rfl⟩ := List.mem_map.mp hn
    obtain ⟨t, ht, htn⟩ := List.mem_map.mp hn'
    rcases hgs.known s hs with hold | hnew
    · have heq : t = s := h.eq_of_number (hkept t ht) (List.mem_append_left _ hold) htn
      rcases List.mem_append.mp ht with ht | ht
      · -- an old group's store is not among those that were kept aside
        have hdisjoint := h.distinctStores
        rw [stores, List.map_append] at hdisjoint
        exact List.disjoint_of_nodup_append hdisjoint (List.mem_map_of_mem hold)
          (List.mem_map.mpr ⟨t, ht, htn⟩)
      · obtain ⟨g, hg, hsub⟩ := List.mem_flatMap.mp hs
        have hheld : (gs.any fun g => g.subs.any (·.number == t.number)) = true :=
          List.any_eq_true.mpr ⟨g, hg, List.any_eq_true.mpr ⟨s, hsub, by simp [htn]⟩⟩
        have hnot := (List.mem_filter.mp ht).2
        rw [hheld] at hnot
        exact absurd hnot Bool.false_ne_true
    · exact absurd htn (Nat.ne_of_lt (hnew t (hkept t ht)))
  · exact (hcases s hs).elim (hgs.storesBelow s) (h.storesBelow s)
  · refine (h.tasks q hq).of_labels fun n o _ hmem => ?_
    obtain ⟨s, hs, hn, ho⟩ := mem_labels_iff.mp hmem
    exact mem_labels_iff.mpr ⟨s, mem_stores_replaced h hgs hs, hn, ho⟩

end Engine

end Typeahead
