import Typeahead.Proofs.Engine.Edits
import Typeahead.Proofs.Engine.Sound

/-! # Reachable engines are sound

Every action keeps an engine sound (`Sound.perform`): a reset opens stores under new numbers or
takes over old ones, one for each locale and origin (`Building.Sound`), and all other actions make
new versions of what is there. So whatever happened before, an engine over a sound provider and a
sound disk is sound (`sound_after`). -/

namespace Typeahead

namespace Engine

/-- Numbers tell the stores of sound groups apart if they tell apart different stores. -/
theorem nodup_numbers {gs : List Group} (hsound : ∀ g ∈ gs, g.Sound)
    (hlocales : (gs.map (·.locale)).Nodup)
    (hapart : ∀ s ∈ gs.flatMap (·.subs), ∀ t ∈ gs.flatMap (·.subs), s.number = t.number → s = t) :
    ((gs.flatMap (·.subs)).map (·.number)).Nodup := by
  -- no two stores have both the locale and the origin in common
  have hlabels : ((gs.flatMap (·.subs)).map fun s => (s.locale, s.origin)).Nodup := by
    rw [List.map_flatMap, List.nodup_flatMap]
    refine ⟨fun g hg => ?_, ?_⟩
    · refine List.Nodup.of_map Prod.snd ?_
      rw [List.map_map]
      exact (hsound g hg).distinct
    · refine (List.pairwise_map.mp hlocales).imp_of_mem fun {g k} hg hk hne => ?_
      intro label hmem hmem'
      obtain ⟨s, hs, rfl⟩ := List.mem_map.mp hmem
      obtain ⟨t, ht, heq⟩ := List.mem_map.mp hmem'
      refine hne ?_
      rw [← (hsound g hg).locale s hs, ← (hsound k hk).locale t ht]
      exact (Prod.ext_iff.mp heq).1.symm
  exact (List.Nodup.of_map _ hlabels).map_on hapart

theorem Consistent.of_opened {e e' : Engine} (h : e.Consistent) (ho : Opened e e')
    (hdisk : e'.disk.Sound) : e'.Consistent := by
  refine ⟨⟨⟨?_, fun n hn => ?_⟩, ?_⟩, ?_, hdisk, ?_, ?_, ?_, fun s hs => ?_, ?_⟩
  · exact ho.groups ▸ h.distinct
  · exact Nat.lt_of_lt_of_le (h.below n (ho.groups ▸ hn)) ho.le
  · exact ho.queue ▸ h.free
  · exact ho.provider ▸ h.provider
  · exact ho.groups ▸ h.soundGroups
  · exact ho.stores ▸ h.soundStores
  · exact ho.stores ▸ h.distinctStores
  · exact Nat.lt_of_lt_of_le (h.storesBelow s (ho.stores ▸ hs)) ho.le
  · rw [ho.queue, labels, ho.stores]
    exact h.tasks

/-! ### Resets -/

namespace Building

/-- The stores of a building. -/
def stores (b : Building) : List Store := b.groups.flatMap (·.subs) ++ b.subs

/-- What is built next to the engine `e` is sound, and its stores are those of `e` or newer. -/
structure Sound (e : Engine) (b : Building) : Prop where
  opened : Opened e b.engine
  disk : b.engine.disk.Sound
  soundGroups : ∀ g ∈ b.groups, g.Sound
  soundStores : ∀ s ∈ b.stores, s.Sound
  known : ∀ s ∈ b.stores, s ∈ e.groups.flatMap (·.subs) ∨ e.nextNumber ≤ s.number
  below : ∀ s ∈ b.stores, s.number < b.engine.nextNumber
  apart : ∀ s ∈ b.stores, ∀ t ∈ b.stores, s.number = t.number → s = t

variable {e : Engine} {b b' : Building} {s : Store} {l : Locale} {account : Option Text}
  {old : Option Group}

theorem sound_empty (he : e.Consistent) : ({ engine := e } : Building).Sound e :=
  ⟨Opened.refl e, he.disk, by simp, by simp [stores], by simp [stores], by simp [stores],
    by simp [stores]⟩

/-- A part of a sound building, with more opened. -/
theorem Sound.of_subset (h : b.Sound e) (ho : Opened b.engine b'.engine)
    (hdisk : b'.engine.disk.Sound) (hgroups : ∀ g ∈ b'.groups, g.Sound)
    (hstores : b'.stores ⊆ b.stores) : b'.Sound e :=
  ⟨h.opened.trans ho, hdisk, hgroups, fun s hs => h.soundStores s (hstores hs),
    fun s hs => h.known s (hstores hs),
    fun s hs => Nat.lt_of_lt_of_le (h.below s (hstores hs)) ho.le,
    fun s hs t ht => h.apart s (hstores hs) t (hstores ht)⟩

theorem Sound.takeOver (h : b.Sound e) (he : e.Consistent)
    (hs : s ∈ e.groups.flatMap (·.subs)) :
    ({ b with subs := b.subs ++ [s] } : Building).Sound e := by
  have hmem : s ∈ e.stores := List.mem_append_left _ hs
  have hcases (t : Store) (ht : t ∈ ({ b with subs := b.subs ++ [s] } : Building).stores) :
      t ∈ b.stores ∨ t = s := by
    unfold stores at ht
    rw [← List.append_assoc, List.mem_append, List.mem_singleton] at ht
    exact ht
  have hsame (t : Store) (ht : t ∈ b.stores) (hn : t.number = s.number) : t = s := by
    rcases h.known t ht with hold | hnew
    · exact he.eq_of_number (List.mem_append_left _ hold) hmem hn
    · have := he.storesBelow s hmem
      omega
  refine ⟨h.opened, h.disk, h.soundGroups, fun t ht => ?_, fun t ht => ?_, fun t ht => ?_,
    fun t ht u hu hn => ?_⟩
  · rcases hcases t ht with ht | rfl
    · exact h.soundStores t ht
    · exact he.soundStores t hmem
  · rcases hcases t ht with ht | rfl
    · exact h.known t ht
    · exact .inl hs
  · rcases hcases t ht with ht | rfl
    · exact h.below t ht
    · exact Nat.lt_of_lt_of_le (he.storesBelow t hmem) h.opened.le
  · rcases hcases t ht with htb | hts
    · rcases hcases u hu with hub | hus
      · exact h.apart t htb u hub hn
      · rw [hus] at hn ⊢
        exact hsame t htb hn
    · rcases hcases u hu with hub | hus
      · rw [hts] at hn ⊢
        exact (hsame u hub hn.symm).symm
      · rw [hts, hus]

theorem Sound.opening (h : b.Sound e) {engine : Engine} (ho : Opened b.engine engine)
    (hdisk : engine.disk.Sound) (hs : s.Sound) (hn : s.number = b.engine.nextNumber)
    (hnext : b.engine.nextNumber < engine.nextNumber) :
    ({ b with engine, subs := b.subs ++ [s] } : Building).Sound e := by
  have hcases (t : Store) (ht : t ∈ ({ b with engine, subs := b.subs ++ [s] } : Building).stores) :
      t ∈ b.stores ∨ t = s := by
    unfold stores at ht
    rw [← List.append_assoc, List.mem_append, List.mem_singleton] at ht
    exact ht
  refine ⟨h.opened.trans ho, hdisk, h.soundGroups, fun t ht => ?_, fun t ht => ?_, fun t ht => ?_,
    fun t ht u hu heq => ?_⟩
  · rcases hcases t ht with ht | rfl
    · exact h.soundStores t ht
    · exact hs
  · rcases hcases t ht with ht | rfl
    · exact h.known t ht
    · exact .inr (hn ▸ h.opened.le)
  · rcases hcases t ht with ht | rfl
    · exact Nat.lt_trans (h.below t ht) hnext
    · exact hn ▸ hnext
  · rcases hcases t ht with htb | hts
    · rcases hcases u hu with hub | hus
      · exact h.apart t htb u hub heq
      · have hbelow := h.below t htb
        rw [hus] at heq
        omega
    · rcases hcases u hu with hub | hus
      · have hbelow := h.below u hub
        rw [hts] at heq
        omega
      · rw [hts, hus]

/-- Stores that were added to a building: for some of the origins, in order, and of one locale. -/
structure Added (l : Locale) (os : List Origin) (b b' : Building) : Prop where
  groups : b'.groups = b.groups
  subs : ∃ ss : List Store, b'.subs = b.subs ++ ss ∧ (ss.map (·.origin)).Sublist os ∧
    ∀ s ∈ ss, s.locale = l

theorem sound_addSub (account : Option Text) (he : e.Consistent) (h : b.Sound e) (o : Origin)
    (hold : ∀ s, old.bind (·.sub? o) = some s → s ∈ e.groups.flatMap (·.subs) ∧ s.locale = l) :
    (addSub l account old b o).Sound e ∧ Added l [o] b (addSub l account old b o) := by
  have hgroups := groups_addSub l account old b o
  have hopened := opened_addSub l account old b o
  rcases hsub : old.bind (·.sub? o) with _ | s
  · have hprovider : b.engine.provider.Sound := h.opened.provider ▸ he.provider
    have hdisk := hprovider.disk b.engine.disk b.placesInUse b.engine.nextNumber o l account h.disk
    rw [addSub_of_none hsub] at hopened ⊢
    rcases hr : b.engine.provider.openStore b.engine.disk b.placesInUse b.engine.nextNumber o l
      account with ⟨f | s, disk⟩
    · rw [hr] at hdisk hopened
      refine ⟨h.of_subset hopened hdisk h.soundGroups ?_, rfl, [], rfl, ?_, ?_⟩
      · simp [stores, Except.toOption]
      · simp
      · simp
    · rw [hr] at hdisk hopened
      have hs := hprovider.opened b.engine.disk b.placesInUse b.engine.nextNumber o l account s
        h.disk (by rw [hr])
      have hopening := h.opening hopened hdisk hs.toSound hs.number (Nat.lt_succ_self _)
      refine ⟨hopening, rfl, [s], rfl, ?_, ?_⟩
      · simp [hs.origin]
      · simp [hs.locale]
  · obtain ⟨hmem, hlocale⟩ := hold s hsub
    obtain ⟨g, -, hg⟩ := Option.bind_eq_some_iff.mp hsub
    rw [addSub_of_some hsub]
    refine ⟨h.takeOver he hmem, rfl, [s], rfl, ?_, ?_⟩
    · simp [(Group.mem_of_sub? hg).2]
    · simp [hlocale]

theorem sound_addSubs (account : Option Text) (he : e.Consistent)
    (hold : ∀ g ∈ old, g ∈ e.groups ∧ g.locale = l) (os : List Origin) : ∀ {b : Building},
    b.Sound e → (os.foldl (addSub l account old) b).Sound e ∧
      Added l os b (os.foldl (addSub l account old) b) := by
  induction os with
  | nil => exact fun h => ⟨h, rfl, [], (List.append_nil _).symm, by simp, by simp⟩
  | cons o os ih =>
    intro b h
    have hheld (s : Store) (hs : old.bind (·.sub? o) = some s) :
        s ∈ e.groups.flatMap (·.subs) ∧ s.locale = l := by
      obtain ⟨g, hg, hsub⟩ := Option.bind_eq_some_iff.mp hs
      obtain ⟨hmem, hlocale⟩ := hold g hg
      have hin := (Group.mem_of_sub? hsub).1
      exact ⟨List.mem_flatMap.mpr ⟨g, hmem, hin⟩,
        ((he.soundGroups g hmem).locale s hin).trans hlocale⟩
    obtain ⟨hsound, hgroups, ss, hss, horigins, hlocales⟩ := sound_addSub account he h o hheld
    obtain ⟨hsound', hgroups', ts, hts, horigins', hlocales'⟩ := ih hsound
    refine ⟨hsound', hgroups'.trans hgroups, ss ++ ts, ?_, ?_, fun s hs => ?_⟩
    · rw [List.foldl_cons, hts, hss, List.append_assoc]
    · rw [List.map_append]
      exact horigins.append horigins'
    · exact (List.mem_append.mp hs).elim (hlocales s) (hlocales' s)

theorem mem_oldGroup {r : ResetRequest} {g : Group} (hg : g ∈ oldGroup r e l) :
    g ∈ e.groups ∧ g.locale = l ∧ g.account = r.account := by
  unfold oldGroup at hg
  split_ifs at hg
  · exact nomatch hg
  · have hfound := List.find?_some hg
    rw [Bool.and_eq_true, beq_iff_eq, beq_iff_eq] at hfound
    exact ⟨List.mem_of_find?_eq_some hg, hfound⟩

/-- **One more group** keeps a building sound. -/
theorem sound_addGroup (he : e.Consistent) (h : b.Sound e) (r : ResetRequest) (l : Locale) :
    (addGroup r b l).Sound e ∧
      (addGroup r b l).groups.map (·.locale) = b.groups.map (·.locale) ++ [l] := by
  have hold (g : Group) (hg : g ∈ oldGroup r b.engine l) : g ∈ e.groups ∧ g.locale = l := by
    obtain ⟨hmem, hlocale, -⟩ := mem_oldGroup hg
    exact ⟨h.opened.groups ▸ hmem, hlocale⟩
  have hempty : ({ b with subs := [] } : Building).Sound e :=
    h.of_subset (Opened.refl _) h.disk h.soundGroups fun s hs => by
      rw [stores, List.append_nil] at hs
      exact List.mem_append_left _ hs
  obtain ⟨hsound, hsame, ss, hss, horigins, hlocales⟩ :=
    sound_addSubs r.account he hold r.origins hempty
  replace hss : (withSubs r b l).subs = ss := hss
  have hlisted := opened_listFor (withSubs r b l).engine l
  have hdisk := disk_listFor (withSubs r b l).engine l
  rw [addGroup_eq]
  dsimp only
  refine ⟨Sound.of_subset (b := withSubs r b l) hsound ?_ ?_ ?_ ?_, ?_⟩
  · exact hlisted.trans ⟨rfl, Nat.le_succ _⟩
  · show (listFor (withSubs r b l).engine l).2.disk.Sound
    rw [hdisk]
    exact hsound.disk
  · intro g hg
    rcases List.mem_append.mp hg with hg | hg
    · exact h.soundGroups g hg
    · obtain rfl := List.mem_singleton.mp hg
      refine ⟨fun d hd => ?_, ?_, fun s hs => ?_, fun s hs => ?_⟩
      · obtain ⟨k, hk, hmain⟩ := Option.bind_eq_some_iff.mp hd
        exact (he.soundGroups k (hold k hk).1).main d hmain
      · show ((withSubs r b l).subs.map (·.origin)).Nodup
        rw [hss]
        exact r.nodup_origins.sublist horigins
      · refine r.origins_subset (horigins.subset ?_)
        exact List.mem_map_of_mem (hss ▸ hs)
      · exact hlocales s (hss ▸ hs)
  · intro s hs
    rw [stores, List.append_nil, List.flatMap_append, List.flatMap_singleton] at hs
    have hgroups' : (withSubs r b l).groups = b.groups := hsame
    rw [stores, hgroups']
    exact hs
  · rw [List.map_append, List.map_singleton]

theorem sound_addGroups (he : e.Consistent) (r : ResetRequest) (ls : List Locale) :
    ∀ {b : Building}, b.Sound e → (ls.foldl (addGroup r) b).Sound e ∧
      (ls.foldl (addGroup r) b).groups.map (·.locale) = b.groups.map (·.locale) ++ ls := by
  induction ls with
  | nil => exact fun h => ⟨h, (List.append_nil _).symm⟩
  | cons l ls ih =>
    intro b h
    obtain ⟨hsound, hlocales⟩ := sound_addGroup he h r l
    obtain ⟨hsound', hlocales'⟩ := ih hsound
    refine ⟨hsound', ?_⟩
    rw [List.foldl_cons, hlocales', hlocales, List.append_assoc, List.singleton_append]

end Building

variable {e e' : Engine}

theorem consistent_cancelWaiting (h : e.Consistent) :
    ({ e with queue := e.queue.cancelWaiting } : Engine).Consistent :=
  ⟨⟨⟨h.distinct, h.below⟩, h.free⟩, h.provider, h.disk, h.soundGroups, h.soundStores,
    h.distinctStores, h.storesBelow, h.tasks⟩

theorem sound_reset (h : e.Sound) (r : ResetRequest) : (e.reset r).Sound := by
  have he := consistent_cancelWaiting h.toConsistent
  obtain ⟨hbuilt, hlocales⟩ := Building.sound_addGroups he r r.locales (Building.sound_empty he)
  replace hbuilt : (e.built r).Sound { e with queue := e.queue.cancelWaiting } := hbuilt
  replace hlocales : (e.built r).groups.map (·.locale) = r.locales := hlocales
  have hsub : (e.built r).groups.flatMap (·.subs) ⊆ (e.built r).stores :=
    List.subset_append_left _ _
  have hgroups : (e.built r).engine.groups = e.groups := hbuilt.opened.groups
  have hstores : (e.built r).engine.stores = e.stores := hbuilt.opened.stores
  have hreplaces : (e.built r).engine.Replaces (e.built r).groups := by
    refine ⟨numbered_built e r, hbuilt.soundGroups, fun s hs => hbuilt.soundStores s (hsub hs),
      nodup_numbers hbuilt.soundGroups ?_ fun s hs t ht => hbuilt.apart s (hsub hs) t (hsub ht),
      fun s hs => hbuilt.below s (hsub hs), fun s hs => ?_⟩
    · rw [hlocales]
      exact r.nodup_locales
    · rw [hgroups, hstores]
      refine (hbuilt.known s (hsub hs)).imp_right fun hnew t ht => ?_
      exact Nat.lt_of_lt_of_le (h.storesBelow t ht) hnew
  have hreplaced := consistent_replaced (he.of_opened hbuilt.opened hbuilt.disk) hreplaces
  have hsettled := sound_settle hreplaced
  rw [← replaceGroups_eq] at hsettled
  rw [reset_eq]
  refine ⟨⟨⟨⟨hsettled.distinct, hsettled.below⟩, hsettled.free⟩, hsettled.provider, hsettled.disk,
    hsettled.soundGroups, hsettled.soundStores, hsettled.distinctStores, hsettled.storesBelow,
    fun q hq => ?_⟩, fun s hs => ?_⟩
  · rcases List.mem_append.mp hq with hq | hq
    · exact hsettled.tasks q hq
    · obtain ⟨g, -, -, rfl⟩ := mem_loadsFor.mp hq
      exact trivial
  · obtain ⟨q, hq, hn⟩ := needsStore_iff.mp (hsettled.needed s hs)
    exact needsStore_iff.mpr ⟨q, List.mem_append_left _ hq, hn⟩

/-! ### Closing and starting -/

theorem sound_close (h : e.Sound) : e.close.Sound := by
  have hopened : Opened e { e with nextNumber := e.nextNumber + 1 + 1 } := ⟨rfl, by simp; omega⟩
  have hfresh := h.toConsistent.of_opened hopened h.disk
  have hnone : [Group.placeholder e.nextNumber (e.nextNumber + 1)].flatMap (·.subs) = [] := rfl
  have hreplaces : ({ e with nextNumber := e.nextNumber + 1 + 1 } : Engine).Replaces
      [.placeholder e.nextNumber (e.nextNumber + 1)] := by
    refine ⟨⟨List.nodup_singleton _, fun n hn => ?_⟩, fun g hg => ?_, ?_, ?_, ?_, ?_⟩
    · rw [List.mem_singleton.mp hn]
      show e.nextNumber < e.nextNumber + 1 + 1
      omega
    · rw [List.mem_singleton.mp hg]
      exact Group.sound_placeholder _ _
    · simp [hnone]
    · simp [hnone]
    · simp [hnone]
    · simp [hnone]
  have hsettled := sound_settle (consistent_replaced hfresh hreplaces)
  exact hsettled.congr rfl rfl rfl rfl rfl rfl

theorem sound_start {p : Provider} {d : Disk} (hp : p.Sound) (hd : d.Sound) (s : Settings) :
    (start p s d).Sound := by
  have hnone : (start p s d).stores = [] := rfl
  refine ⟨⟨orderly_start p s d, hp, hd, fun g hg => ?_, ?_, ?_, ?_, ?_⟩, ?_⟩
  · rw [List.mem_singleton.mp hg]
    exact Group.sound_placeholder 0 1
  · simp [hnone]
  · simp [hnone]
  · simp [hnone]
  · exact fun q hq => absurd hq List.not_mem_nil
  · exact fun s hs => absurd hs List.not_mem_nil

/-! ### New versions -/

theorem ne_nil_of_mem_words {text w : Text} (h : w ∈ Text.words text) : w ≠ [] := by
  have hfull := (List.mem_filter.mp h).2
  simpa using hfull

theorem rooted_of_isAbout {ws : List Text} (hws : ∀ w ∈ ws, w ≠ []) {ls : List (Nat × Origin)}
    {lists : List Nat} {t : Task} (h : t.IsAbout ls lists ws) : (⟨t, none⟩ : Queued Task).Rooted ls := by
  cases t with
  | learn n c form valid time =>
    obtain ⟨hmem, w, hw, hform⟩ := h
    refine ⟨hmem, ?_, rfl⟩
    have hne := hws w hw
    simp only [List.mem_cons, List.not_mem_nil, or_false] at hform
    rcases hform with rfl | rfl | rfl
    · exact hne
    · exact fun hnil => hne (Text.decapitalize_eq_nil_iff.mp hnil)
    · exact fun hnil => hne (Text.lower_eq_nil_iff.mp hnil)
  | promote n w => exact trivial
  | unlearn n w => exact False.elim h
  | writeList n => exact trivial
  | loadMain n l => exact trivial

theorem Consistent.sound_subs (h : e.Consistent) {g : Group} (hg : g ∈ e.groups) :
    ∀ s ∈ g.subs, s.Sound := fun s hs => h.soundStores s (mem_stores_of_mem_subs hg hs)

theorem updates_commit (h : e.Consistent) (text : Text) (auto : Bool) (c : Context) (time : Nat)
    (block : Bool) : e.Updates (e.commit text auto c time block) := by
  obtain ⟨e', hcommits, heq⟩ := commits_commit h.toNumbered text auto c time block
  obtain ⟨f, hf, hrelisted⟩ := hcommits.groups
  obtain ⟨ts, hqueue, hts⟩ := hcommits.queue
  rw [heq]
  refine updates_groups h (f := f) (fun g hg => ?_)
    (fun t ht => rooted_of_isAbout (fun w => ne_nil_of_mem_words) (hts t ht)) hf ?_ hqueue ?_ ?_ ?_
  · refine Group.Updates.of_subs_eq (h.sound_subs hg) ?_ ?_ ?_ ?_ ?_ <;> rw [(hrelisted g).rest]
  all_goals
    show _ = _
    unfold rememberSpelling
    rw [hcommits.rest]

theorem updates_forgetIn {g : Group} (hg : ∀ s ∈ g.subs, s.Sound) (os : List Origin) (w : Text) :
    g.Updates (g.forgetIn os w) := by
  refine ⟨rfl, rfl, rfl, fun _ hd => .inl hd, _, rfl, fun s hs => ?_⟩
  split_ifs
  · rw [Store.remove_eq (hg s hs)]
    exact Store.updates_withTables (hg s hs) (Tables.sound_remove (hg s hs).tables w)
  · exact Store.Updates.refl (hg s hs)

theorem updates_blacklistWord {g : Group} (hg : ∀ s ∈ g.subs, s.Sound) (w : Text) :
    g.Updates (g.blacklistWord w) := Group.Updates.of_subs_eq hg rfl rfl rfl rfl rfl

theorem updates_removeWord {g : Group} (hg : ∀ s ∈ g.subs, s.Sound) (w : Text) :
    g.Updates (g.removeWord w) := by
  refine Group.removeWord_induction (P := g.Updates) ?_ (fun k os hk => ?_) fun k v _ hk => ?_
  · exact Group.Updates.of_subs_eq hg rfl rfl rfl rfl rfl
  · exact hk.trans (updates_forgetIn hk.sound_subs os w)
  · exact hk.trans (updates_blacklistWord hk.sound_subs v)

theorem updates_remove (h : e.Consistent) (w : Text) : e.Updates (e.removeWord w) := by
  obtain ⟨ts, hts, heq⟩ := removeWord_eq h.toNumbered w
  rw [heq]
  refine updates_groups h (fun g hg => updates_removeWord (h.sound_subs hg) w) (fun t ht => ?_) rfl
    rfl rfl rfl rfl rfl
  obtain ⟨n, rfl⟩ := hts t ht
  exact trivial

theorem updates_unlearn (h : e.Consistent) (w : Text) (why : Reason) :
    e.Updates (e.unlearn w why) := by
  obtain ⟨ts, hts, heq⟩ := unlearn_eq e w why
  rw [heq]
  refine updates_groups h (f := id) (fun g hg => ?_) (fun t ht => ?_) (List.map_id _).symm rfl rfl
    rfl rfl rfl
  · exact Group.Updates.of_subs_eq (h.sound_subs hg) rfl rfl rfl rfl rfl
  · obtain ⟨g, s, hg, hs, rfl⟩ := hts t ht
    exact mem_labels hg hs

/-- A group without its history differs in one store, which is empty. -/
theorem clearedHistory_cases {g : Group} (hg : ∀ s ∈ g.subs, s.Sound) : clearedHistory g = g ∨
    ∃ s ∈ g.subs, s.origin = .history ∧ clearedHistory g = g.putStore (s.withTables {}) := by
  unfold clearedHistory
  split
  · next s' hs' =>
    obtain ⟨s, hs, hclear⟩ := Option.map_eq_some_iff.mp hs'
    obtain ⟨hmem, horigin⟩ := Group.mem_of_sub? hs
    rw [Store.clear_eq (hg s hmem)] at hclear
    obtain rfl := Except.ok.inj hclear
    exact .inr ⟨s, hmem, horigin, rfl⟩
  · exact .inl rfl

theorem updates_clearedHistory (h : e.Consistent) {g : Group} (hg : g ∈ e.groups) :
    g.Updates (clearedHistory g) := by
  rcases clearedHistory_cases (h.sound_subs hg) with heq | ⟨s, hs, -, heq⟩
  · rw [heq]
    exact Group.Updates.of_subs_eq (h.sound_subs hg) rfl rfl rfl rfl rfl
  · have hmem : s ∈ e.stores := mem_stores_of_mem_subs hg hs
    rw [heq]
    exact h.updates_group hmem
      (Store.updates_withTables (h.soundStores s hmem) Tables.sound_empty) hg

theorem updates_clearHistory (h : e.Consistent) : e.Updates e.clearHistory :=
  updates_of_groups h (fun _ hg => updates_clearedHistory h hg) rfl rfl rfl rfl rfl rfl

/-- Changes of nothing that matters here. -/
theorem updates_of_same (h : e.Consistent) (hgroups : e'.groups = e.groups)
    (hkept : e'.keptStores = e.keptStores) (hqueue : e'.queue = e.queue)
    (hprovider : e'.provider = e.provider) (hdisk : e'.disk = e.disk)
    (hnext : e'.nextNumber = e.nextNumber) : e.Updates e' := by
  refine updates_of_groups h (f := id) (fun g hg => ?_) (by rw [hgroups, List.map_id]) hkept hqueue
    hprovider hdisk hnext
  exact Group.Updates.of_subs_eq (h.sound_subs hg) rfl rfl rfl rfl rfl

theorem updates_rememberNextWords (h : e.Consistent) (c : Context) (block : Bool) :
    e.Updates (e.rememberNextWords c block) := by
  rw [rememberNextWords_eq]
  exact updates_of_same h rfl rfl rfl rfl rfl rfl

theorem updates_addWord (h : e.Consistent) (place : Nat) (o : Origin) (w : Text) (f : Nat) :
    e.Updates (e.addWord place o w f) := by
  rcases addWord_cases e place o w f with heq | ⟨g, s, s', hg, hsub, hadd, heq⟩
  · rw [heq]
    exact updates_of_same h rfl rfl rfl rfl rfl rfl
  · have hmem : s ∈ e.stores := mem_stores_of_mem_subs hg (Group.mem_of_sub? hsub).1
    rw [heq]
    exact updates_putStore h hmem (Store.updates_add (h.soundStores s hmem) hadd)

/-- **An action that keeps the groups** makes new versions. -/
theorem updates_perform (h : e.Consistent) {a : Action} (ha : a.IsEdit) :
    e.Updates (e.perform a) := by
  cases a with
  | reset | close | restart | work => exact False.elim ha
  | setSettings s => exact updates_of_same h rfl rfl rfl rfl rfl rfl
  | clearPredictions => exact updates_of_same h rfl rfl rfl rfl rfl rfl
  | commit text auto c time block => exact updates_commit h text auto c time block
  | unlearn w why => exact updates_unlearn h w why
  | remove w => exact updates_remove h w
  | clearHistory => exact updates_clearHistory h
  | suggest r =>
    show e.Updates (e.suggest r).2
    rcases suggest_eq e r with heq | heq
    · rw [heq]
      exact updates_of_same h rfl rfl rfl rfl rfl rfl
    · rw [heq]
      exact updates_rememberNextWords h r.context r.settings.blocksOffensive
  | predict c block => exact updates_rememberNextWords h c block
  | add place o w f => exact updates_addWord h place o w f

/-! ### Work in the background -/

/-- **A task** makes new versions. -/
theorem Ran.updates {t : Task} (hran : e.Ran t e') (h : e.Consistent) : e.Updates e' := by
  have hrefl : e.Updates e := by
    refine updates_of_groups (f := id) h (fun g hg => ?_) (List.map_id _).symm rfl rfl rfl rfl rfl
    exact Group.Updates.of_subs_eq (h.sound_subs hg) rfl rfl rfl rfl rfl
  cases hran with
  | nothing => exact ⟨hrefl.groups, hrefl.kept, hrefl.queue, rfl, h.disk, rfl⟩
  | store hs hwrites =>
    have hput := updates_putStore h hs (hwrites.updates (h.soundStores _ hs))
    exact ⟨hput.groups, hput.kept, hput.queue, rfl, h.disk, rfl⟩
  | @list n b _ =>
    refine ⟨hrefl.groups, hrefl.kept, hrefl.queue, rfl, ?_, rfl⟩
    show (b.persist e.disk).2.Sound
    unfold Blacklist.persist
    split
    · exact Disk.sound_writeNested h.disk _ (by simp)
    · exact h.disk
  | @main g l d hg hload =>
    refine updates_of_groups h (fun k hk => ?_) rfl rfl rfl rfl rfl rfl
    dsimp only
    split_ifs with hn
    · obtain rfl : k = g := List.inj_on_of_nodup_map h.distinct hk hg hn
      refine ⟨rfl, rfl, rfl, fun d' hd' => .inr ?_, id, (List.map_id _).symm, fun s hs => ?_⟩
      · exact Option.some.inj hd' ▸ h.provider.main e.disk l d hload
      · exact Store.Updates.refl (h.sound_subs hk s hs)
    · exact Group.Updates.of_subs_eq (h.sound_subs hk) rfl rfl rfl rfl rfl

theorem sound_runNext (h : e.Sound) : e.runNext.Sound := by
  rcases runNext_cases h.free with ⟨-, heq⟩ | ⟨q, rest, e', hqueue, hran, -, heq⟩
  · rw [heq]
    exact h
  · have hrun := hran.updates h.toConsistent
    have hran := h.of_updates hrun
    rw [heq]
    refine sound_settle ⟨⟨⟨hran.distinct, hran.below⟩, h.free⟩, hran.provider, hran.disk,
      hran.soundGroups, hran.soundStores, hran.distinctStores, hran.storesBelow, fun p hp => ?_⟩
    have hmem : p ∈ e.queue.queued := by
      rw [hqueue]
      exact List.mem_cons_of_mem _ hp
    have hrooted := h.tasks p hmem
    rw [← hrun.labels_eq] at hrooted
    exact hrooted

/-! ### Every action -/

theorem Sound.perform (h : e.Sound) (a : Action) : (e.perform a).Sound := by
  cases a using Action.edit_cases with
  | edit a ha => exact h.of_updates (updates_perform h.toConsistent ha)
  | reset r => exact sound_reset h r
  | close => exact sound_close h
  | restart =>
    have hclosed : e.shutDown.Sound := Disk.sound_closeStores e.stores h.disk h.soundStores
    exact (sound_start h.provider hclosed e.settings).congr rfl rfl rfl rfl rfl rfl
  | work => exact sound_runNext h

theorem Sound.after (as : List Action) : ∀ {e : Engine}, e.Sound → (e.after as).Sound := by
  induction as with
  | nil => exact fun h => h
  | cons a as ih => exact fun h => ih (h.perform a)

/-- **Reachable engines are sound.** -/
theorem sound_after {p : Provider} {d : Disk} (hp : p.Sound) (hd : d.Sound) (s : Settings)
    (as : List Action) : ((start p s d).after as).Sound := (sound_start hp hd s).after as

end Engine

end Typeahead
