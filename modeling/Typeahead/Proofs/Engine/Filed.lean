import Typeahead.Proofs.Engine.Lists
import Typeahead.Proofs.Engine.Reachable

/-! # Engines over a data directory

If all files that the resets of a run ask for have their places (`ResetRequest.Hosted`), then,
whatever happened, the stores and blacklists of the engine have their files there, and nothing but
their files was written (`filed_after`).

Of a store that a group gets by a reset, `Furnished` says where it comes from: the old group hands
it over, or it is opened, with what its file held, and no open store had that file. -/

namespace Typeahead

namespace Provider

/-- The path of the store of an origin, a locale and an account. -/
def storePath (dir : Text) (o : Origin) (l : Locale) (account : Option Text) : Text :=
  Path.join dir (storeName o l account)

/-- The path of the blacklist of a locale. -/
def listPath (dir : Text) (l : Locale) : Text := Path.join dir (listName l)

theorem suffix_join {ending name : Text} (h : ending <:+ name) (dir : Text) :
    ending <:+ Path.join dir name := by
  unfold Path.join
  split_ifs
  · exact h
  · exact h.trans (List.suffix_append _ _)

variable {dir place : Text} {d : Disk} {o : Origin} {l : Locale} {account : Option Text}

theorem storeEnding_suffix (h : d.HostsAt (storePath dir o l account) place) :
    storeEnding <:+ place :=
  Disk.suffix_of_locate (by decide) (by decide) (suffix_join (List.suffix_append _ _) dir) h.locate

theorem listEnding_suffix (h : d.HostsAt (listPath dir l) place) : listEnding <:+ place :=
  Disk.suffix_of_locate (by decide) (by decide) (suffix_join (List.suffix_append _ _) dir) h.locate

end Provider

/-- **The files that a reset asks for** have their places, and those of stores can be opened. -/
structure ResetRequest.Hosted (dir : Text) (d : Disk) (r : ResetRequest) : Prop where
  lists : ∀ l ∈ r.locales, ∃ place, d.HostsAt (Provider.listPath dir l) place
  stores : ∀ l ∈ r.locales, ∀ o ∈ r.origins, ∃ place,
    d.HostsAt (Provider.storePath dir o l r.account) place ∧
      (Disk.tables? (d.at? place)).isSome = true

instance (dir : Text) (d : Disk) (r : ResetRequest) : Decidable (r.Hosted dir d) :=
  decidable_of_iff ((∀ l ∈ r.locales, ∃ place, d.HostsAt (Provider.listPath dir l) place ∧ True) ∧
    ∀ l ∈ r.locales, ∀ o ∈ r.origins, ∃ place,
      d.HostsAt (Provider.storePath dir o l r.account) place ∧
        (Disk.tables? (d.at? place)).isSome = true)
    ⟨fun h => ⟨fun l hl => (h.1 l hl).imp fun _ hp => hp.1, h.2⟩,
      fun h => ⟨fun l hl => (h.lists l hl).imp fun _ hp => ⟨hp, trivial⟩, h.stores⟩⟩

/-- The file of the store is the one of an origin, a locale and an account. -/
def Store.FiledAs (dir : Text) (d : Disk) (o : Origin) (l : Locale) (account : Option Text)
    (s : Store) : Prop :=
  ∃ place, s.place = some place ∧ d.HostsAt (Provider.storePath dir o l account) place

theorem Store.FiledAs.ending {dir place : Text} {d : Disk} {o : Origin} {l : Locale}
    {account : Option Text} {s : Store} (h : s.FiledAs dir d o l account)
    (hp : s.place = some place) :
    Provider.storeEnding <:+ place ∧ d.at? place ≠ some .directory := by
  obtain ⟨place', hp', hhosts⟩ := h
  obtain rfl : place' = place := Option.some.inj (hp'.symm.trans hp)
  exact ⟨Provider.storeEnding_suffix hhosts, hhosts.file⟩

namespace Engine

/-- **The engine is at home** in a data directory: only its stores and blacklists, which have their
files there, were written since the disk was `d`, and `K` holds of the locales with blacklists. -/
structure Filed (dir : Text) (form : NormalForm) (d : Disk) (K : Locale → Prop) (e : Engine) :
    Prop where
  provider : e.provider = .directory dir form
  disk : Disk.Written d e.disk
  groups : ∀ g ∈ e.groups, ∀ s ∈ g.subs, s.FiledAs dir d s.origin g.locale g.account
  kept : ∀ s ∈ e.keptStores, ∃ o l account, s.FiledAs dir d o l account
  lists : ∀ g ∈ e.groups, ∀ path, g.blacklist.path = some path →
    K g.locale ∧ path = Provider.listPath dir g.locale ∧ ∃ place, d.HostsAt path place
  keptLists : ∀ b ∈ e.keptLists, ∀ path, b.path = some path →
    ∃ l, K l ∧ path = Provider.listPath dir l ∧ ∃ place, d.HostsAt path place

variable {dir place : Text} {form : NormalForm} {d : Disk} {K : Locale → Prop} {e e' : Engine}
  {r : ResetRequest} {s : Store} {o : Origin} {l : Locale} {gs : List Group}

theorem Filed.filedAs (h : e.Filed dir form d K) (hs : s ∈ e.stores) :
    ∃ o l account, s.FiledAs dir d o l account := by
  rcases List.mem_append.mp hs with hs | hs
  · obtain ⟨g, hg, hs⟩ := List.mem_flatMap.mp hs
    exact ⟨_, _, _, h.groups g hg s hs⟩
  · exact h.kept s hs

theorem Filed.mono {K' : Locale → Prop} (h : e.Filed dir form d K) (hK : ∀ l, K l → K' l) :
    e.Filed dir form d K' :=
  ⟨h.provider, h.disk, h.groups, h.kept,
    fun g hg path hpath => (h.lists g hg path hpath).imp_left (hK g.locale),
    fun b hb path hpath => (h.keptLists b hb path hpath).imp fun l hl => hl.imp_left (hK l)⟩

/-- Every blacklist with a file has it where that of a locale is to be. -/
theorem Filed.list (h : e.Filed dir form d K) {b : Blacklist} (hb : b ∈ e.lists) {path : Text}
    (hpath : b.path = some path) :
    ∃ l, K l ∧ path = Provider.listPath dir l ∧ ∃ place, d.HostsAt path place := by
  rcases List.mem_append.mp hb with hb | hb
  · obtain ⟨g, hg, rfl⟩ := List.mem_map.mp hb
    exact ⟨g.locale, h.lists g hg path hpath⟩
  · exact h.keptLists b hb path hpath

/-! ### Stores that a group gets -/

namespace Building

variable {b b' : Building}

/-- The store of an origin that the old group of a locale hands over. -/
def handedOver (r : ResetRequest) (e : Engine) (l : Locale) (o : Origin) : Option Store :=
  (oldGroup r e l).bind (·.sub? o)

theorem filedAs_of_handedOver (he : e.Consistent) (h : e.Filed dir form d K)
    (hs : handedOver r e l o = some s) : s ∈ e.stores ∧ s.locale = l ∧ s.origin = o ∧
      s.FiledAs dir d s.origin s.locale r.account := by
  obtain ⟨g, hg, hsub⟩ := Option.bind_eq_some_iff.mp hs
  obtain ⟨hmem, hlocale, haccount⟩ := mem_oldGroup hg
  obtain ⟨hin, horigin⟩ := Group.mem_of_sub? hsub
  have hsame := (he.soundGroups g hmem).locale s hin
  have hfiled := h.groups g hmem s hin
  rw [← hsame, haccount] at hfiled
  exact ⟨mem_stores_of_mem_subs hmem hin, hsame.trans hlocale, horigin, hfiled⟩

theorem mem_placesInUse : place ∈ b.placesInUse ↔
    ∃ s, (s ∈ b.engine.stores ∨ s ∈ b.stores) ∧ s.place = some place := by
  unfold placesInUse stores
  rw [List.mem_filterMap]
  simp only [List.mem_append, or_assoc]

/-- **A store that is not handed over** is opened, with what its file holds, unless the file is open
already. -/
theorem addSub_cases {old : Option Group} {account : Option Text}
    (hnone : old.bind (·.sub? o) = none) (hp : b.engine.provider = .directory dir form)
    (h : b.engine.disk.HostsAt (Provider.storePath dir o l account) place)
    (hread : (Disk.tables? (b.engine.disk.at? place)).isSome = true) :
    let e := { b.engine with
      nextNumber := b.engine.nextNumber + 1
      opens := b.engine.opens + 1 }
    place ∈ b.placesInUse ∧ addSub l account old b o = { b with engine := e } ∨
      place ∉ b.placesInUse ∧ ∃ s : Store, s.number = b.engine.nextNumber ∧ s.origin = o ∧
        s.locale = l ∧ s.place = some place ∧
        Disk.tables? (b.engine.disk.at? place) = some s.tables ∧
        addSub l account old b o =
          { b with
            engine := { e with disk := b.engine.disk.put place (.tables s.tables) }
            subs := b.subs ++ [s] } := by
  obtain ⟨t, ht⟩ := Option.isSome_iff_exists.mp hread
  rw [addSub_of_none hnone, hp]
  dsimp only [Provider.directory]
  rw [← Provider.storePath, h.openStore_eq, ht]
  dsimp only
  by_cases hopen : place ∈ b.placesInUse
  · rw [if_pos (List.contains_iff_mem.mpr hopen)]
    refine .inl ⟨hopen, ?_⟩
    show Building.mk _ _ (b.subs ++ []) = _
    rw [List.append_nil]
  · rw [if_neg (mt List.contains_iff_mem.mp hopen)]
    exact .inr ⟨hopen,
      { number := b.engine.nextNumber, origin := o, locale := l, tables := t,
        file := some ⟨_, place, t⟩ }, rfl, rfl, rfl, rfl, rfl, rfl⟩

/-- A store that was asked for, and was handed over by the old group, or opened with what its file
held, which was the file of no open store. -/
structure Obtained (dir : Text) (d : Disk) (r : ResetRequest) (e : Engine) (s : Store)
    (place : Text) : Prop where
  locale : s.locale ∈ r.locales
  origin : s.origin ∈ r.origins
  located : s.place = some place
  hosts : d.HostsAt (Provider.storePath dir s.origin s.locale r.account) place
  source : handedOver r e s.locale s.origin = some s ∨
    handedOver r e s.locale s.origin = none ∧ (∀ t ∈ e.stores, t.place ≠ some place) ∧
      Disk.tables? (e.disk.at? place) = some s.tables

/-- The stores of a building are obtained one by one, and no file is opened twice. -/
structure Furnished (dir : Text) (d : Disk) (r : ResetRequest) (e : Engine) (b : Building) :
    Prop where
  opened : Opened e b.engine
  disk : Disk.Stored e.disk b.engine.disk
  tables : Disk.SameTables e.disk b.engine.disk
  stores : ∀ s ∈ b.stores, ∃ place, Obtained dir d r e s place
  apart : ∀ s ∈ b.stores, ∀ t ∈ b.stores, handedOver r e s.locale s.origin = none →
    s.place = t.place → s = t

theorem furnished_empty (e : Engine) : Furnished dir d r e { engine := e } :=
  ⟨Opened.refl e, Disk.Stored.refl _, fun _ => rfl, by simp [stores], by simp [stores]⟩

/-- A part of a furnished building, with more opened. -/
theorem Furnished.of_subset (h : Furnished dir d r e b) (ho : Opened b.engine b'.engine)
    (hdisk : b'.engine.disk = b.engine.disk) (hstores : b'.stores ⊆ b.stores) :
    Furnished dir d r e b' :=
  ⟨h.opened.trans ho, hdisk ▸ h.disk, hdisk ▸ h.tables, fun s hs => h.stores s (hstores hs),
    fun s hs t ht => h.apart s (hstores hs) t (hstores ht)⟩

theorem Furnished.withoutSubs (h : Furnished dir d r e b) :
    Furnished dir d r e { b with subs := [] } := by
  refine h.of_subset (Opened.refl _) rfl fun s hs => ?_
  rw [Building.stores, List.append_nil] at hs
  exact List.mem_append_left _ hs

theorem mem_stores_append {ss : List Store} {engine : Engine} :
    s ∈ ({ b with engine, subs := b.subs ++ ss } : Building).stores ↔ s ∈ b.stores ∨ s ∈ ss := by
  unfold stores
  rw [← List.append_assoc, List.mem_append]

/-- **One more store** is obtained, and if it shares its file both are handed over. -/
theorem Furnished.append (h : Furnished dir d r e b) {engine : Engine}
    (hopened : Opened b.engine engine) (hdisk : Disk.Stored b.engine.disk engine.disk)
    (htables : Disk.SameTables b.engine.disk engine.disk) (hs : Obtained dir d r e s place)
    (hapart : ∀ t ∈ b.stores, t.place = s.place →
      handedOver r e s.locale s.origin ≠ none ∧ handedOver r e t.locale t.origin ≠ none) :
    Furnished dir d r e { b with engine, subs := b.subs ++ [s] } := by
  refine ⟨h.opened.trans hopened, h.disk.trans hdisk, fun p => (htables p).trans (h.tables p),
    fun t ht => ?_, fun t ht u hu hnone hsame => ?_⟩
  · rcases mem_stores_append.mp ht with ht | ht
    · exact h.stores t ht
    · rw [List.mem_singleton.mp ht]
      exact ⟨place, hs⟩
  · rcases mem_stores_append.mp ht with ht | ht
    · rcases mem_stores_append.mp hu with hu | hu
      · exact h.apart t ht u hu hnone hsame
      · rw [List.mem_singleton.mp hu] at hsame
        exact absurd hnone (hapart t ht hsame).2
    · rw [List.mem_singleton.mp ht] at hnone hsame ⊢
      rcases mem_stores_append.mp hu with hu | hu
      · exact absurd hnone (hapart u hu hsame.symm).1
      · exact (List.mem_singleton.mp hu).symm

section
variable (he : e.Consistent) (hf : e.Filed dir form d K)
include he hf

theorem Furnished.takeOver (h : Furnished dir d r e b) (hl : l ∈ r.locales)
    (ho : o ∈ r.origins) (hs : handedOver r e l o = some s) :
    Furnished dir d r e { b with subs := b.subs ++ [s] } := by
  obtain ⟨hmem, hlocale, horigin, place, hplace, hhosts⟩ := filedAs_of_handedOver he hf hs
  have hself : handedOver r e s.locale s.origin = some s := by rw [hlocale, horigin, hs]
  refine h.append (Opened.refl _) (Disk.Stored.refl _) (fun _ => rfl)
    ⟨hlocale ▸ hl, horigin ▸ ho, hplace, hhosts, .inl hself⟩ fun t ht hsame => ⟨?_, ?_⟩
  · rw [hself]
    exact Option.some_ne_none s
  · -- what was opened is in no file of an open store
    obtain ⟨p, hobtained⟩ := h.stores t ht
    rcases hobtained.source with hheld | ⟨-, hfree, -⟩
    · rw [hheld]
      exact Option.some_ne_none t
    · rw [hobtained.located] at hsame
      exact absurd hsame.symm (hfree s hmem)

theorem Furnished.addSub (h : Furnished dir d r e b) (hl : l ∈ r.locales) (ho : o ∈ r.origins)
    (hhosts : d.HostsAt (Provider.storePath dir o l r.account) place)
    (hread : (Disk.tables? (d.at? place)).isSome = true) :
    Furnished dir d r e (addSub l r.account (oldGroup r e l) b o) := by
  rcases hheld : handedOver r e l o with _ | s
  · have hwritten := hf.disk.trans h.disk.toWritten
    have hending := Provider.storeEnding_suffix hhosts
    have hplaced := hhosts.of_written hwritten
    have hprovider := h.opened.provider.trans hf.provider
    rcases addSub_cases hheld hprovider hplaced (hwritten.isSome_tables? hending hread) with
      ⟨-, heq⟩ | ⟨hfree, s, -, rfl, rfl, hplace, htables, heq⟩
    · rw [heq]
      exact h.of_subset ⟨rfl, Nat.le_succ _⟩ rfl fun _ hs => hs
    · rw [mem_placesInUse, not_exists] at hfree
      rw [heq]
      refine h.append ⟨rfl, Nat.le_succ _⟩ (Disk.stored_put hending hplaced.file _)
        (Disk.sameTables_put hplaced.file htables)
        ⟨hl, ho, hplace, hhosts, .inr ⟨hheld, fun u hu hp => ?_, ?_⟩⟩ fun t ht hsame => ?_
      · exact hfree u ⟨.inl (h.opened.stores ▸ hu), hp⟩
      · rw [← h.tables place]
        exact htables
      · exact absurd ⟨.inr ht, hsame.trans hplace⟩ (hfree t)
  · rw [addSub_of_some hheld]
    exact h.takeOver he hf hl ho hheld

theorem Furnished.addGroup (h : Furnished dir d r e b) (hr : r.Hosted dir d)
    (hl : l ∈ r.locales) : Furnished dir d r e (addGroup r b l) := by
  have hold := oldGroup_opened r h.opened l
  have hempty := h.withoutSubs
  have hsubs : Furnished dir d r e (withSubs r b l) := by
    unfold withSubs
    rw [hold]
    refine List.foldlRecOn r.origins _ hempty fun b' hb' o ho => ?_
    obtain ⟨place, hhosts, hread⟩ := hr.stores l hl o ho
    exact hb'.addSub he hf hl ho hhosts hread
  rw [addGroup_eq]
  refine hsubs.of_subset ((opened_listFor _ l).trans ⟨rfl, Nat.le_succ _⟩) (disk_listFor _ l)
    fun s hs => ?_
  rw [Building.stores, List.append_nil, List.flatMap_append, List.flatMap_singleton] at hs
  rw [Building.stores, groups_withSubs]
  exact hs

end

theorem account_of_mem_addGroup {k : Group} (hk : k ∈ (addGroup r b l).groups) :
    k ∈ b.groups ∨ k.account = r.account := by
  rw [addGroup_eq] at hk
  rcases List.mem_append.mp hk with hk | hk
  · exact .inl hk
  · rw [List.mem_singleton.mp hk]
    exact .inr rfl

end Building

theorem filed_cancelWaiting (h : e.Filed dir form d K) :
    ({ e with queue := e.queue.cancelWaiting } : Engine).Filed dir form d K :=
  ⟨h.provider, h.disk, h.groups, h.kept, h.lists, h.keptLists⟩

/-- **What a reset builds** is furnished. -/
theorem furnished_built (he : e.Consistent) (h : e.Filed dir form d K) (hr : r.Hosted dir d) :
    Building.Furnished dir d r { e with queue := e.queue.cancelWaiting } (e.built r) := by
  exact List.foldlRecOn r.locales _ (Building.furnished_empty _) fun b hb l hl =>
    hb.addGroup (consistent_cancelWaiting he) (filed_cancelWaiting h) hr hl

theorem account_of_mem_reset {k : Group} (hk : k ∈ (e.reset r).groups) :
    k.account = r.account := by
  have hbuilt : ∀ k ∈ (e.built r).groups, k.account = r.account := by
    refine List.foldlRecOn (motive := fun b : Building => ∀ k ∈ b.groups, k.account = r.account)
      r.locales _ (by simp) fun b hb l _ k hk => ?_
    exact (Building.account_of_mem_addGroup hk).elim (hb k) id
  rw [groups_reset] at hk
  exact hbuilt k hk

/-! ### Every action -/

/-- **Closing** what is kept aside writes stores only. -/
theorem Filed.stored_settle (h : e.Filed dir form d K) : Disk.Stored e.disk e.settle.disk := by
  refine Disk.stored_closeStores _ fun s hs p hp => ?_
  obtain ⟨o, l, account, hfiled⟩ := h.kept s (List.mem_filter.mp hs).1
  obtain ⟨hending, hfile⟩ := hfiled.ending hp
  exact ⟨hending, fun hdir => hfile (h.disk.directory_iff.mp hdir)⟩

theorem Filed.settle (h : e.Filed dir form d K) : e.settle.Filed dir form d K :=
  ⟨h.provider, h.disk.trans h.stored_settle.toWritten, h.groups,
    fun s hs => h.kept s (List.mem_filter.mp hs).1, h.lists,
    fun b hb => h.keptLists b (List.mem_filter.mp hb).1⟩

/-- Other groups, with files of their own. -/
theorem Filed.replaced (h : e.Filed dir form d K)
    (hgroups : ∀ k ∈ gs, ∀ s ∈ k.subs, s.FiledAs dir d s.origin k.locale k.account)
    (hlists : ∀ k ∈ gs, ∀ path, k.blacklist.path = some path →
      K k.locale ∧ path = Provider.listPath dir k.locale ∧ ∃ place, d.HostsAt path place) :
    (e.replaced gs).Filed dir form d K := by
  refine ⟨h.provider, h.disk, hgroups, fun s hs => ?_, hlists, fun b hb path hpath => ?_⟩
  · rcases List.mem_append.mp hs with hs | hs
    · exact h.kept s hs
    · exact h.filedAs (List.mem_append_left _ (List.mem_filter.mp hs).1)
  · rcases List.mem_append.mp hb with hb | hb
    · exact h.keptLists b hb path hpath
    · exact h.list (List.mem_append_left _ (List.mem_filter.mp hb).1) hpath

theorem Filed.of_opened (h : e.Filed dir form d K) (ho : Opened e e')
    (hdisk : Disk.Stored e.disk e'.disk) : e'.Filed dir form d K :=
  ⟨ho.provider.trans h.provider, h.disk.trans hdisk.toWritten, ho.groups ▸ h.groups,
    ho.keptStores ▸ h.kept, ho.groups ▸ h.lists, ho.keptLists ▸ h.keptLists⟩

theorem filed_start {d' : Disk} (hd : Disk.Written d d') (s : Settings) :
    (start (.directory dir form) s d').Filed dir form d K := by
  refine ⟨rfl, hd, fun g hg s hs => ?_, fun s hs => absurd hs List.not_mem_nil,
    fun g hg path hpath => ?_, fun b hb => absurd hb List.not_mem_nil⟩
  · rw [List.mem_singleton.mp hg] at hs
    exact absurd hs List.not_mem_nil
  · rw [List.mem_singleton.mp hg] at hpath
    exact nomatch hpath

/-- What is opened for a reset changes stores only. -/
theorem Filed.stored_openStore (h : e.Filed dir form d K) (hr : r.Hosted dir d) :
    ∀ l ∈ r.locales, ∀ o ∈ r.origins, ∀ d' inUse n, Disk.Stored e.disk d' →
      Disk.Stored e.disk (e.provider.openStore d' inUse n o l r.account).2 := by
  intro l hl o ho d' inUse n hd'
  obtain ⟨place, hhosts, -⟩ := hr.stores l hl o ho
  have hplaced := hhosts.of_written (h.disk.trans hd'.toWritten)
  rw [h.provider]
  exact hd'.trans
    (hplaced.stored_openStore (Provider.storeEnding_suffix hhosts) inUse n o l).1

theorem filed_replaced_built (hsound : e.Sound) (hlisted : e.Listed)
    (h : e.Filed dir form d K) (hr : r.Hosted dir d) (hK : ∀ l ∈ r.locales, K l) :
    ((e.built r).engine.replaced (e.built r).groups).Filed dir form d K := by
  have hbuilt := furnished_built hsound.toConsistent h hr
  have hreset := sound_reset hsound r
  refine Filed.replaced ((filed_cancelWaiting h).of_opened hbuilt.opened hbuilt.disk)
    (fun k hk s hs => ?_) fun k hk path hpath => ?_
  · rw [← groups_reset] at hk
    have hmem : s ∈ (e.built r).stores :=
      List.mem_append_left _ (List.mem_flatMap.mpr ⟨k, groups_reset e r ▸ hk, hs⟩)
    obtain ⟨place, hobtained⟩ := hbuilt.stores s hmem
    rw [account_of_mem_reset hk, ← (hreset.soundGroups k hk).locale s hs]
    exact ⟨place, hobtained.located, hobtained.hosts⟩
  · rw [← groups_reset] at hk
    have hlocales : k.locale ∈ r.locales := locales_reset e r ▸ List.mem_map_of_mem hk
    rcases source_of_mem_reset (P := fun _ => True) hlisted trivial
      (fun _ _ _ _ _ _ _ _ => trivial) hk with ⟨g, hg, hlocale, heq⟩ | ⟨-, n, d', -, -, heq⟩
    · rw [← hlocale]
      exact h.lists g hg path (heq ▸ hpath)
    · obtain ⟨place, hhosts⟩ := hr.lists k.locale hlocales
      rw [heq, Building.path_newList, h.provider] at hpath
      obtain rfl : Provider.listPath dir k.locale = path := Option.some.inj hpath
      exact ⟨hK k.locale hlocales, rfl, place, hhosts⟩

theorem filed_reset (hsound : e.Sound) (hlisted : e.Listed) (h : e.Filed dir form d K)
    (hr : r.Hosted dir d) (hK : ∀ l ∈ r.locales, K l) : (e.reset r).Filed dir form d K := by
  have hsettled := (filed_replaced_built hsound hlisted h hr hK).settle
  rw [reset_eq]
  exact ⟨hsettled.provider, hsettled.disk, hsettled.groups, hsettled.kept, hsettled.lists,
    hsettled.keptLists⟩

/-- **A reset** changes stores only. -/
theorem stored_reset (hsound : e.Sound) (hlisted : e.Listed) (h : e.Filed dir form d K)
    (hr : r.Hosted dir d) : Disk.Stored e.disk (e.reset r).disk := by
  have hbuilt := furnished_built hsound.toConsistent h hr
  have hreplaced := filed_replaced_built hsound hlisted (h.mono fun _ _ => trivial) hr
    fun _ _ => trivial
  rw [reset_eq]
  exact hbuilt.disk.trans hreplaced.stored_settle

theorem filed_replaced_closing (h : e.Filed dir form d K) :
    (e.closing.replaced [.placeholder e.nextNumber (e.nextNumber + 1)]).Filed dir form d K := by
  have hclosing : e.closing.Filed dir form d K :=
    ⟨h.provider, h.disk, h.groups, h.kept, h.lists, h.keptLists⟩
  refine hclosing.replaced (fun k hk s hs => ?_) fun k hk path hpath => ?_
  · rw [List.mem_singleton.mp hk] at hs
    exact absurd hs List.not_mem_nil
  · rw [List.mem_singleton.mp hk] at hpath
    exact nomatch hpath

theorem filed_close (h : e.Filed dir form d K) : e.close.Filed dir form d K := by
  have hsettled := (filed_replaced_closing h).settle
  rw [close_eq]
  exact ⟨hsettled.provider, hsettled.disk, hsettled.groups, hsettled.kept, hsettled.lists,
    hsettled.keptLists⟩

theorem stored_close (h : e.Filed dir form d K) : Disk.Stored e.disk e.close.disk :=
  (filed_replaced_closing h).stored_settle

theorem Filed.stored_shutDown (h : e.Filed dir form d K) : Disk.Stored e.disk e.shutDown := by
  refine Disk.stored_closeStores _ fun s hs p hp => ?_
  obtain ⟨o, l, account, hfiled⟩ := h.filedAs hs
  obtain ⟨hending, hfile⟩ := hfiled.ending hp
  exact ⟨hending, fun hdir => hfile (h.disk.directory_iff.mp hdir)⟩

/-- New versions of its stores leave an engine at home. -/
theorem Filed.of_updates (h : e.Filed dir form d K) (hu : e.Updates e')
    (hdisk : Disk.Written e.disk e'.disk)
    (hlists : ∀ g' ∈ e'.groups, ∃ g ∈ e.groups,
      g'.locale = g.locale ∧ g'.blacklist.path = g.blacklist.path)
    (hkeptLists : e'.keptLists = e.keptLists) : e'.Filed dir form d K := by
  obtain ⟨f, hgroups, hf⟩ := hu.groups
  obtain ⟨k, hkept, hk⟩ := hu.kept
  refine ⟨hu.provider.trans h.provider, h.disk.trans hdisk, fun g' hg' s' hs' => ?_,
    fun s' hs' => ?_, fun g' hg' path hpath => ?_, hkeptLists ▸ h.keptLists⟩
  · rw [hgroups] at hg'
    obtain ⟨g, hg, rfl⟩ := List.mem_map.mp hg'
    obtain ⟨v, hv, hversions⟩ := (hf g hg).subs
    rw [hv] at hs'
    obtain ⟨s, hs, rfl⟩ := List.mem_map.mp hs'
    obtain ⟨place, hplace, hhosts⟩ := h.groups g hg s hs
    rw [(hversions s hs).origin, (hf g hg).locale, (hf g hg).account]
    exact ⟨place, (hversions s hs).place.trans hplace, hhosts⟩
  · rw [hkept] at hs'
    obtain ⟨s, hs, rfl⟩ := List.mem_map.mp hs'
    obtain ⟨o, l, account, place, hplace, hhosts⟩ := h.kept s hs
    exact ⟨o, l, account, place, (hk s hs).place.trans hplace, hhosts⟩
  · obtain ⟨g, hg, hlocale, hlist⟩ := hlists g' hg'
    rw [hlocale]
    exact h.lists g hg path (hlist ▸ hpath)

/-- **A task** writes no more than a blacklist. -/
theorem Filed.written_ran {t : Task} (h : e.Filed dir form d K) (hran : e.Ran t e') :
    Disk.Written e.disk e'.disk := by
  cases hran with
  | nothing | store | main => exact Disk.Written.refl _
  | @list n b hb =>
    rcases hpath : b.path with _ | path
    · show Disk.Written e.disk (b.persist e.disk).2
      unfold Blacklist.persist
      rw [hpath]
      exact Disk.Written.refl _
    · obtain ⟨l, -, rfl, place, hhosts⟩ := h.list (mem_of_list? hb).1 hpath
      exact Disk.written_persist (hhosts.of_written h.disk) hpath
        (Provider.listEnding_suffix hhosts)

theorem Filed.ran {t : Task} (he : e.Consistent) (h : e.Filed dir form d K) (hran : e.Ran t e') :
    e'.Filed dir form d K := by
  obtain ⟨f, hgroups, hf⟩ := hran.groups he.toNumbered
  refine h.of_updates (hran.updates he) (h.written_ran hran) (fun g' hg' => ?_) hran.keptLists_eq
  rw [hgroups] at hg'
  obtain ⟨g, hg, rfl⟩ := List.mem_map.mp hg'
  rw [hf g hg]
  exact ⟨g, hg, rfl, rfl⟩

theorem Filed.perform {a : Action} (hsound : e.Sound) (hlisted : e.Listed)
    (h : e.Filed dir form d K) (ha : ∀ r, a = .reset r → r.Hosted dir d ∧ ∀ l ∈ r.locales, K l) :
    (e.perform a).Filed dir form d K := by
  cases a using Action.edit_cases with
  | edit a hedit =>
    have hedits := edits_perform hsound.toOrderly hedit
    obtain ⟨f, hgroups, hf⟩ := hedits.groups
    refine h.of_updates (updates_perform hsound.toConsistent hedit) ?_ (fun g' hg' => ?_)
      hedits.keptLists
    · rw [hedits.disk]
      exact Disk.Written.refl _
    · rw [hgroups] at hg'
      obtain ⟨g, hg, rfl⟩ := List.mem_map.mp hg'
      exact ⟨g, hg, (hf g).locale, (hf g).listPath⟩
  | reset r => exact filed_reset hsound hlisted h (ha r rfl).1 (ha r rfl).2
  | close => exact filed_close h
  | restart =>
    have hstart : (start (.directory dir form) e.settings e.shutDown).Filed dir form d K :=
      filed_start (h.disk.trans h.stored_shutDown.toWritten) e.settings
    rw [← h.provider] at hstart
    exact ⟨hstart.provider, hstart.disk, hstart.groups, hstart.kept, hstart.lists,
      hstart.keptLists⟩
  | work =>
    show e.runNext.Filed dir form d K
    rcases runNext_cases hsound.free with ⟨-, heq⟩ | ⟨q, rest, e', -, hran, -, heq⟩
    · rw [heq]
      exact h
    · have hfiled := h.ran hsound.toConsistent hran
      rw [heq]
      exact Filed.settle ⟨hfiled.provider, hfiled.disk, hfiled.groups, hfiled.kept, hfiled.lists,
        hfiled.keptLists⟩

theorem filed_run (hsound : e.Sound) (hlisted : e.Listed) (h : e.Filed dir form d K)
    {as : List Action} (has : ∀ r, .reset r ∈ as → r.Hosted dir d ∧ ∀ l ∈ r.locales, K l) :
    (e.after as).Sound ∧ (e.after as).Listed ∧ (e.after as).Filed dir form d K := by
  induction as using List.reverseRecOn with
  | nil => exact ⟨hsound, hlisted, h⟩
  | append_singleton as a ih =>
    obtain ⟨hsound, hlisted, h⟩ := ih fun r hr => has r (List.mem_append_left _ hr)
    rw [after, List.foldl_concat, ← after]
    refine ⟨hsound.perform a, hlisted.perform hsound.toOrderly a, h.perform hsound hlisted ?_⟩
    rintro r rfl
    exact has r (List.mem_append_right _ (List.mem_singleton_self _))

/-- **Whatever happened**, the engine is at home where its resets have their files. -/
theorem filed_after (hd : d.Sound) (s : Settings) {as : List Action}
    (has : ∀ r, .reset r ∈ as → r.Hosted dir d ∧ ∀ l ∈ r.locales, K l) :
    ((start (.directory dir form) s d).after as).Sound ∧
      ((start (.directory dir form) s d).after as).Listed ∧
      ((start (.directory dir form) s d).after as).Filed dir form d K :=
  filed_run (sound_start (Provider.sound_directory dir form) hd s) (listed_start _ s d)
    (filed_start (Disk.Written.refl d) s) has

end Engine

end Typeahead
