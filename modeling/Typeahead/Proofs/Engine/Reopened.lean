import Typeahead.Proofs.Engine.Filed

/-! # Stores across a reset

A reset opens the stores that the old groups do not hand over while all old stores are still open.
A file that is open cannot be opened again, so every group has all stores that were asked for, with
what they held before, exactly when no file that has to be opened is open already or has to be
opened twice (`furnished_iff`). A forced reset hands over nothing: where a locale stays, its stores
are lost (`forced_reset_loses_stores`). -/

namespace Typeahead

namespace Engine

/-- The reset has to open the store of an origin and a locale, whose file is at a place. -/
structure Opening (dir : Text) (e : Engine) (r : ResetRequest) (l : Locale) (o : Origin)
    (place : Text) : Prop where
  locale : l ∈ r.locales
  origin : o ∈ r.origins
  missing : Building.handedOver r e l o = none
  located : e.disk.locate (Provider.storePath dir o l r.account) = .ok place

/-- No file that has to be opened is open, and none has to be opened for two stores. -/
def FilesFree (dir : Text) (e : Engine) (r : ResetRequest) : Prop :=
  ∀ l o place, Opening dir e r l o place → (∀ s ∈ e.stores, s.place ≠ some place) ∧
    ∀ l' o', Opening dir e r l' o' place → l' = l ∧ o' = o

theorem filesFree_iff {dir : Text} {e : Engine} {r : ResetRequest} : e.FilesFree dir r ↔
    ∀ l ∈ r.locales, ∀ o ∈ r.origins, Building.handedOver r e l o = none →
      ∀ place ∈ (e.disk.locate (Provider.storePath dir o l r.account)).toOption,
        (∀ s ∈ e.stores, s.place ≠ some place) ∧
          ∀ l' ∈ r.locales, ∀ o' ∈ r.origins, Building.handedOver r e l' o' = none →
            (e.disk.locate (Provider.storePath dir o' l' r.account)).toOption = some place →
            l' = l ∧ o' = o := by
  constructor
  · intro h l hl o ho hmissing place hplace
    obtain ⟨hclosed, honly⟩ := h l o place ⟨hl, ho, hmissing, Disk.mem_toOption_locate.mp hplace⟩
    exact ⟨hclosed, fun l' hl' o' ho' hmissing' hplace' =>
      honly l' o' ⟨hl', ho', hmissing', Disk.mem_toOption_locate.mp hplace'⟩⟩
  · intro h l o place hopening
    obtain ⟨hclosed, honly⟩ := h l hopening.locale o hopening.origin hopening.missing place
      (Disk.mem_toOption_locate.mpr hopening.located)
    exact ⟨hclosed, fun l' o' hother => honly l' hother.locale o' hother.origin hother.missing
      (Disk.mem_toOption_locate.mpr hother.located)⟩

instance (dir : Text) (e : Engine) (r : ResetRequest) : Decidable (e.FilesFree dir r) :=
  decidable_of_iff' _ filesFree_iff

/-- What was stored at a place last: in the open store that has its file there, or in the file. -/
def Holds (e : Engine) (place : Text) (t : Tables) : Prop :=
  (∃ s ∈ e.stores, s.place = some place ∧ s.tables = t) ∨
    (∀ s ∈ e.stores, s.place ≠ some place) ∧ Disk.tables? (e.disk.at? place) = some t

variable {dir place : Text} {form : NormalForm} {d : Disk} {K : Locale → Prop} {e : Engine}
  {r : ResetRequest} {s : Store} {o : Origin} {l : Locale}

/-! ### Building with free files -/

namespace Building

variable {b : Building}

section
variable (he : e.Consistent) (hf : e.Filed dir form d K) (hfree : e.FilesFree dir r)
include he hf hfree

/-- A file that has to be opened is free until its own store is obtained. -/
theorem Furnished.not_mem_placesInUse (h : Furnished dir d r e b)
    (hopening : Opening dir e r l o place)
    (hnew : ∀ s ∈ b.stores, s.locale = l → s.origin ≠ o) : place ∉ b.placesInUse := by
  obtain ⟨hclosed, honly⟩ := hfree l o place hopening
  rw [mem_placesInUse]
  rintro ⟨s, hs | hs, hp⟩
  · exact hclosed s (h.opened.stores ▸ hs) hp
  · obtain ⟨place', hobtained⟩ := h.stores s hs
    obtain rfl : place' = place := Option.some.inj (hobtained.located.symm.trans hp)
    rcases hobtained.source with hheld | ⟨hnone, -, -⟩
    · exact hclosed s (filedAs_of_handedOver he hf hheld).1 hp
    · -- a store that was opened with this file is of the same locale and origin
      have hsame := honly s.locale s.origin ⟨hobtained.locale, hobtained.origin, hnone,
        hf.disk.locate_eq hobtained.hosts.locate⟩
      exact hnew s hs hsame.1 hsame.2

variable (hr : r.Hosted dir d) (hl : l ∈ r.locales)
include hr hl

/-- **A store is obtained** while no store of its locale and origin has been. -/
theorem Furnished.exists_sub (h : Furnished dir d r e b) (ho : o ∈ r.origins)
    (hnew : ∀ s ∈ b.stores, s.locale = l → s.origin ≠ o) :
    ∃ s, s.locale = l ∧ s.origin = o ∧
      (Building.addSub l r.account (oldGroup r e l) b o).subs = b.subs ++ [s] := by
  obtain ⟨place, hhosts, hread⟩ := hr.stores l hl o ho
  rcases hheld : handedOver r e l o with _ | s
  · have hwritten := hf.disk.trans h.disk.toWritten
    have hending := Provider.storeEnding_suffix hhosts
    have hprovider := h.opened.provider.trans hf.provider
    have hunused : place ∉ b.placesInUse := h.not_mem_placesInUse he hf hfree
      ⟨hl, ho, hheld, hf.disk.locate_eq hhosts.locate⟩ hnew
    rcases addSub_cases hheld hprovider (hhosts.of_written hwritten)
      (hwritten.isSome_tables? hending hread) with ⟨hused, -⟩ | ⟨-, s, -, ho', hl', -, -, heq⟩
    · exact absurd hused hunused
    · exact ⟨s, hl', ho', by rw [heq]⟩
  · obtain ⟨-, hlocale, horigin, -⟩ := filedAs_of_handedOver he hf hheld
    rw [addSub_of_some hheld]
    exact ⟨s, hlocale, horigin, rfl⟩

theorem Furnished.origins_foldl (os : List Origin) : ∀ {b : Building}, Furnished dir d r e b →
    os.Nodup → (∀ o ∈ os, o ∈ r.origins) → (∀ s ∈ b.stores, s.locale = l → s.origin ∉ os) →
    (os.foldl (Building.addSub l r.account (oldGroup r e l)) b).subs.map (·.origin) =
      b.subs.map (·.origin) ++ os := by
  induction os with
  | nil => exact fun _ _ _ _ => (List.append_nil _).symm
  | cons o os ih =>
    intro b h hnodup hos hnew
    have ho : o ∈ r.origins := hos o List.mem_cons_self
    obtain ⟨place, hhosts, hread⟩ := hr.stores l hl o ho
    obtain ⟨s, hlocale, horigin, hsubs⟩ := h.exists_sub he hf hfree hr hl ho
      fun s hs hsl hso => hnew s hs hsl (hso ▸ List.mem_cons_self)
    have hgroups := groups_addSub l r.account (oldGroup r e l) b o
    rw [List.foldl_cons, ih (h.addSub he hf hl ho hhosts hread) (List.nodup_cons.mp hnodup).2
      (fun o' ho' => hos o' (List.mem_cons_of_mem o ho')) fun t ht htl => ?_, hsubs,
      List.map_append, List.map_singleton, horigin, List.append_assoc, List.singleton_append]
    rw [Building.stores, hgroups, hsubs, ← List.append_assoc, List.mem_append] at ht
    rcases ht with ht | ht
    · exact fun hmem => hnew t ht htl (List.mem_cons_of_mem o hmem)
    · rw [List.mem_singleton.mp ht, horigin]
      exact (List.nodup_cons.mp hnodup).1

end

/-- All groups so far have all stores that were asked for. -/
def Complete (r : ResetRequest) (b : Building) : Prop :=
  ∀ g ∈ b.groups, g.subs.map (·.origin) = r.origins

section
variable (he : e.Consistent) (hf : e.Filed dir form d K) (hfree : e.FilesFree dir r)
  (hr : r.Hosted dir d)
include he hf hfree hr

/-- **One more group** gets all its stores. -/
theorem Complete.addGroup (h : Complete r b) (hb : Furnished dir d r e b) (hsound : b.Sound e)
    (hl : l ∈ r.locales) (hnew : l ∉ b.groups.map (·.locale)) :
    Complete r (Building.addGroup r b l) := by
  have hold := oldGroup_opened r hb.opened l
  have hempty := hb.withoutSubs
  have horigins : (withSubs r b l).subs.map (·.origin) = r.origins := by
    unfold withSubs
    rw [hold, hempty.origins_foldl he hf hfree hr hl r.origins r.nodup_origins (fun _ ho => ho)
      fun s hs hsl => ?_]
    · rfl
    · rw [Building.stores, List.append_nil] at hs
      obtain ⟨g, hg, hs⟩ := List.mem_flatMap.mp hs
      exact absurd (List.mem_map.mpr ⟨g, hg, ((hsound.soundGroups g hg).locale s hs).symm.trans hsl⟩)
        hnew
  rw [addGroup_eq]
  intro g hg
  rcases List.mem_append.mp hg with hg | hg
  · exact h g hg
  · rw [List.mem_singleton.mp hg]
    exact horigins

theorem Complete.foldl (ls : List Locale) : ∀ {b : Building}, Complete r b →
    Furnished dir d r e b → b.Sound e → (∀ l ∈ ls, l ∈ r.locales) →
    (b.groups.map (·.locale) ++ ls).Nodup → Complete r (ls.foldl (Building.addGroup r) b) := by
  induction ls with
  | nil => exact fun h _ _ _ _ => h
  | cons l ls ih =>
    intro b h hb hsound hls hnodup
    have hl : l ∈ r.locales := hls l List.mem_cons_self
    have hnew : l ∉ b.groups.map (·.locale) := fun hmem =>
      List.disjoint_of_nodup_append hnodup hmem List.mem_cons_self
    refine ih (h.addGroup he hf hfree hr hb hsound hl hnew) (hb.addGroup he hf hr hl)
      (sound_addGroup he hsound r l).1 (fun l' hl' => hls l' (List.mem_cons_of_mem l hl')) ?_
    rw [locales_addGroup, List.append_assoc, List.singleton_append]
    exact hnodup

end

end Building

/-! ### The reset as a whole -/

theorem filesFree_cancelWaiting (h : e.FilesFree dir r) :
    ({ e with queue := e.queue.cancelWaiting } : Engine).FilesFree dir r := by
  intro l o place hopening
  obtain ⟨hclosed, honly⟩ :=
    h l o place ⟨hopening.locale, hopening.origin, hopening.missing, hopening.located⟩
  exact ⟨hclosed, fun l' o' hother =>
    honly l' o' ⟨hother.locale, hother.origin, hother.missing, hother.located⟩⟩

/-- **With free files** all groups get all their stores. -/
theorem complete_built (he : e.Consistent) (hf : e.Filed dir form d K) (hfree : e.FilesFree dir r)
    (hr : r.Hosted dir d) : Building.Complete r (e.built r) := by
  have hcancelled := consistent_cancelWaiting he
  have hnone : Building.Complete r { engine := { e with queue := e.queue.cancelWaiting } } :=
    fun g hg => absurd hg List.not_mem_nil
  exact hnone.foldl hcancelled (filed_cancelWaiting hf) (filesFree_cancelWaiting hfree) hr r.locales
    (Building.furnished_empty _) (Building.sound_empty hcancelled) (fun _ hl => hl)
    (by simpa using r.nodup_locales)

/-- Where the store of a group comes from. -/
theorem obtained_of_mem_reset {g : Group} (hsound : e.Sound) (hf : e.Filed dir form d K)
    (hr : r.Hosted dir d) (hg : g ∈ (e.reset r).groups) (hs : g.sub? o = some s) :
    s ∈ (e.built r).stores ∧ s.locale = g.locale ∧ s.origin = o ∧
      ∃ place, Building.Obtained dir d r e s place := by
  obtain ⟨hmem, horigin⟩ := Group.mem_of_sub? hs
  have hlocale := ((sound_reset hsound r).soundGroups g hg).locale s hmem
  rw [groups_reset] at hg
  have hin : s ∈ (e.built r).stores :=
    List.mem_append_left _ (List.mem_flatMap.mpr ⟨g, hg, hmem⟩)
  obtain ⟨place, h⟩ := (furnished_built hsound.toConsistent hf hr).stores s hin
  exact ⟨hin, hlocale, horigin, place, h.locale, h.origin, h.located, h.hosts, h.source⟩

/-- A store that had to be opened, and was, has its file at the place of its path. -/
theorem exists_store_of_opening (hsound : e.Sound) (hf : e.Filed dir form d K)
    (hr : r.Hosted dir d)
    (hall : ∀ g ∈ (e.reset r).groups, ∀ o ∈ r.origins, ∃ s, g.sub? o = some s)
    (h : Opening dir e r l o place) : ∃ s ∈ (e.built r).stores, s.locale = l ∧ s.origin = o ∧
      s.place = some place ∧ ∀ t ∈ e.stores, t.place ≠ some place := by
  have hl := h.locale
  rw [← locales_reset e r] at hl
  obtain ⟨g, hg, rfl⟩ := List.mem_map.mp hl
  obtain ⟨s, hs⟩ := hall g hg o h.origin
  obtain ⟨hin, hlocale, horigin, place', hobtained⟩ := obtained_of_mem_reset hsound hf hr hg hs
  have hlocated := hf.disk.locate_eq hobtained.hosts.locate
  rw [horigin, hlocale, h.located] at hlocated
  obtain rfl : place = place' := Except.ok.inj hlocated
  have hmissing := h.missing
  rw [← horigin, ← hlocale] at hmissing
  refine ⟨s, hin, hlocale, horigin, hobtained.located, ?_⟩
  rcases hobtained.source with hheld | ⟨-, hclosed, -⟩
  · exact nomatch hheld.symm.trans hmissing
  · exact hclosed

theorem filesFree_of_complete (hsound : e.Sound) (hf : e.Filed dir form d K)
    (hr : r.Hosted dir d)
    (hall : ∀ g ∈ (e.reset r).groups, ∀ o ∈ r.origins, ∃ s, g.sub? o = some s) :
    e.FilesFree dir r := by
  intro l o place h
  obtain ⟨s, hs, rfl, rfl, hplace, hclosed⟩ := exists_store_of_opening hsound hf hr hall h
  refine ⟨hclosed, fun l' o' h' => ?_⟩
  obtain ⟨t, ht, rfl, rfl, hplace', -⟩ := exists_store_of_opening hsound hf hr hall h'
  rw [(furnished_built hsound.toConsistent hf hr).apart s hs t ht h.missing
    (hplace.trans hplace'.symm)]
  exact ⟨rfl, rfl⟩

/-- **A forced reset** loses the stores of the locales that stay: their files are open. -/
theorem forced_reset_loses_stores (hsound : e.Sound) (hf : e.Filed dir form d K)
    (hr : r.Hosted dir d) (hforce : r.force = true) {g k : Group} (hg : g ∈ e.groups)
    (haccount : g.account = r.account) (hsub : (g.sub? o).isSome = true)
    (hk : k ∈ (e.reset r).groups) (hlocale : k.locale = g.locale) : k.sub? o = none := by
  obtain ⟨t, ht⟩ := Option.isSome_iff_exists.mp hsub
  obtain ⟨hmem, horigin⟩ := Group.mem_of_sub? ht
  obtain ⟨place, hplace, hhosts⟩ := hf.groups g hg t hmem
  rcases hs : k.sub? o with _ | s
  · rfl
  · obtain ⟨-, hsl, hso, place', hobtained⟩ := obtained_of_mem_reset hsound hf hr hk hs
    have hlocated := hobtained.hosts.locate
    rw [hso, hsl, hlocale, ← horigin, ← haccount, hhosts.locate] at hlocated
    obtain rfl : place = place' := Except.ok.inj hlocated
    rcases hobtained.source with hheld | ⟨-, hclosed, -⟩
    · rw [Building.handedOver, Building.oldGroup, if_pos hforce] at hheld
      cases hheld
    · exact absurd hplace (hclosed t (mem_stores_of_mem_subs hg hmem))

/-- **A store that a group has after a reset** holds what was stored before. -/
theorem holds_of_obtained (hsound : e.Sound) (hf : e.Filed dir form d K)
    (h : Building.Obtained dir d r e s place) : e.Holds place s.tables := by
  rcases h.source with hheld | ⟨-, hclosed, htables⟩
  · exact .inl ⟨s, (Building.filedAs_of_handedOver hsound.toConsistent hf hheld).1, h.located, rfl⟩
  · exact .inr ⟨hclosed, htables⟩

/-- **A reset costs no group a store** exactly if the files that have to be opened are free: then
all groups have all stores that were asked for, each with its own file and with what was stored
there. -/
theorem furnished_iff (hd : d.Sound) (s : Settings) {as : List Action}
    (has : ∀ r, .reset r ∈ as → r.Hosted dir d) (hr : r.Hosted dir d) :
    let e := (start (.directory dir form) s d).after as
    (∀ g ∈ (e.reset r).groups, ∀ o ∈ r.origins, ∃ s place, g.sub? o = some s ∧
      s.place = some place ∧
      e.disk.locate (Provider.storePath dir o g.locale r.account) = .ok place ∧
      e.Holds place s.tables) ↔ e.FilesFree dir r := by
  intro e
  obtain ⟨hsound, -, hf⟩ : e.Sound ∧ e.Listed ∧ e.Filed dir form d fun _ => True :=
    filed_after hd s fun r hr => ⟨has r hr, fun _ _ => trivial⟩
  constructor
  · intro hall
    refine filesFree_of_complete hsound hf hr fun g hg o ho => ?_
    obtain ⟨s, place, hs, -⟩ := hall g hg o ho
    exact ⟨s, hs⟩
  · intro hfree g hg o ho
    have hcomplete := complete_built hsound.toConsistent hf hfree hr g (groups_reset e r ▸ hg)
    obtain ⟨t, ht, rfl⟩ := List.mem_map.mp (hcomplete ▸ ho)
    have hsub := Group.sub?_of_mem ((sound_reset hsound r).soundGroups g hg) ht
    obtain ⟨-, hlocale, -, place, hobtained⟩ := obtained_of_mem_reset hsound hf hr hg hsub
    refine ⟨t, place, hsub, hobtained.located, ?_, holds_of_obtained hsound hf hobtained⟩
    rw [← hlocale]
    exact hf.disk.locate_eq hobtained.hosts.locate

/-- Another locale was active in between: the store comes back with the word that was added to it. -/
theorem furnished_iff_switched_back :
    let dir := "/d".toList
    let d : Disk := { files := [(dir, .directory)] }
    let r : ResetRequest := { primary := ⟨"en".toList⟩ }
    let as : List Action :=
      [.reset r, .add 0 .user "hallo".toList 200, .reset { primary := ⟨"de".toList⟩ }]
    let e := (start (.directory dir .nfc) {} d).after as
    (d.Sound ∧ (∀ r', .reset r' ∈ as → r'.Hosted dir d) ∧ r.Hosted dir d) ∧
      (∀ g ∈ (e.reset r).groups, ∀ o ∈ r.origins, ∃ s place, g.sub? o = some s ∧
        s.place = some place ∧
        e.disk.locate (Provider.storePath dir o g.locale r.account) = .ok place ∧
        e.Holds place s.tables) ∧
      ((e.reset r).groups.map fun g => g.subs.map fun s => (s.origin, s.contains "hallo".toList)) =
        [[(.user, true), (.history, false)]] := by
  intro dir d r as e
  have hd : d.Sound := by
    intro place t ht
    exact nomatch (Prod.ext_iff.mp (List.mem_singleton.mp ht)).2
  have hr : r.Hosted dir d := by decide +kernel
  have has : ∀ r', .reset r' ∈ as → r'.Hosted dir d := by
    intro r' hr'
    simp only [as, List.mem_cons, List.not_mem_nil, or_false, Action.reset.injEq,
      reduceCtorEq, false_or] at hr'
    rcases hr' with rfl | rfl
    · exact hr
    · decide +kernel
  have hfree : e.FilesFree dir r := by decide +kernel
  exact ⟨⟨hd, has, hr⟩, (furnished_iff hd {} has hr).mpr hfree, by decide +kernel⟩

/-- A reset to the locale that is active already, with everything loaded anew, leaves its group
without stores. -/
theorem forced_reset_finds_files_open :
    let dir := "/d".toList
    let d : Disk := { files := [(dir, .directory)] }
    let r : ResetRequest := { primary := ⟨"en".toList⟩ }
    let e := (start (.directory dir .nfc) {} d).after [.reset r, .work]
    r.Hosted dir d ∧ e.queue.queued = [] ∧
      (e.groups.map fun g => g.subs.map (·.origin)) = [[.user, .history]] ∧
      ((e.reset { r with force := true }).groups.map fun g => g.subs.map (·.origin)) = [[]] := by
  decide +kernel

end Engine

end Typeahead
