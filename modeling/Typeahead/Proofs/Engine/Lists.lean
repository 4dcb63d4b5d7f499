import Typeahead.Proofs.Engine.Edits

/-! # Which blacklist is which

The blacklists of the groups and those kept aside have different numbers, and a write that waits
names one of them and cannot be cancelled (`Listed`). A reset gives a group the blacklist of the old
group of its locale, and a new one, read from disk, if there is none (`source_of_mem_reset`). So a
write that waits finds the same blacklist after the groups were replaced as before
(`mem_lists_replaceGroups`), and all this holds whatever happened (`listed_after`). -/

namespace Typeahead

namespace Engine

variable {e e' : Engine} {ws : List Text} {b : Blacklist} {n : Nat} {gs : List Group}

/-- The blacklists of the groups, and those that are kept aside. -/
def lists (e : Engine) : List Blacklist := e.groups.map (·.blacklist) ++ e.keptLists

/-- **The blacklists fit together**: they have different numbers, the writes that wait are about one
of them each, and each locale with a group has one of its own. -/
structure Listed (e : Engine) : Prop where
  locales : (e.groups.map (·.locale)).Nodup
  distinct : (e.lists.map (·.number)).Nodup
  below : ∀ b ∈ e.lists, b.number < e.nextNumber
  named : ∀ q ∈ e.queue.queued, ∀ n, q.task.list? = some n →
    q.token = none ∧ ∃ b ∈ e.lists, b.number = n
  paths : ∀ g ∈ e.groups, g.locale ≠ .root → g.blacklist.path = e.provider.blacklistPath g.locale

theorem mem_lists_of_group {g : Group} (hg : g ∈ e.groups) : g.blacklist ∈ e.lists :=
  List.mem_append_left _ (List.mem_map_of_mem hg)

theorem needsList_iff : e.needsList n = true ↔ ∃ q ∈ e.queue.queued, q.task.list? = some n := by
  unfold needsList TaskQueue.waiting
  rw [List.any_map, List.any_eq_true]
  simp only [Function.comp_apply, beq_iff_eq]

/-- Blacklists are told apart by their numbers. -/
theorem Listed.eq_of_number (h : e.Listed) {b' : Blacklist} (hb : b ∈ e.lists) (hb' : b' ∈ e.lists)
    (hn : b.number = b'.number) : b = b' := List.inj_on_of_nodup_map h.distinct hb hb' hn

theorem Listed.list?_eq (h : e.Listed) (hb : b ∈ e.lists) : e.list? b.number = some b := by
  rcases hfind : e.list? b.number with _ | b'
  · exact absurd (List.find?_eq_none.mp hfind b hb) (by simp)
  · have hb' : b' ∈ e.lists := List.mem_of_find?_eq_some hfind
    have hn : b'.number = b.number := by simpa using List.find?_some hfind
    rw [h.eq_of_number hb' hb hn]

theorem mem_of_list? (h : e.list? n = some b) : b ∈ e.lists ∧ b.number = n :=
  ⟨List.mem_of_find?_eq_some h, by simpa using List.find?_some h⟩

/-! ### Actions that keep the groups -/

theorem numbers_lists_map {f : Group → Group} (hf : ∀ g : Group, g.Edits ws (f g))
    (hgroups : e'.groups = e.groups.map f) (hkept : e'.keptLists = e.keptLists) :
    e'.lists.map (·.number) = e.lists.map (·.number) := by
  have hnumber : ∀ g ∈ e.groups, (f g).blacklist.number = g.blacklist.number :=
    fun g _ => (hf g).listNumber
  rw [lists, lists, hgroups, hkept, List.map_append, List.map_append, List.map_map, List.map_map,
    List.map_map]
  congr 1
  exact List.map_congr_left hnumber

theorem Listed.edits (h : e.Listed) (he : e.Edits ws e') : e'.Listed := by
  obtain ⟨f, hgroups, hf⟩ := he.groups
  obtain ⟨ts, hqueue, hts⟩ := he.queue
  rw [TaskQueue.pushAll_eq] at hqueue
  have hnumbers := numbers_lists_map hf hgroups he.keptLists
  have hnamed (n : Nat) (hn : ∃ b ∈ e.lists, b.number = n) : ∃ b ∈ e'.lists, b.number = n := by
    rw [← List.mem_map, hnumbers, List.mem_map]
    exact hn
  refine ⟨?_, hnumbers ▸ h.distinct, fun b hb => ?_, fun q hq n hn => ?_, fun k hk hl => ?_⟩
  · have hlocales : e'.groups.map (·.locale) = e.groups.map (·.locale) := by
      rw [hgroups, List.map_map]
      exact List.map_congr_left fun g _ => (hf g).locale
    rw [hlocales]
    exact h.locales
  · have hmem : b.number ∈ e.lists.map (·.number) := hnumbers ▸ List.mem_map_of_mem hb
    obtain ⟨b', hb', heq⟩ := List.mem_map.mp hmem
    rw [← heq, he.nextNumber]
    exact h.below b' hb'
  · rw [hqueue] at hq
    rcases List.mem_append.mp hq with hq | hq
    · obtain ⟨htoken, hlist⟩ := h.named q hq n hn
      exact ⟨htoken, hnamed n hlist⟩
    · obtain ⟨t, ht, rfl⟩ := List.mem_map.mp hq
      obtain ⟨g, hg, heq⟩ := List.mem_map.mp ((hts t ht).2 n hn)
      exact ⟨rfl, hnamed n ⟨g.blacklist, mem_lists_of_group hg, heq⟩⟩
  · rw [hgroups] at hk
    obtain ⟨g, hg, rfl⟩ := List.mem_map.mp hk
    rw [(hf g).locale] at hl ⊢
    rw [(hf g).listPath, he.provider]
    exact h.paths g hg hl

/-! ### Other groups -/

/-- Groups that may take the place of an engine's: their blacklists are those of its groups, or have
greater numbers than all that it has. -/
structure Relists (e : Engine) (gs : List Group) : Prop where
  locales : (gs.map (·.locale)).Nodup
  distinct : (gs.map (·.blacklist.number)).Nodup
  below : ∀ k ∈ gs, k.blacklist.number < e.nextNumber
  known : ∀ k ∈ gs, k.blacklist ∈ e.groups.map (·.blacklist) ∨
    ∀ b ∈ e.lists, b.number < k.blacklist.number
  paths : ∀ k ∈ gs, k.locale ≠ .root → k.blacklist.path = e.provider.blacklistPath k.locale

theorem lists_replaceGroups (e : Engine) (gs : List Group) : (e.replaceGroups gs).lists =
    gs.map (·.blacklist) ++ (e.keptLists ++ (e.groups.map (·.blacklist)).filter fun b =>
      !gs.any fun g => g.blacklist.number == b.number).filter fun b => e.needsList b.number := rfl

/-- **A write that waits** finds its blacklist after the groups were replaced. -/
theorem mem_lists_replaceGroups (h : e.Listed) (hgs : e.Relists gs) (hb : b ∈ e.lists)
    (hneeded : e.needsList b.number = true) : b ∈ (e.replaceGroups gs).lists := by
  rw [lists_replaceGroups]
  by_cases hheld : (gs.any fun g => g.blacklist.number == b.number) = true
  · obtain ⟨k, hk, hn⟩ := List.any_eq_true.mp hheld
    have hnumber : k.blacklist.number = b.number := beq_iff_eq.mp hn
    refine List.mem_append_left _ (List.mem_map.mpr ⟨k, hk, ?_⟩)
    rcases hgs.known k hk with hold | hnew
    · exact h.eq_of_number (List.mem_append_left _ hold) hb hnumber
    · exact absurd hnumber.symm (Nat.ne_of_lt (hnew b hb))
  · refine List.mem_append_right _ (List.mem_filter.mpr ⟨?_, hneeded⟩)
    rcases List.mem_append.mp hb with hgroup | hkept
    · refine List.mem_append_right _ (List.mem_filter.mpr ⟨hgroup, ?_⟩)
      simpa using hheld
    · exact List.mem_append_left _ hkept

/-- A blacklist that is kept aside was there before, and no group has its number. -/
theorem of_mem_kept (h : e.Listed)
    (hb : b ∈ e.keptLists ++ (e.groups.map (·.blacklist)).filter fun b =>
      !gs.any fun g => g.blacklist.number == b.number) (hgs : e.Relists gs) :
    b ∈ e.lists ∧ ∀ k ∈ gs, k.blacklist.number ≠ b.number := by
  rcases List.mem_append.mp hb with hkept | hgroup
  · refine ⟨List.mem_append_right _ hkept, fun k hk hn => ?_⟩
    rcases hgs.known k hk with hold | hnew
    · have hdisjoint := h.distinct
      rw [lists, List.map_append] at hdisjoint
      exact List.disjoint_of_nodup_append hdisjoint (List.mem_map_of_mem hold)
        (hn ▸ List.mem_map_of_mem hkept)
    · exact absurd hn.symm (Nat.ne_of_lt (hnew b (List.mem_append_right _ hkept)))
  · obtain ⟨hmem, hfree⟩ := List.mem_filter.mp hgroup
    refine ⟨List.mem_append_left _ hmem, fun k hk hn => ?_⟩
    rw [Bool.not_eq_true', List.any_eq_false] at hfree
    exact hfree k hk (beq_iff_eq.mpr hn)

theorem Listed.replaceGroups (h : e.Listed) (hgs : e.Relists gs) :
    (e.replaceGroups gs).Listed := by
  refine ⟨hgs.locales, ?_, fun b hb => ?_, fun q hq n hn => ?_, hgs.paths⟩
  · rw [lists_replaceGroups, List.map_append, List.map_map]
    refine List.Nodup.append hgs.distinct ?_ fun n hn hn' => ?_
    · have hperm : ((e.keptLists ++ e.groups.map (·.blacklist)).map (·.number)).Nodup :=
        (List.perm_append_comm.map _).nodup_iff.mp h.distinct
      exact hperm.sublist ((List.filter_sublist.trans
        ((List.Sublist.refl _).append List.filter_sublist)).map _)
    · obtain ⟨k, hk, rfl⟩ := List.mem_map.mp hn
      obtain ⟨b, hb, heq⟩ := List.mem_map.mp hn'
      exact (of_mem_kept h (List.mem_filter.mp hb).1 hgs).2 k hk heq.symm
  · rw [lists_replaceGroups] at hb
    rcases List.mem_append.mp hb with hnew | hold
    · obtain ⟨k, hk, rfl⟩ := List.mem_map.mp hnew
      exact hgs.below k hk
    · exact h.below b (of_mem_kept h (List.mem_filter.mp hold).1 hgs).1
  · obtain ⟨htoken, b, hb, rfl⟩ := h.named q hq n hn
    exact ⟨htoken, b, mem_lists_replaceGroups h hgs hb (needsList_iff.mpr ⟨q, hq, hn⟩), rfl⟩

/-! ### Resets -/

namespace Building

/-- A group has the blacklist of the engine's group of its locale, or a new one if there is none;
`P` holds of the disk that a new one was read from. -/
def Source (P : Disk → Prop) (e : Engine) (k : Group) : Prop :=
  (∃ g ∈ e.groups, g.locale = k.locale ∧ k.blacklist = g.blacklist) ∨
    (∀ g ∈ e.groups, g.locale ≠ k.locale) ∧
      ∃ n d, e.nextNumber ≤ n ∧ P d ∧ k.blacklist = newList e.provider k.locale n d

/-- The groups that are built next to an engine have its blacklists or new ones, each its own. -/
structure Listing (P : Disk → Prop) (e : Engine) (b : Building) : Prop where
  opened : Opened e b.engine
  disk : P b.engine.disk
  source : ∀ k ∈ b.groups, Source P e k
  distinct : (b.groups.map (·.blacklist.number)).Nodup
  below : ∀ k ∈ b.groups, k.blacklist.number < b.engine.nextNumber

variable {P : Disk → Prop} {r : ResetRequest} {b : Building} {l : Locale}

/-- The blacklist of an old group is that of no group so far, unless the locale is the same. -/
theorem Listing.number_ne (h : Listing P e b) (he : e.Listed) {g k : Group} (hg : g ∈ e.groups)
    (hk : k ∈ b.groups) (hl : g.locale ≠ k.locale) :
    k.blacklist.number ≠ g.blacklist.number := by
  have hold : (e.groups.map (·.blacklist.number)).Nodup := by
    have hdistinct := he.distinct
    rw [lists, List.map_append, List.map_map] at hdistinct
    exact hdistinct.of_append_left
  intro hsame
  rcases h.source k hk with ⟨g', hg', hgl', hlist⟩ | ⟨-, n, d, hn, -, hlist⟩
  · rw [hlist] at hsame
    rw [List.inj_on_of_nodup_map hold hg' hg hsame] at hgl'
    exact hl hgl'
  · have hbelow := he.below g.blacklist (mem_lists_of_group hg)
    rw [hlist, number_newList] at hsame
    omega

theorem Listing.append (h : Listing P e b) {b' : Building} {k : Group}
    (hgroups : b'.groups = b.groups ++ [k]) (hopened : Opened b.engine b'.engine)
    (hdisk : P b'.engine.disk) (hsource : Source P e k)
    (hnew : ∀ k' ∈ b.groups, k'.blacklist.number ≠ k.blacklist.number)
    (hbelow : k.blacklist.number < b'.engine.nextNumber) : Listing P e b' := by
  refine ⟨h.opened.trans hopened, hdisk, fun k' hk' => ?_, ?_, fun k' hk' => ?_⟩
  · rw [hgroups] at hk'
    rcases List.mem_append.mp hk' with hk' | hk'
    · exact h.source k' hk'
    · exact List.mem_singleton.mp hk' ▸ hsource
  · rw [hgroups, List.map_append, List.map_singleton, List.nodup_append]
    refine ⟨h.distinct, List.nodup_singleton _, fun n hn m hm => ?_⟩
    obtain ⟨k', hk', rfl⟩ := List.mem_map.mp hn
    rw [List.mem_singleton.mp hm]
    exact hnew k' hk'
  · rw [hgroups] at hk'
    rcases List.mem_append.mp hk' with hk' | hk'
    · exact Nat.lt_of_lt_of_le (h.below k' hk') hopened.le
    · exact List.mem_singleton.mp hk' ▸ hbelow

/-- **One more group** has a blacklist of its own. -/
theorem Listing.addGroup (h : Listing P e b) (he : e.Listed) (hl : l ∉ b.groups.map (·.locale))
    (hopen : ∀ o ∈ r.origins, ∀ d inUse n,
      P d → P (e.provider.openStore d inUse n o l r.account).2) :
    Listing P e (addGroup r b l) := by
  have hdisk : P (withSubs r b l).engine.disk :=
    disk_foldl_addSub (b := { b with subs := [] }) r.origins hopen h.opened.provider h.disk
  have hopened := opened_addGroup r b l
  have hbefore := opened_withSubs r b l
  have hsubs : Opened e (withSubs r b l).engine := h.opened.trans hbefore
  rw [addGroup_eq] at hopened ⊢
  rcases listFor_cases (withSubs r b l).engine l with ⟨g, hg, hgl, heq⟩ | ⟨hnone, heq⟩
  · rw [heq] at hopened ⊢
    rw [hsubs.groups] at hg
    refine h.append rfl hopened hdisk (.inl ⟨g, hg, hgl, rfl⟩) (fun k hk => ?_) ?_
    · exact h.number_ne (g := g) he hg hk fun hsame =>
        hl (List.mem_map.mpr ⟨k, hk, hsame.symm.trans hgl⟩)
    · exact Nat.lt_succ_of_lt
        (Nat.lt_of_lt_of_le (he.below g.blacklist (mem_lists_of_group hg)) hsubs.le)
  · rw [heq] at hopened ⊢
    refine h.append rfl hopened hdisk
      (.inr ⟨hsubs.groups ▸ hnone, _, _, hsubs.le, hdisk, by rw [← hsubs.provider]⟩) (fun k hk => ?_) ?_
    · have hbelow := h.below k hk
      have hle := hbefore.le
      rw [number_newList]
      omega
    · rw [number_newList]
      dsimp only
      omega

theorem Listing.foldl (he : e.Listed) (ls : List Locale) : ∀ {b : Building}, Listing P e b →
    (b.groups.map (·.locale) ++ ls).Nodup →
    (∀ l ∈ ls, ∀ o ∈ r.origins, ∀ d inUse n,
      P d → P (e.provider.openStore d inUse n o l r.account).2) →
    Listing P e (ls.foldl (Building.addGroup r) b) := by
  induction ls with
  | nil => exact fun h _ _ => h
  | cons l ls ih =>
    intro b h hnodup hopen
    have hl : l ∉ b.groups.map (·.locale) := fun hmem =>
      List.disjoint_of_nodup_append hnodup hmem List.mem_cons_self
    refine ih (h.addGroup he hl (hopen l List.mem_cons_self)) ?_ fun l' hl' =>
      hopen l' (List.mem_cons_of_mem l hl')
    rw [locales_addGroup, List.append_assoc, List.singleton_append]
    exact hnodup

end Building

theorem lists_congr (hgroups : e'.groups.map (fun g => (g.locale, g.blacklist)) =
      e.groups.map fun g => (g.locale, g.blacklist))
    (hkept : e'.keptLists = e.keptLists) : e'.lists = e.lists := by
  have hsame := congrArg (List.map Prod.snd) hgroups
  rw [List.map_map, List.map_map] at hsame
  rw [lists, lists, hkept]
  exact congrArg (· ++ e.keptLists) hsame

/-- An engine with the same blacklists, where no more writes wait. -/
theorem Listed.of_same (h : e.Listed) (hgroups : e'.groups.map (fun g => (g.locale, g.blacklist)) =
      e.groups.map fun g => (g.locale, g.blacklist))
    (hkept : e'.keptLists = e.keptLists) (hprovider : e'.provider = e.provider)
    (hnext : e.nextNumber ≤ e'.nextNumber)
    (hqueue : ∀ q ∈ e'.queue.queued, q ∈ e.queue.queued ∨ q.task.list? = none) : e'.Listed := by
  have hlists := lists_congr hgroups hkept
  have hlocales := congrArg (List.map Prod.fst) hgroups
  rw [List.map_map, List.map_map] at hlocales
  refine ⟨hlocales ▸ h.locales, hlists ▸ h.distinct, fun b hb => ?_, fun q hq n hn => ?_, fun k hk hl => ?_⟩
  · exact Nat.lt_of_lt_of_le (h.below b (hlists ▸ hb)) hnext
  · rcases hqueue q hq with hold | hnone
    · exact hlists ▸ h.named q hold n hn
    · exact nomatch hnone.symm.trans hn
  · have hmem : (k.locale, k.blacklist) ∈ e.groups.map fun g => (g.locale, g.blacklist) :=
      hgroups ▸ List.mem_map_of_mem hk
    obtain ⟨g, hg, heq⟩ := List.mem_map.mp hmem
    obtain ⟨hlocale, hlist⟩ := Prod.ext_iff.mp heq
    dsimp only at hlocale hlist
    rw [← hlocale] at hl ⊢
    rw [← hlist, hprovider]
    exact h.paths g hg hl

theorem Listed.of_opened (h : e.Listed) (ho : Opened e e') : e'.Listed := by
  refine h.of_same ?_ ho.keptLists ho.provider ho.le fun q hq => .inl (ho.queue ▸ hq)
  rw [ho.groups]

theorem listed_cancelWaiting (h : e.Listed) :
    ({ e with queue := e.queue.cancelWaiting } : Engine).Listed :=
  h.of_same rfl rfl rfl (Nat.le_refl _) fun _ hq => .inl hq

theorem listing_built {P : Disk → Prop} {r : ResetRequest} (h : e.Listed) (hdisk : P e.disk)
    (hopen : ∀ l ∈ r.locales, ∀ o ∈ r.origins, ∀ d inUse n,
      P d → P (e.provider.openStore d inUse n o l r.account).2) :
    Building.Listing P { e with queue := e.queue.cancelWaiting } (e.built r) := by
  have hstart : Building.Listing P { e with queue := e.queue.cancelWaiting }
      { engine := { e with queue := e.queue.cancelWaiting } } :=
    ⟨Opened.refl _, hdisk, by simp, List.nodup_nil, by simp⟩
  exact Building.Listing.foldl (listed_cancelWaiting h) r.locales hstart
    (by simpa using r.nodup_locales) hopen

theorem groups_reset (e : Engine) (r : ResetRequest) : (e.reset r).groups = (e.built r).groups := by
  rw [reset_eq]
  rfl

theorem locales_reset (e : Engine) (r : ResetRequest) :
    (e.reset r).groups.map (·.locale) = r.locales := by
  rw [groups_reset, built, Building.locales_foldl, List.map_nil, List.nil_append]

/-- **The blacklist of a group after a reset** is that of the old group of its locale, or a new one
if there was none. -/
theorem source_of_mem_reset {P : Disk → Prop} {r : ResetRequest} {k : Group} (h : e.Listed)
    (hdisk : P e.disk) (hopen : ∀ l ∈ r.locales, ∀ o ∈ r.origins, ∀ d inUse n,
      P d → P (e.provider.openStore d inUse n o l r.account).2)
    (hk : k ∈ (e.reset r).groups) : Building.Source P e k := by
  rw [groups_reset] at hk
  exact (listing_built h hdisk hopen).source k hk

/-- The groups that a reset builds may take the place of the old ones. -/
theorem relists_built (h : e.Listed) (r : ResetRequest) :
    (e.built r).engine.Relists (e.built r).groups := by
  have hlisting := listing_built (P := fun _ => True) (r := r) h trivial
    fun _ _ _ _ _ _ _ _ => trivial
  have hrest := hlisting.opened.rest
  refine ⟨?_, hlisting.distinct, hlisting.below, fun k hk => ?_, fun k hk hl => ?_⟩
  · rw [← groups_reset, locales_reset]
    exact r.nodup_locales
  · have hgroups : (e.built r).engine.groups = e.groups := by rw [hrest]
    have hlists : (e.built r).engine.lists = e.lists := by rw [hrest]; rfl
    rcases hlisting.source k hk with ⟨g, hg, -, heq⟩ | ⟨-, n, d, hn, -, heq⟩
    · rw [hgroups, heq]
      exact .inl (List.mem_map_of_mem hg)
    · rw [hlists, heq, Building.number_newList]
      exact .inr fun b hb => Nat.lt_of_lt_of_le (h.below b hb) hn
  · have hprovider : (e.built r).engine.provider = e.provider := by rw [hrest]
    rw [hprovider]
    rcases hlisting.source k hk with ⟨g, hg, hlocale, heq⟩ | ⟨-, n, d, -, -, heq⟩
    · rw [heq, ← hlocale]
      exact h.paths g hg (hlocale ▸ hl)
    · rw [heq, Building.path_newList]

theorem listed_built (h : e.Listed) (r : ResetRequest) : (e.built r).engine.Listed :=
  (listed_cancelWaiting h).of_opened (opened_built e r)

/-- **A write that waits** finds its blacklist after a reset. -/
theorem mem_lists_reset (h : e.Listed) (r : ResetRequest) (hb : b ∈ e.lists)
    (hneeded : e.needsList b.number = true) : b ∈ (e.reset r).lists := by
  have hrest := (opened_built e r).rest
  have hlists : (e.built r).engine.lists = e.lists := by rw [hrest]; rfl
  have hqueue : (e.built r).engine.queue.queued = e.queue.queued := by rw [hrest]; rfl
  have hwaits : (e.built r).engine.needsList b.number = true := by
    rw [needsList_iff, hqueue, ← needsList_iff]
    exact hneeded
  have hmem := mem_lists_replaceGroups (listed_built h r) (relists_built h r) (hlists ▸ hb) hwaits
  rw [reset_eq]
  exact hmem

theorem queued_reset (e : Engine) (r : ResetRequest) : ∃ loads : List (Queued Task),
    (e.reset r).queue.queued = e.queue.queued ++ loads ∧ ∀ q ∈ loads, q.task.list? = none := by
  have hqueue : (e.built r).engine.queue.queued = e.queue.queued := by
    rw [(opened_built e r).queue]
    rfl
  refine ⟨loadsFor (e.built r).engine.queue.token (e.built r).groups, ?_, fun q hq => ?_⟩
  · rw [reset_eq, ← hqueue]
    rfl
  · obtain ⟨g, -, -, rfl⟩ := mem_loadsFor.mp hq
    rfl

theorem listed_reset (h : e.Listed) (r : ResetRequest) : (e.reset r).Listed := by
  have hreplaced := (listed_built h r).replaceGroups (relists_built h r)
  rw [reset_eq]
  refine hreplaced.of_same rfl rfl rfl (Nat.le_refl _) fun q hq => ?_
  rcases List.mem_append.mp hq with hold | hload
  · exact .inl hold
  · obtain ⟨g, -, -, rfl⟩ := mem_loadsFor.mp hload
    exact .inr rfl

/-! ### Every action -/

/-- The engine just before the groups are closed. -/
def closing (e : Engine) : Engine := { e with nextNumber := e.nextNumber + 1 + 1 }

theorem close_eq (e : Engine) : e.close =
    (e.closing.replaceGroups [.placeholder e.nextNumber (e.nextNumber + 1)]).clearPredictions := rfl

theorem relists_placeholder (h : e.Listed) :
    e.closing.Relists [.placeholder e.nextNumber (e.nextNumber + 1)] := by
  refine ⟨List.nodup_singleton _, List.nodup_singleton _, fun k hk => ?_,
    fun k hk => .inr fun b hb => ?_, fun k hk hl => absurd ?_ hl⟩
  · rw [List.mem_singleton.mp hk]
    exact Nat.lt_succ_self _
  · rw [List.mem_singleton.mp hk]
    exact Nat.lt_succ_of_lt (h.below b hb)
  · rw [List.mem_singleton.mp hk]
    rfl

theorem listed_closing (h : e.Listed) : e.closing.Listed :=
  h.of_same rfl rfl rfl (Nat.le_add_right _ 2) fun _ hq => .inl hq

theorem listed_start (p : Provider) (s : Settings) (d : Disk) : (start p s d).Listed := by
  refine ⟨List.nodup_singleton _, List.nodup_singleton _, fun b hb => ?_,
    fun q hq => absurd hq List.not_mem_nil, fun g hg hl => absurd ?_ hl⟩
  · obtain rfl : b = (Group.placeholder 0 1).blacklist := List.mem_singleton.mp hb
    exact Nat.lt_succ_self 1
  · rw [List.mem_singleton.mp hg]
    rfl

theorem mem_lists_close (h : e.Listed) (hb : b ∈ e.lists)
    (hneeded : e.needsList b.number = true) : b ∈ e.close.lists := by
  rw [close_eq]
  exact mem_lists_replaceGroups (listed_closing h) (relists_placeholder h) hb hneeded

/-- **Closing what nobody waits for** leaves the blacklists that a write waits for. -/
theorem mem_lists_settle (hb : b ∈ e.lists) (hneeded : e.needsList b.number = true) :
    b ∈ e.settle.lists := by
  rcases List.mem_append.mp hb with hgroup | hkept
  · exact List.mem_append_left _ hgroup
  · exact List.mem_append_right _ (List.mem_filter.mpr ⟨hkept, hneeded⟩)

theorem Listed.settle (h : e.Listed) : e.settle.Listed := by
  have hsublist : e.settle.lists.Sublist e.lists :=
    (List.Sublist.refl _).append List.filter_sublist
  refine ⟨h.locales, h.distinct.sublist (hsublist.map _), fun b hb => h.below b (hsublist.subset hb),
    fun q hq n hn => ?_, h.paths⟩
  obtain ⟨htoken, b, hb, rfl⟩ := h.named q hq n hn
  exact ⟨htoken, b, mem_lists_settle hb (needsList_iff.mpr ⟨q, hq, hn⟩), rfl⟩

theorem Ran.lists {t : Task} (hran : e.Ran t e') (he : e.Numbered) :
    e'.groups.map (fun g => (g.locale, g.blacklist)) =
      e.groups.map fun g => (g.locale, g.blacklist) := by
  obtain ⟨f, hgroups, hf⟩ := hran.groups he
  rw [hgroups, List.map_map]
  refine List.map_congr_left fun g hg => ?_
  rw [Function.comp_apply, hf g hg]

theorem Ran.keptLists_eq {t : Task} (hran : e.Ran t e') : e'.keptLists = e.keptLists := by
  cases hran <;> rfl

theorem Listed.perform (h : e.Listed) (ho : e.Orderly) (a : Action) : (e.perform a).Listed := by
  cases a using Action.edit_cases with
  | edit a ha => exact h.edits (edits_perform ho ha)
  | reset r => exact listed_reset h r
  | close =>
    show e.close.Listed
    rw [close_eq]
    exact ((listed_closing h).replaceGroups (relists_placeholder h)).of_same rfl rfl rfl
      (Nat.le_refl _) fun _ hq => .inl hq
  | restart =>
    exact (listed_start e.provider e.settings e.shutDown).of_same rfl rfl rfl (Nat.le_refl _)
      fun _ hq => .inl hq
  | work =>
    show e.runNext.Listed
    rcases runNext_cases ho.free with ⟨-, heq⟩ | ⟨q, rest, e', hqueue, hran, -, heq⟩
    · rw [heq]
      exact h
    · rw [heq]
      refine Listed.settle (h.of_same (hran.lists ho.toNumbered) hran.keptLists_eq
        hran.provider_eq (Nat.le_of_eq hran.sameQueue.nextNumber.symm) fun p hp => .inl ?_)
      rw [hqueue]
      exact List.mem_cons_of_mem q hp

/-- **Whatever happened**, the blacklists fit together. -/
theorem listed_after (p : Provider) (s : Settings) (d : Disk) (as : List Action) :
    ((start p s d).after as).Listed := by
  induction as using List.reverseRecOn with
  | nil => exact listed_start p s d
  | append_singleton as a ih =>
    rw [after, List.foldl_concat, ← after]
    exact ih.perform (orderly_after p s d as) a

end Engine

end Typeahead
