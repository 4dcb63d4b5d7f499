import Typeahead.Proofs.Engine.Filed

/-! # Removals across changes of locales

A removed word is on the blacklist of its locale at once, and in the file when its turn has come. An
engine `Keeps` the word if all groups of the locale have it on their lists and the file lists it
once all that waits is written: then the last write to it, if there is one, is of a list with the
word (`Lands`). Every action but a new start keeps it so, as long as the word is not typed again,
save for one (`Keeps.perform`): a reset that takes up the locale again, after it was left, reads the
file as it is at the time. So the removal is kept exactly if at each such reset the file lists the
word already (`removal_kept_iff`), as it does if nothing waits (`removal_kept_of_drained`). -/

namespace Typeahead

namespace Engine

/-! ### What a file will hold -/

/-- A file lists a word once the tasks are done: the last list that is written to it has the word,
or, if none is, the file lists it before. -/
def Lands (write : Queued Task → Option Blacklist) (w : Text) (held : Prop)
    (qs : List (Queued Task)) : Prop :=
  qs.foldl (fun held q => (write q).elim held fun b => b.contains w = true) held

section
variable {write write' : Queued Task → Option Blacklist} {w : Text}

theorem lands_append {held : Prop} {qs qs' : List (Queued Task)} :
    Lands write w held (qs ++ qs') ↔ Lands write w (Lands write w held qs) qs' := by
  unfold Lands
  rw [List.foldl_append]

theorem Lands.imp : ∀ {qs : List (Queued Task)} {held held' : Prop}, (held → held') →
    (∀ q ∈ qs, (write q = none → write' q = none) ∧ ∀ b, write q = some b →
      b.contains w = true → ∃ b', write' q = some b' ∧ b'.contains w = true) →
    Lands write w held qs → Lands write' w held' qs
  | [], _, _, hheld, _, h => hheld h
  | q :: qs, held, held', hheld, hqs, h => by
    show Lands write' w ((write' q).elim held' fun b => b.contains w = true) qs
    replace h : Lands write w ((write q).elim held fun b => b.contains w = true) qs := h
    refine h.imp (fun hfirst => ?_) fun q' hq' => hqs q' (List.mem_cons_of_mem q hq')
    obtain ⟨hnone, hsome⟩ := hqs q List.mem_cons_self
    rcases hq : write q with _ | b
    · rw [hq] at hfirst
      rw [hnone hq]
      exact hheld hfirst
    · rw [hq] at hfirst
      obtain ⟨b', hb', hmem⟩ := hsome b hq hfirst
      rw [hb']
      exact hmem

/-- Where all lists that are written have the word, one is enough. -/
theorem lands_of_forall : ∀ {qs : List (Queued Task)} {held : Prop},
    (∀ q ∈ qs, ∀ b, write q = some b → b.contains w = true) →
    (held ∨ ∃ q ∈ qs, (write q).isSome = true) → Lands write w held qs
  | [], _, _, h => h.resolve_right fun ⟨_, hq, _⟩ => absurd hq List.not_mem_nil
  | q :: qs, held, hall, h => by
    show Lands write w ((write q).elim held fun b => b.contains w = true) qs
    refine lands_of_forall (fun q' hq' => hall q' (List.mem_cons_of_mem q hq')) ?_
    rcases hq : write q with _ | b
    · refine h.imp id fun ⟨q', hq', hsome⟩ => ⟨q', ?_, hsome⟩
      rcases List.mem_cons.mp hq' with rfl | hq'
      · rw [hq] at hsome
        exact absurd hsome Bool.false_ne_true
      · exact hq'
    · exact .inl (hall q List.mem_cons_self b hq)

end

/-- The blacklist that a waiting task writes to a path, if it does. -/
def writtenTo? (e : Engine) (path : Text) (q : Queued Task) : Option Blacklist :=
  (q.task.list?.bind e.list?).filter fun b => b.path == some path

/-- Only the locale `l` has its blacklist where `l` has it. -/
def Apart (dir : Text) (d : Disk) (l l' : Locale) : Prop :=
  l' ≠ l → d.locate (Provider.listPath dir l') ≠ d.locate (Provider.listPath dir l)

instance (dir : Text) (d : Disk) (l l' : Locale) : Decidable (Apart dir d l l') :=
  inferInstanceAs (Decidable (_ → _))

/-- **The word is kept** for the locale: all its groups have blacklisted it, and its file lists it
once all is written. -/
structure Keeps (dir : Text) (l : Locale) (w : Text) (e : Engine) : Prop where
  listed : ∀ g ∈ e.groups, g.locale = l → g.isBlacklisted w = true
  lands : Lands (e.writtenTo? (Provider.listPath dir l)) w
    (w ∈ e.disk.listed (Provider.listPath dir l)) e.queue.queued

variable {dir path place : Text} {form : NormalForm} {d : Disk} {l : Locale} {v w : Text}
  {ws : List Text} {K : Locale → Prop} {e e' : Engine} {r : ResetRequest} {q : Queued Task}
  {b : Blacklist} {n : Nat}

theorem writtenTo?_eq_some_iff : e.writtenTo? path q = some b ↔
    ∃ n, q.task.list? = some n ∧ e.list? n = some b ∧ b.path = some path := by
  unfold writtenTo?
  rw [Option.filter_eq_some_iff, Option.bind_eq_some_iff, beq_iff_eq]
  constructor
  · rintro ⟨⟨n, hn, hb⟩, hpath⟩
    exact ⟨n, hn, hb, hpath⟩
  · rintro ⟨n, hn, hb, hpath⟩
    exact ⟨⟨n, hn, hb⟩, hpath⟩

theorem writtenTo?_of_list? (h : q.task.list? = none) : e.writtenTo? path q = none := by
  unfold writtenTo?
  rw [h]
  rfl

theorem writtenTo?_eq (hn : q.task.list? = some n) (hb : e.list? n = some b) :
    e.writtenTo? path q = if b.path = some path then some b else none := by
  unfold writtenTo?
  rw [hn, Option.bind_some, hb, Option.filter_some]
  simp only [beq_iff_eq]

/-- A list at the place of a locale's is that of its group. -/
theorem Filed.locale_of_path (hf : e.Filed dir form d (Apart dir d l)) {g : Group}
    (hg : g ∈ e.groups) (hpath : g.blacklist.path = some (Provider.listPath dir l)) :
    g.locale = l := by
  obtain ⟨hapart, heq, -⟩ := hf.lists g hg _ hpath
  by_contra hne
  refine hapart hne ?_
  rw [heq]

/-- If what waits finds lists that still have the word, the file lists it in the end as before. -/
theorem Lands.carry {qs : List (Queued Task)} {held held' : Prop} (hheld : held → held')
    (hlists : ∀ q ∈ qs, ∀ n, q.task.list? = some n → ∃ b b', e.list? n = some b ∧
      e'.list? n = some b' ∧ b'.path = b.path ∧ (b.contains w = true → b'.contains w = true))
    (h : Lands (e.writtenTo? path) w held qs) : Lands (e'.writtenTo? path) w held' qs := by
  refine h.imp hheld fun q hq => ?_
  rcases hn : q.task.list? with _ | n
  · rw [writtenTo?_of_list? hn, writtenTo?_of_list? hn]
    exact ⟨id, fun b hb => absurd hb (Option.some_ne_none b).symm⟩
  · obtain ⟨b, b', hb, hb', hpath, hkept⟩ := hlists q hq n hn
    rw [writtenTo?_eq hn hb, writtenTo?_eq hn hb', hpath]
    by_cases hp : b.path = some path
    · rw [if_pos hp, if_pos hp]
      refine ⟨fun hnone => absurd hnone (Option.some_ne_none b), fun b₁ hb₁ hmem => ⟨b', rfl, ?_⟩⟩
      obtain rfl := Option.some.inj hb₁
      exact hkept hmem
    · rw [if_neg hp, if_neg hp]
      exact ⟨id, fun b hb => absurd hb (Option.some_ne_none b).symm⟩

/-! ### Actions that keep the groups -/

/-- Its list, changed, is where a waiting write finds it. -/
theorem exists_list?_edits (h : e.Listed) (he : e.Edits ws e') (hw : w ∉ ws)
    (hq : q ∈ e.queue.queued) (hn : q.task.list? = some n) :
    ∃ b b', e.list? n = some b ∧ e'.list? n = some b' ∧ b'.path = b.path ∧
      (b.contains w = true → b'.contains w = true) := by
  have hedited := h.edits he
  obtain ⟨f, hgroups, hf⟩ := he.groups
  obtain ⟨-, b, hb, rfl⟩ := h.named q hq n hn
  rcases List.mem_append.mp hb with hgroup | hkept
  · obtain ⟨g, hg, rfl⟩ := List.mem_map.mp hgroup
    have hmem : (f g).blacklist ∈ e'.lists := by
      refine mem_lists_of_group (g := f g) ?_
      rw [hgroups]
      exact List.mem_map_of_mem hg
    have hfound := hedited.list?_eq hmem
    rw [(hf g).listNumber] at hfound
    exact ⟨g.blacklist, (f g).blacklist, h.list?_eq hb, hfound, (hf g).listPath, (hf g).kept w hw⟩
  · have hmem : b ∈ e'.lists := List.mem_append_right _ (he.keptLists ▸ hkept)
    exact ⟨b, b, h.list?_eq hb, hedited.list?_eq hmem, rfl, id⟩

/-- **What an edit queues** writes lists that have the word, if it writes there at all. -/
theorem contains_of_edits (h : e.Listed) (he : e.Edits ws e')
    (hf : e'.Filed dir form d (Apart dir d l))
    (hlisted : ∀ g ∈ e'.groups, g.locale = l → g.isBlacklisted w = true) {ts : List Task}
    (hts : ∀ t ∈ ts, ∀ n, t.list? = some n → n ∈ e.listNumbers)
    (hq : q ∈ ts.map fun t => (⟨t, none⟩ : Queued Task))
    (hb : e'.writtenTo? (Provider.listPath dir l) q = some b) : b.contains w = true := by
  obtain ⟨t, ht, rfl⟩ := List.mem_map.mp hq
  obtain ⟨n, hn, hfound, hpath⟩ := writtenTo?_eq_some_iff.mp hb
  obtain ⟨g, hg, rfl⟩ := List.mem_map.mp (hts t ht n hn)
  obtain ⟨f, hgroups, hfe⟩ := he.groups
  have hmem : f g ∈ e'.groups := by
    rw [hgroups]
    exact List.mem_map_of_mem hg
  have hsame := (h.edits he).list?_eq (mem_lists_of_group hmem)
  rw [(hfe g).listNumber, hfound] at hsame
  rw [Option.some.inj hsame] at hpath ⊢
  exact hlisted (f g) hmem (hf.locale_of_path hmem hpath)

theorem Keeps.edits (hk : e.Keeps dir l w) (h : e.Listed) (he : e.Edits ws e') (hw : w ∉ ws)
    (hf : e'.Filed dir form d (Apart dir d l)) : e'.Keeps dir l w := by
  obtain ⟨ts, hqueue, hts⟩ := he.queue
  have hlisted : ∀ g ∈ e'.groups, g.locale = l → g.isBlacklisted w = true := by
    obtain ⟨f, hgroups, hfe⟩ := he.groups
    intro k hk' hl
    rw [hgroups] at hk'
    obtain ⟨g, hg, rfl⟩ := List.mem_map.mp hk'
    rw [(hfe g).locale] at hl
    exact (hfe g).kept w hw (hk.listed g hg hl)
  refine ⟨hlisted, ?_⟩
  rw [hqueue, TaskQueue.queued_pushAll, lands_append]
  refine lands_of_forall (fun q hq b hb =>
    contains_of_edits h he hf hlisted (fun t ht => (hts t ht).2) hq hb) (.inl ?_)
  refine hk.lands.carry (fun hheld => ?_) fun q hq n hn => exists_list?_edits h he hw hq hn
  rw [he.disk]
  exact hheld

/-! ### Other groups -/

/-- Where lists that are written stay, and nothing that is queued writes one, the file lists a word
in the end as before. -/
theorem Lands.of_lists (h : e.Listed) (h' : e'.Listed)
    (hmem : ∀ b ∈ e.lists, e.needsList b.number = true → b ∈ e'.lists)
    (hdisk : w ∈ e.disk.listed path → w ∈ e'.disk.listed path)
    (hqueue : ∃ more, e'.queue.queued = e.queue.queued ++ more ∧ ∀ q ∈ more, q.task.list? = none)
    (hl : Lands (e.writtenTo? path) w (w ∈ e.disk.listed path) e.queue.queued) :
    Lands (e'.writtenTo? path) w (w ∈ e'.disk.listed path) e'.queue.queued := by
  obtain ⟨more, hqueue, hmore⟩ := hqueue
  rw [hqueue, lands_append]
  refine lands_of_forall (fun q hq b hb => ?_) (.inl ?_)
  · exact nomatch hb.symm.trans (writtenTo?_of_list? (hmore q hq))
  · refine hl.carry hdisk fun q hq n hn => ?_
    obtain ⟨-, b, hb, rfl⟩ := h.named q hq n hn
    have hstays := hmem b hb (needsList_iff.mpr ⟨q, hq, hn⟩)
    exact ⟨b, b, h.list?_eq hb, h'.list?_eq hstays, rfl, id⟩

section
variable (h : e.Listed) (hf : e.Filed dir form d (Apart dir d l))
  (hhosts : d.HostsAt (Provider.listPath dir l) place)
include h hf hhosts

/-- **A group that takes up a locale** reads the words in the file. -/
theorem isBlacklisted_of_new {k : Group} (hr : r.Hosted dir d) (hk : k ∈ (e.reset r).groups)
    (hl : k.locale = l) (hnone : ∀ g ∈ e.groups, g.locale ≠ l) :
    k.isBlacklisted w = true ↔ w ∈ e.disk.listed (Provider.listPath dir l) := by
  subst hl
  rcases source_of_mem_reset h (Disk.Stored.refl _) (hf.stored_openStore hr) hk with
    ⟨g, hg, hlocale, -⟩ | ⟨-, n, d', -, hstored, hlist⟩
  · exact absurd hlocale (hnone g hg)
  · have hsame := hstored.listed_eq (hhosts.of_written hf.disk) (Provider.listEnding_suffix hhosts)
    rw [← hsame, Group.isBlacklisted, hlist, Building.newList, hf.provider]
    exact List.contains_iff_mem

/-- **A reset keeps a word**, unless it takes up the locale when the file does not list it yet. -/
theorem keeps_reset (hsound : e.Sound) (hk : e.Keeps dir l w) (hr : r.Hosted dir d)
    (hback : l ∈ r.locales →
      (∃ g ∈ e.groups, g.locale = l) ∨ w ∈ e.disk.listed (Provider.listPath dir l)) :
    (e.reset r).Keeps dir l w := by
  refine ⟨fun k hmem hl => ?_, ?_⟩
  · rcases source_of_mem_reset (P := fun _ => True) h trivial (fun _ _ _ _ _ _ _ _ => trivial) hmem
      with ⟨g, hg, hlocale, hlist⟩ | ⟨hnone, -⟩
    · rw [Group.isBlacklisted, hlist]
      exact hk.listed g hg (hlocale.trans hl)
    · rw [hl] at hnone
      refine (isBlacklisted_of_new h hf hhosts hr hmem hl hnone).mpr ?_
      have hlocale : l ∈ r.locales := by
        rw [← locales_reset e r, ← hl]
        exact List.mem_map_of_mem hmem
      exact (hback hlocale).resolve_left fun ⟨g, hg, hgl⟩ => hnone g hg hgl
  · have hsame := (stored_reset hsound h hf hr).listed_eq (hhosts.of_written hf.disk)
      (Provider.listEnding_suffix hhosts)
    exact Lands.of_lists h (listed_reset h r) (fun _ hb => mem_lists_reset h r hb)
      (fun hheld => hsame ▸ hheld) (queued_reset e r) hk.lands

theorem keeps_close (hl : l ≠ .root) (hk : e.Keeps dir l w) : e.close.Keeps dir l w := by
  refine ⟨fun k hmem hkl => ?_, ?_⟩
  · rw [List.mem_singleton.mp hmem] at hkl
    exact absurd hkl.symm hl
  · have hclosed : e.close.Listed := by
      rw [close_eq]
      exact ((listed_closing h).replaceGroups (relists_placeholder h)).of_same rfl rfl rfl
        (Nat.le_refl _) fun _ hq => .inl hq
    have hsame := (stored_close hf).listed_eq (hhosts.of_written hf.disk)
      (Provider.listEnding_suffix hhosts)
    refine Lands.of_lists h hclosed (fun _ hb => mem_lists_close h hb) (fun hheld => hsame ▸ hheld)
      ⟨[], (List.append_nil _).symm, ?_⟩ hk.lands
    exact fun q hq => absurd hq List.not_mem_nil

/-! ### Waiting work -/

omit hf hhosts in
/-- A write cannot be cancelled: a turn does it. -/
theorem disk_of_write (hq : q ∈ e.queue.queued)
    (hgoes : e.queue.isCancelled q = false → e' = e.run q.task) (hn : q.task.list? = some n) :
    ∃ b ∈ e.lists, e.list? n = some b ∧ e'.disk = (b.persist e.disk).2 := by
  obtain ⟨htoken, b, hb, rfl⟩ := h.named q hq n hn
  have hfound := h.list?_eq hb
  have hfree : e.queue.isCancelled q = false := by
    rw [TaskQueue.isCancelled, htoken]
    rfl
  refine ⟨b, hb, hfound, ?_⟩
  rw [hgoes hfree, Task.eq_writeList hn]
  show (e.writeList b.number).disk = _
  rw [writeList, hfound]

omit h in
/-- What is written elsewhere leaves the words in the file. -/
theorem listed_persist_elsewhere (hb : b ∈ e.lists)
    (hpath : b.path ≠ some (Provider.listPath dir l)) :
    (b.persist e.disk).2.listed (Provider.listPath dir l) =
      e.disk.listed (Provider.listPath dir l) := by
  rcases hfile : b.path with _ | path
  · rw [Blacklist.persist, hfile]
  · obtain ⟨l', hapart, rfl, place', hhosts'⟩ := hf.list hb hfile
    refine Disk.listed_persist_of_ne (hhosts.of_written hf.disk) (hhosts'.of_written hf.disk) hfile
      (Provider.listEnding_suffix hhosts') ?_
    rintro rfl
    refine hapart ?_ (hhosts'.locate.trans hhosts.locate.symm)
    rintro rfl
    exact hpath hfile

/-- **A turn** leaves in the file what the task writes to it, if it does. -/
theorem listed_ran (hw : w.IsLine) (hq : q ∈ e.queue.queued) (hran : e.Ran q.task e')
    (hgoes : e.queue.isCancelled q = false → e' = e.run q.task)
    (hheld : (e.writtenTo? (Provider.listPath dir l) q).elim
      (w ∈ e.disk.listed (Provider.listPath dir l)) fun b => b.contains w = true) :
    w ∈ e'.disk.listed (Provider.listPath dir l) := by
  rcases hn : q.task.list? with _ | n
  · rw [writtenTo?_of_list? hn] at hheld
    rw [hran.disk_eq hn]
    exact hheld
  · obtain ⟨b, hb, hfound, hdisk⟩ := disk_of_write h hq hgoes hn
    rw [writtenTo?_eq hn hfound] at hheld
    rw [hdisk]
    split_ifs at hheld with hpath
    · exact Disk.mem_listed_persist (hhosts.of_written hf.disk) hpath
        (Provider.listEnding_suffix hhosts) hw hheld
    · rw [listed_persist_elsewhere hf hhosts hb hpath]
      exact hheld

theorem keeps_runNext (hsound : e.Sound) (hw : w.IsLine) (hk : e.Keeps dir l w) :
    e.runNext.Keeps dir l w := by
  rcases runNext_cases hsound.free with ⟨-, heq⟩ | ⟨q, rest, e', hqueue, hran, hgoes, heq⟩
  · rw [heq]
    exact hk
  · have hq : q ∈ e.queue.queued := by
      rw [hqueue]
      exact List.mem_cons_self
    have hturned : e.runNext.Listed := h.perform hsound.toOrderly .work
    obtain ⟨e₁, hturn, heq⟩ : ∃ e₁ : Engine, e₁ = { e' with
        queue := { e.queue with queued := rest, pending := e.queue.pending - 1 }
        loading := if q.task.isLoad then e.loading - 1 else e.loading } ∧
        e.runNext = e₁.settle := ⟨_, rfl, heq⟩
    have hrest : e₁.queue.queued = rest := by rw [hturn]
    have hdisk : e₁.disk = e'.disk := by rw [hturn]
    have hgroups₁ : e₁.groups = e'.groups := by rw [hturn]
    have hlists : e₁.lists = e.lists := by
      rw [← lists_congr (hran.lists hsound.toNumbered) hran.keptLists_eq, hturn]
      rfl
    have hfiled : e₁.Filed dir form d (Apart dir d l) := by
      have hdone := hf.ran hsound.toConsistent hran
      rw [hturn]
      exact ⟨hdone.provider, hdone.disk, hdone.groups, hdone.kept, hdone.lists, hdone.keptLists⟩
    rw [heq] at hturned ⊢
    refine ⟨fun k hmem hkl => ?_, ?_⟩
    · obtain ⟨f, hgroups, hfe⟩ := hran.groups hsound.toNumbered
      replace hmem : k ∈ e₁.groups := hmem
      rw [hgroups₁, hgroups] at hmem
      obtain ⟨g, hg, rfl⟩ := List.mem_map.mp hmem
      rw [hfe g hg] at hkl ⊢
      exact hk.listed g hg hkl
    · have hlands := hk.lands
      rw [hqueue] at hlands
      show Lands _ w _ e₁.queue.queued
      rw [hrest]
      refine Lands.carry (fun hheld => ?_) (fun q' hq' n hn => ?_) hlands
      · rw [hfiled.stored_settle.listed_eq (hhosts.of_written hfiled.disk)
          (Provider.listEnding_suffix hhosts), hdisk]
        exact listed_ran h hf hhosts hw hq hran hgoes hheld
      · obtain ⟨-, b, hb, rfl⟩ := h.named q' (hqueue ▸ List.mem_cons_of_mem q hq') n hn
        have hneeded : e₁.needsList b.number = true :=
          needsList_iff.mpr ⟨q', hrest ▸ hq', hn⟩
        have hstays := mem_lists_settle (hlists ▸ hb) hneeded
        exact ⟨b, b, h.list?_eq hb, hturned.list?_eq hstays, rfl, id⟩

/-! ### A whole run -/

/-- **What happens** keeps a word, unless it is typed, or a reset takes up its locale when the file
does not list it yet. -/
theorem Keeps.perform {a : Action} (hsound : e.Sound) (hw : w.IsLine) (hl : l ≠ .root)
    (hk : e.Keeps dir l w) (ha : a ≠ .restart) (htyped : w ∉ a.typed)
    (hr : ∀ r, a = .reset r → r.Hosted dir d ∧ ∀ l' ∈ r.locales, Apart dir d l l')
    (hback : ∀ r, a = .reset r → l ∈ r.locales →
      (∃ g ∈ e.groups, g.locale = l) ∨ w ∈ e.disk.listed (Provider.listPath dir l)) :
    (e.perform a).Keeps dir l w := by
  cases a using Action.edit_cases with
  | edit a hedit =>
    exact hk.edits h (edits_perform hsound.toOrderly hedit) htyped (hf.perform hsound h hr)
  | reset r => exact keeps_reset h hf hhosts hsound hk (hr r rfl).1 (hback r rfl)
  | close => exact keeps_close h hf hhosts hl hk
  | restart => exact absurd rfl ha
  | work => exact keeps_runNext h hf hhosts hsound hw hk

end

theorem keeps_run (hsound : e.Sound) (h : e.Listed) (hf : e.Filed dir form d (Apart dir d l))
    (hhosts : d.HostsAt (Provider.listPath dir l) place) (hl : l ≠ .root) (hw : w.IsLine)
    (hk : e.Keeps dir l w) {as : List Action}
    (has : ∀ a ∈ as, a ≠ .restart ∧ w ∉ a.typed)
    (hosted : ∀ r, .reset r ∈ as → r.Hosted dir d ∧ ∀ l' ∈ r.locales, Apart dir d l l')
    (hback : ∀ n r, as[n]? = some (.reset r) → l ∈ r.locales →
      (e.after (as.take n)).Keeps dir l w → (∃ k ∈ (e.after (as.take n)).groups, k.locale = l) ∨
        w ∈ (e.after (as.take n)).disk.listed (Provider.listPath dir l)) (n : Nat) :
    (e.after (as.take n)).Keeps dir l w := by
  induction n with
  | zero => exact hk
  | succ n ih =>
    rcases ha : as[n]? with _ | a
    · rw [List.take_add_one, ha, Option.toList_none, List.append_nil]
      exact ih
    · obtain ⟨hsound', h', hf'⟩ := filed_run hsound h hf fun r hr =>
        hosted r (List.mem_of_mem_take hr)
      have hmem : a ∈ as := List.mem_of_getElem? ha
      obtain ⟨hstays, htyped⟩ := has a hmem
      rw [after_take_succ ha]
      refine ih.perform h' hf' hhosts hsound' hw hl hstays htyped ?_ ?_
      · rintro r rfl
        exact hosted r hmem
      · rintro r rfl hlr
        exact hback n r ha hlr ih

/-! ### Removals -/

/-- The writes that a removal queues. -/
def removalWrites (e : Engine) (v : Text) : List Task :=
  e.groups.flatMap fun g => listWrites g (g.removeWord v)

theorem queued_removeWord (h : e.Numbered) (v : Text) : (e.removeWord v).queue.queued =
    e.queue.queued ++ (e.removalWrites v).map (⟨·, none⟩) := by
  rw [removeWord_eq_map h]
  exact TaskQueue.queued_pushAll _ _

theorem groups_removeWord (h : e.Numbered) (v : Text) :
    (e.removeWord v).groups = e.groups.map (·.removeWord v) := by
  rw [removeWord_eq_map h]

theorem mem_listNumbers_of_removalWrites {t : Task} (ht : t ∈ e.removalWrites v)
    (hn : t.list? = some n) : n ∈ e.listNumbers := by
  obtain ⟨g, hg, ht⟩ := List.mem_flatMap.mp ht
  obtain rfl := (mem_listWrites.mp ht).2.2
  obtain rfl := Option.some.inj hn
  rw [(Group.edits_removeWord [] g v).listNumber]
  exact List.mem_map.mpr ⟨g, hg, rfl⟩

/-- The list of a group that blacklists one more word is written, if it has a file. -/
theorem writeList_mem_removalWrites {g : Group} (hg : g ∈ e.groups)
    (hpath : (g.removeWord v).blacklist.path = some path) (hbefore : g.isBlacklisted w = false)
    (hafter : (g.removeWord v).isBlacklisted w = true) :
    .writeList (g.removeWord v).blacklist.number ∈ e.removalWrites v := by
  refine List.mem_flatMap.mpr ⟨g, hg, mem_listWrites.mpr ⟨fun hsame => ?_, ?_, rfl⟩⟩
  · rw [Group.isBlacklisted, Blacklist.contains, ← hsame] at hafter
    rw [Group.isBlacklisted, Blacklist.contains, hafter] at hbefore
    cases hbefore
  · rw [hpath]
    rfl

/-- **A removal** that puts a word on the list of a locale keeps it there, and its write waits. -/
theorem keeps_removeWord (hsound : e.Sound) (h : e.Listed)
    (hf : e.Filed dir form d (Apart dir d l)) (hl : l ≠ .root) {g : Group} (hg : g ∈ e.groups)
    (hgl : g.locale = l) (hbefore : g.isBlacklisted w = false)
    (hafter : (g.removeWord v).isBlacklisted w = true) : (e.removeWord v).Keeps dir l w := by
  have hedits : e.Edits [] (e.removeWord v) := edits_remove hsound.toOrderly v
  have hfiled : (e.removeWord v).Filed dir form d (Apart dir d l) :=
    hf.perform (a := .remove v) hsound h fun _ hr => Action.noConfusion hr
  have hgroups := groups_removeWord hsound.toNumbered v
  have hpath : (g.removeWord v).blacklist.path = some (Provider.listPath dir l) := by
    have hroot : g.locale ≠ .root := hgl ▸ hl
    rw [(Group.edits_removeWord [] g v).listPath, h.paths g hg hroot, hf.provider, hgl]
    rfl
  -- the group is the only one of its locale
  have hlisted : ∀ k ∈ (e.removeWord v).groups, k.locale = l → k.isBlacklisted w = true := by
    intro k hk hkl
    rw [hgroups] at hk
    obtain ⟨k', hk', rfl⟩ := List.mem_map.mp hk
    rw [(Group.edits_removeWord [] k' v).locale] at hkl
    rw [List.inj_on_of_nodup_map h.locales hk' hg (hkl.trans hgl.symm)]
    exact hafter
  have hfound : (e.removeWord v).list? (g.removeWord v).blacklist.number =
      some (g.removeWord v).blacklist := by
    refine (h.edits hedits).list?_eq (mem_lists_of_group ?_)
    rw [hgroups]
    exact List.mem_map_of_mem hg
  refine ⟨hlisted, ?_⟩
  rw [queued_removeWord hsound.toNumbered, lands_append]
  refine lands_of_forall (fun q hq b hb => contains_of_edits h hedits hfiled hlisted
    (fun t ht n hn => mem_listNumbers_of_removalWrites ht hn) hq hb) (.inr ⟨_,
      List.mem_map_of_mem (writeList_mem_removalWrites hg hpath hbefore hafter), ?_⟩)
  rw [writtenTo?_eq rfl hfound, if_pos hpath]
  rfl

/-- The file of a group's blacklist. -/
theorem exists_hostsAt (h : e.Listed) (hf : e.Filed dir form d K) (hl : l ≠ .root) {g : Group}
    (hg : g ∈ e.groups) (hgl : g.locale = l) :
    ∃ place, d.HostsAt (Provider.listPath dir l) place := by
  have hpath := h.paths g hg (hgl ▸ hl)
  rw [hf.provider] at hpath
  obtain ⟨-, -, place, hhosts⟩ := hf.lists g hg _ hpath
  rw [hgl] at hhosts
  exact ⟨place, hhosts⟩

section
variable (hd : d.Sound) (s : Settings) (as : List Action) {bs : List Action}
  (hosted : ∀ r, .reset r ∈ as ++ bs → r.Hosted dir d ∧ ∀ l' ∈ r.locales, Apart dir d l l')
  (hl : l ≠ .root) {g : Group}
  (hg : g ∈ ((start (.directory dir form) s d).after as).groups) (hgl : g.locale = l)
  (hbefore : g.isBlacklisted w = false) (hafter : (g.removeWord v).isBlacklisted w = true)
include hd hosted hl hg hgl hbefore hafter

/-- The engine just after a removal. -/
theorem keeps_after_removal :
    let e := ((start (.directory dir form) s d).after as).removeWord v
    ∃ place, d.HostsAt (Provider.listPath dir l) place ∧ e.Sound ∧ e.Listed ∧
      e.Filed dir form d (Apart dir d l) ∧ e.Keeps dir l w := by
  intro e
  obtain ⟨hsound, h, hf⟩ : ((start (.directory dir form) s d).after as).Sound ∧
      ((start (.directory dir form) s d).after as).Listed ∧
      ((start (.directory dir form) s d).after as).Filed dir form d (Apart dir d l) :=
    filed_after hd s fun r hr => hosted r (List.mem_append_left bs hr)
  obtain ⟨place, hhosts⟩ := exists_hostsAt h hf hl hg hgl
  exact ⟨place, hhosts, hsound.perform (.remove v), h.perform hsound.toOrderly (.remove v),
    hf.perform (a := .remove v) hsound h fun _ hr => (nomatch hr),
    keeps_removeWord hsound h hf hl hg hgl hbefore hafter⟩

variable (hw : w.IsLine) (hbs : ∀ a ∈ bs, a ≠ .restart ∧ w ∉ a.typed)
include hw hbs

/-- **With the work done in time** a removal is kept: it is enough that nothing waits where a reset
takes up the locale again. -/
theorem removal_kept_of_drained
    (hidle : let e := ((start (.directory dir form) s d).after as).removeWord v
      ∀ n r, bs[n]? = some (.reset r) → l ∈ r.locales →
        (∃ k ∈ (e.after (bs.take n)).groups, k.locale = l) ∨
          (e.after (bs.take n)).queue.queued = []) (n : Nat) :
    ((((start (.directory dir form) s d).after as).removeWord v).after (bs.take n)).Keeps
      dir l w := by
  obtain ⟨place, hhosts, hsound, h, hf, hkept⟩ :=
    keeps_after_removal hd s as hosted hl hg hgl hbefore hafter
  refine keeps_run hsound h hf hhosts hl hw hkept hbs
    (fun r hr => hosted r (List.mem_append_right as hr)) (fun m r hr hlr hkeeps => ?_) n
  refine (hidle m r hr hlr).imp_right fun hempty => ?_
  have hlands := hkeeps.lands
  rw [hempty] at hlands
  exact hlands

end

/-- **A removal is kept** exactly if no reset takes up the locale again, after it was left, when the
file does not list the word yet: whatever else happens, as long as the word is not typed, the groups
of the locale have it on their lists at every moment, and the file lists it when nothing waits. -/
theorem removal_kept_iff (hd : d.Sound) (s : Settings) (as : List Action) {bs : List Action}
    (hosted : ∀ r, .reset r ∈ as ++ bs → r.Hosted dir d ∧ ∀ l' ∈ r.locales, Apart dir d l l')
    (hl : l ≠ .root) (hw : w.IsLine) (hbs : ∀ a ∈ bs, a ≠ .restart ∧ w ∉ a.typed) {g : Group}
    (hg : g ∈ ((start (.directory dir form) s d).after as).groups) (hgl : g.locale = l)
    (hbefore : g.isBlacklisted w = false) (hafter : (g.removeWord v).isBlacklisted w = true) :
    let e := ((start (.directory dir form) s d).after as).removeWord v
    (∀ n, (∀ k ∈ (e.after (bs.take n)).groups, k.locale = l → k.isBlacklisted w = true) ∧
      ((e.after (bs.take n)).queue.queued = [] →
        w ∈ (e.after (bs.take n)).disk.listed (Provider.listPath dir l))) ↔
      ∀ n r, bs[n]? = some (.reset r) → l ∈ r.locales →
        (∃ k ∈ (e.after (bs.take n)).groups, k.locale = l) ∨
          w ∈ (e.after (bs.take n)).disk.listed (Provider.listPath dir l) := by
  intro e
  obtain ⟨place, hhosts, hsound, h, hf, hkept⟩ :=
    keeps_after_removal hd s as hosted hl hg hgl hbefore hafter
  have hhosted (r : ResetRequest) (hr : .reset r ∈ bs) :=
    hosted r (List.mem_append_right as hr)
  constructor
  · intro hall n r hr hlr
    by_cases hgroup : ∃ k ∈ (e.after (bs.take n)).groups, k.locale = l
    · exact .inl hgroup
    · obtain ⟨-, hlisted, hfiled⟩ := filed_run hsound h hf fun r hr =>
        hhosted r (List.mem_of_mem_take hr)
      have hlocale : l ∈ ((e.after (bs.take n)).reset r).groups.map (·.locale) := by
        rw [locales_reset]
        exact hlr
      obtain ⟨k, hk, hkl⟩ := List.mem_map.mp hlocale
      have hbanned : k.isBlacklisted w = true := by
        refine (hall (n + 1)).1 k ?_ hkl
        rw [after_take_succ hr]
        exact hk
      refine .inr ((isBlacklisted_of_new hlisted hfiled hhosts
        (hhosted r (List.mem_of_getElem? hr)).1 hk hkl ?_).mp hbanned)
      exact fun k' hk' hkl' => hgroup ⟨k', hk', hkl'⟩
  · intro hback n
    have hkeeps := keeps_run hsound h hf hhosts hl hw hkept hbs hhosted
      (fun m r hr hlr _ => hback m r hr hlr) n
    refine ⟨hkeeps.listed, fun hidle => ?_⟩
    have hlands := hkeeps.lands
    rw [hidle] at hlands
    exact hlands

/-- The blacklist is written before another locale is taken up, and read when the first one is
again. -/
theorem removal_kept_iff_written_in_time :
    let dir := "/d".toList
    let d : Disk := { files := [(dir, .directory)] }
    let en : ResetRequest := { primary := ⟨"en".toList⟩, contacts := true }
    let w : Text := "good".toList
    let as : List Action := [.reset en, .add 0 .contacts w 200, .work]
    let bs : List Action := [.work, .reset { primary := ⟨"de".toList⟩ }, .reset en]
    let e := ((start (.directory dir .nfc) {} d).after as).removeWord w
    (d.Sound ∧ w.IsLine ∧ (∀ a ∈ bs, a ≠ .restart ∧ w ∉ a.typed) ∧
      ∀ r, .reset r ∈ as ++ bs → r.Hosted dir d ∧ ∀ l ∈ r.locales, Apart dir d en.primary l) ∧
      (e.queue.queued ≠ [] ∧ (e.after bs).groups.map (·.blacklist.words) = [[w]]) ∧
      ∀ n, (∀ k ∈ (e.after (bs.take n)).groups, k.locale = en.primary →
          k.isBlacklisted w = true) ∧
        ((e.after (bs.take n)).queue.queued = [] →
          w ∈ (e.after (bs.take n)).disk.listed (Provider.listPath dir en.primary)) := by
  intro dir d en w as bs e
  have hd : d.Sound := by
    intro place t ht
    exact nomatch (Prod.ext_iff.mp (List.mem_singleton.mp ht)).2
  have hw : w.IsLine := by decide
  have hbs : ∀ a ∈ bs, a ≠ .restart ∧ w ∉ a.typed := by decide
  have hosted : ∀ r, .reset r ∈ as ++ bs →
      r.Hosted dir d ∧ ∀ l ∈ r.locales, Apart dir d en.primary l := by
    intro r hr
    simp only [as, bs, List.cons_append, List.nil_append, List.mem_cons, List.not_mem_nil,
      or_false, Action.reset.injEq, reduceCtorEq, false_or] at hr
    rcases hr with rfl | rfl | rfl <;> decide +kernel
  obtain ⟨g, hg, hgl, hbefore, hafter⟩ : ∃ g ∈ ((start (.directory dir .nfc) {} d).after as).groups,
      g.locale = en.primary ∧ g.isBlacklisted w = false ∧
        (g.removeWord w).isBlacklisted w = true := by decide +kernel
  refine ⟨⟨hd, hw, hbs, hosted⟩, by decide +kernel, ?_⟩
  refine (removal_kept_iff hd {} as hosted (by decide) hw hbs hg hgl hbefore hafter).mpr ?_
  intro n r hr hlr
  rcases n with _ | _ | _ | n
  · exact nomatch hr
  · obtain rfl := Action.reset.inj (Option.some.inj hr)
    exact absurd hlr (by decide)
  · exact .inr (by decide +kernel)
  · exact nomatch hr

/-- The locale is taken up again while the write still waits: the word is on no list, also when the
write has had its turn, and the next removal takes it out of the file. -/
theorem switching_back_loses_removal :
    let dir := "/d".toList
    let d : Disk := { files := [(dir, .directory)] }
    let en : ResetRequest := { primary := ⟨"en".toList⟩, contacts := true }
    let path := Provider.listPath dir en.primary
    let e := (start (.directory dir .nfc) {} d).after
      [.reset en, .add 0 .contacts "good".toList 200, .work, .remove "good".toList]
    let e' := e.after [.reset { primary := ⟨"de".toList⟩ }, .reset en]
    let e'' := e'.after [.work, .work, .work]
    let f := e''.after [.add 0 .contacts "bad".toList 200, .remove "bad".toList, .work]
    (e.groups.map fun g => (g.locale, g.blacklist.words)) = [(en.primary, ["good".toList])] ∧
      (e'.groups.map fun g => (g.locale, g.blacklist.words)) = [(en.primary, [])] ∧
      (e''.groups.map fun g => (g.locale, g.blacklist.words)) = [(en.primary, [])] ∧
      (e''.queue.queued = [] ∧ e''.disk.listed path = ["good".toList]) ∧
      f.queue.queued = [] ∧ f.disk.listed path = ["bad".toList] := by
  decide +kernel

end Engine

end Typeahead
