import Mathlib.Data.List.Nodup
import Typeahead.Engine.Action
import Typeahead.Proofs.Blacklist

/-! # The groups of an engine

The groups of an engine have different numbers, and all of them are below the next one to be given
(`Engine.Numbered`). So a group that takes the place of its number replaces itself and no other one,
and what is done to the groups one after another is done to each as it was before:

* `removeWord_eq_map`: a removed word is removed from every group.
* `commits_commit`: a committed text changes confidences, takes words of its own off blacklists, and
  queues tasks that are about such words (`Commits`). -/

namespace Typeahead

namespace TaskQueue

variable {α : Type}

/-- The queue with more tasks that always run. -/
def pushAll (q : TaskQueue α) (ts : List α) : TaskQueue α := ts.foldl push q

theorem pushAll_append (q : TaskQueue α) (ts us : List α) :
    q.pushAll (ts ++ us) = (q.pushAll ts).pushAll us := List.foldl_append

theorem pushAll_eq (ts : List α) : ∀ q : TaskQueue α, q.pushAll ts =
    { q with queued := q.queued ++ ts.map (⟨·, none⟩), pending := q.pending + ts.length } := by
  induction ts with
  | nil => exact fun q => by rw [List.map_nil, List.append_nil]; rfl
  | cons t ts ih =>
    intro q
    rw [pushAll, List.foldl_cons, ← pushAll, ih, List.map_cons, List.append_cons, List.length_cons,
      Nat.add_comm ts.length, ← Nat.add_assoc]
    rfl

theorem queued_pushAll (q : TaskQueue α) (ts : List α) :
    (q.pushAll ts).queued = q.queued ++ ts.map (⟨·, none⟩) := by rw [pushAll_eq]

theorem queued_subset_pushAll (q : TaskQueue α) (ts : List α) :
    q.queued ⊆ (q.pushAll ts).queued := by
  rw [queued_pushAll]
  exact List.subset_append_left _ _

end TaskQueue

/-- Items that are changed without an effect on `p`. -/
theorem any_map_of_forall {α : Type} {l : List α} {f : α → α} {p : α → Bool}
    (h : ∀ a ∈ l, p (f a) = p a) : (l.map f).any p = l.any p := by
  rw [List.any_map, Bool.eq_iff_iff, List.any_eq_true, List.any_eq_true]
  refine exists_congr fun a => and_congr_right fun ha => ?_
  rw [Function.comp_apply, h a ha]

/-- **A removal** makes stores forget the word, and puts the word or its lower-case form on the
blacklist; what both keep, it keeps. -/
theorem Group.removeWord_induction {P : Group → Prop} {g : Group} {w : Text} (h : P g)
    (hforget : ∀ k os, P k → P (k.forgetIn os w))
    (hban : ∀ k v, v = w ∨ v = Text.lower w → P k → P (k.blacklistWord v)) :
    P (g.removeWord w) := by
  have hfirst := hforget g [.history, .user] h
  unfold removeWord
  dsimp only
  split_ifs
  · exact hban _ w (.inl rfl) (hforget _ [.contacts] hfirst)
  · exact hban _ w (.inl rfl) hfirst
  · exact hban _ (Text.lower w) (.inr rfl) hfirst
  · exact hfirst

namespace Group

theorem isBlacklisted_blacklistWord (g : Group) (w v : Text) :
    (g.blacklistWord w).isBlacklisted v = (v == w || g.isBlacklisted v) := by
  rw [Bool.eq_iff_iff, Bool.or_eq_true, beq_iff_eq]
  show (Blacklist.insertWord w g.blacklist.words).contains v = true ↔
    v = w ∨ g.blacklist.words.contains v = true
  rw [List.contains_iff_mem, List.contains_iff_mem, Blacklist.mem_insertWord]

end Group

namespace Engine

variable {e e' : Engine} {w : Text}

/-! ### Putting groups -/

/-- A group put into a list of groups with different numbers takes one place. -/
theorem map_put {done rest : List Group} {g k : Group}
    (h : ((done ++ g :: rest).map (·.number)).Nodup) (hk : k.number = g.number) :
    (done ++ g :: rest).map (fun h => if h.number = k.number then k else h) =
      done ++ k :: rest := by
  rw [List.map_append, List.map_cons, List.nodup_middle, List.nodup_cons, List.mem_append,
    not_or] at h
  have hother (l : List Group) (hl : g.number ∉ l.map (·.number)) :
      l.map (fun h => if h.number = k.number then k else h) = l := by
    have hne : ∀ x ∈ l, (if x.number = k.number then k else x) = x := by
      intro x hx
      have hxk : x.number ≠ k.number := fun he => hl (hk ▸ he ▸ List.mem_map_of_mem hx)
      rw [if_neg hxk]
    exact (List.map_congr_left hne).trans (List.map_id' l)
  rw [List.map_append, List.map_cons, hother done h.1.1, hother rest h.1.2, if_pos hk.symm]

/-- The task of writing the blacklist of a group's new version, if it has changed and has a file. -/
def listWrites (g g' : Group) : List Task :=
  if g.blacklist.words != g'.blacklist.words && g'.blacklist.path.isSome then
    [.writeList g'.blacklist.number]
  else []

theorem mem_listWrites {g g' : Group} {t : Task} : t ∈ listWrites g g' ↔
    g.blacklist.words ≠ g'.blacklist.words ∧ g'.blacklist.path.isSome = true ∧
      t = .writeList g'.blacklist.number := by
  unfold listWrites
  split_ifs with h
  · simp only [Bool.and_eq_true, bne_iff_ne] at h
    rw [List.mem_singleton]
    exact ⟨fun ht => ⟨h.1, h.2, ht⟩, fun ht => ht.2.2⟩
  · simp only [Bool.and_eq_true, bne_iff_ne] at h
    exact ⟨fun ht => absurd ht List.not_mem_nil, fun ht => absurd ⟨ht.1, ht.2.1⟩ h⟩

theorem putListed_eq {g g' : Group} (hg : e.group? g'.number = some g) : e.putListed g' =
    { e.putGroup g' with queue := e.queue.pushAll (listWrites g g') } := by
  unfold putListed listWrites
  rw [hg, Option.any_some]
  dsimp only
  split_ifs <;> rfl

/-- Groups that are changed one after another are each changed as they were before, and blacklists
that change are written. -/
theorem foldl_putListed_eq {p : Group → Prop} [DecidablePred p] {f : Group → Group}
    (hf : ∀ g, (f g).number = g.number) (gs : List Group) : ∀ (e : Engine) (done : List Group),
    e.groups = done ++ gs → (e.groups.map (·.number)).Nodup →
    gs.foldl (fun e g => if p g then e.putListed (f g) else e) e =
      { e with
        groups := done ++ gs.map fun g => if p g then f g else g
        queue := e.queue.pushAll (gs.flatMap fun g => if p g then listWrites g (f g) else []) } := by
  induction gs with
  | nil =>
    intro e done hgroups _
    rw [List.foldl_nil, List.map_nil, ← hgroups]
    rfl
  | cons g gs ih =>
    intro e done hgroups hnodup
    rw [List.foldl_cons]
    rw [hgroups] at hnodup
    by_cases hp : p g
    · have hfirst : e.group? (f g).number = some g := by
        have hdone : done.find? (·.number == (f g).number) = none := by
          rw [List.find?_eq_none]
          intro k hk hn
          rw [List.map_append, List.map_cons, List.nodup_middle, List.nodup_cons] at hnodup
          refine hnodup.1 (List.mem_append_left _ (List.mem_map.mpr ⟨k, hk, ?_⟩))
          rw [← hf g]
          exact beq_iff_eq.mp hn
        rw [group?, hgroups, List.find?_append, hdone, Option.none_or, List.find?_cons, hf g,
          beq_self_eq_true]
      have hput := putListed_eq hfirst
      have hgroups' : (e.putListed (f g)).groups = (done ++ [f g]) ++ gs := by
        rw [hput, List.append_assoc]
        show e.groups.map _ = _
        rw [hgroups, map_put hnodup (hf g)]
        rfl
      have hnodup' : ((e.putListed (f g)).groups.map (·.number)).Nodup := by
        rw [hgroups']
        simpa [hf] using hnodup
      rw [if_pos hp, ih _ _ hgroups' hnodup', hput, List.map_cons, if_pos hp, List.flatMap_cons,
        if_pos hp, TaskQueue.pushAll_append]
      simp only [putGroup, List.append_assoc, List.singleton_append]
    · have hgroups' : e.groups = (done ++ [g]) ++ gs := by
        rw [hgroups, List.append_assoc]
        rfl
      rw [if_neg hp, ih e _ hgroups' (by rw [hgroups]; exact hnodup), List.map_cons, if_neg hp,
        List.flatMap_cons, if_neg hp, List.nil_append, List.append_assoc, List.singleton_append]

/-! ### Numbers -/

/-- The groups have different numbers below the next one. -/
structure Numbered (e : Engine) : Prop where
  distinct : (e.groups.map (·.number)).Nodup
  below : ∀ n ∈ e.groups.map (·.number), n < e.nextNumber

theorem Numbered.of_numbers (h : e.Numbered)
    (hgroups : e'.groups.map (·.number) = e.groups.map (·.number))
    (hnext : e'.nextNumber = e.nextNumber) : e'.Numbered := by
  refine ⟨?_, ?_⟩
  · rw [hgroups]
    exact h.distinct
  · rw [hgroups, hnext]
    exact h.below

theorem group?_of_mem (h : e.Numbered) {g : Group} (hg : g ∈ e.groups) :
    e.group? g.number = some g := by
  rcases hfind : e.group? g.number with _ | k
  · exact absurd (List.find?_eq_none.mp hfind g hg) (by simp)
  · have hk : k ∈ e.groups := List.mem_of_find?_eq_some hfind
    have hn : k.number = g.number := by simpa using List.find?_some hfind
    rw [List.inj_on_of_nodup_map h.distinct hk hg hn]

theorem numbers_map {f : Group → Group} (hf : ∀ g, (f g).number = g.number) (gs : List Group) :
    (gs.map f).map (·.number) = gs.map (·.number) := by
  rw [List.map_map]
  exact List.map_congr_left fun g _ => hf g

theorem numbers_putGroup (e : Engine) (g : Group) :
    (e.putGroup g).groups.map (·.number) = e.groups.map (·.number) := by
  refine numbers_map (fun h => ?_) e.groups
  split_ifs with hn
  · exact hn.symm
  · rfl

theorem numbers_putStore (e : Engine) (s : Store) :
    (e.putStore s).groups.map (·.number) = e.groups.map (·.number) :=
  numbers_map (f := (·.putStore s)) (fun _ => rfl) e.groups

/-! ### Removing a word -/

theorem number_removeWord (g : Group) (w : Text) : (g.removeWord w).number = g.number :=
  Group.removeWord_induction (P := fun k => k.number = g.number) rfl (fun _ _ hk => hk)
    fun _ _ _ hk => hk

/-- **A removed word** is removed from every group; blacklists that change are written. -/
theorem removeWord_eq_map (h : e.Numbered) (w : Text) : e.removeWord w =
    { e with
      groups := e.groups.map (·.removeWord w)
      queue := e.queue.pushAll (e.groups.flatMap fun g => listWrites g (g.removeWord w))
      spelling := (e.forgetSpelling w).spelling
      predictions := [] } := by
  have hfold := foldl_putListed_eq (p := fun _ => True) (f := (·.removeWord w))
    (number_removeWord · w) e.groups e [] rfl h.distinct
  simp only [if_true, List.nil_append] at hfold
  rw [removeWord, hfold]
  rfl

theorem removeWord_eq (h : e.Numbered) (w : Text) : ∃ ts : List Task,
    (∀ t ∈ ts, ∃ n, t = .writeList n) ∧
      e.removeWord w =
        { e with
          groups := e.groups.map (·.removeWord w)
          queue := e.queue.pushAll ts
          spelling := (e.forgetSpelling w).spelling
          predictions := [] } := by
  refine ⟨_, fun t ht => ?_, removeWord_eq_map h w⟩
  obtain ⟨g, -, ht⟩ := List.mem_flatMap.mp ht
  exact ⟨_, (mem_listWrites.mp ht).2.2⟩

/-! ### Committing a text -/

/-- The stores that are open, by number and origin. -/
def labels (e : Engine) : List (Nat × Origin) := e.stores.map fun s => (s.number, s.origin)

/-- The numbers of the groups' blacklists. -/
def listNumbers (e : Engine) : List Nat := e.groups.map (·.blacklist.number)

end Engine

theorem Group.mem_of_sub? {g : Group} {o : Origin} {s : Store} (h : g.sub? o = some s) :
    s ∈ g.subs ∧ s.origin = o :=
  ⟨List.mem_of_find?_eq_some h, by simpa using List.find?_some h⟩

/-- A fold that keeps what it has or takes the next item ends with one of the items. -/
theorem mem_of_foldl {α : Type} {step : Option α → α → Option α}
    (hstep : ∀ best a, step best a = best ∨ step best a = some a) {l : List α} {a : α} :
    ∀ {best : Option α}, l.foldl step best = some a → best = some a ∨ a ∈ l := by
  induction l with
  | nil => exact fun h => .inl h
  | cons b l ih =>
    intro best h
    rcases ih h with hbest | hmem
    · rcases hstep best b with hkept | htaken
      · exact .inl (hkept.symm.trans hbest)
      · exact .inr (Option.some.inj (htaken.symm.trans hbest) ▸ List.mem_cons_self)
    · exact .inr (List.mem_cons_of_mem _ hmem)

theorem mem_of_preferredGroup {gs : List Group} {g : Group} (h : preferredGroup gs = some g) :
    g ∈ gs := by
  unfold preferredGroup at h
  refine (mem_of_foldl (fun best k => ?_) h).resolve_left (by simp)
  cases best with
  | none => exact .inr rfl
  | some b =>
    dsimp only
    split_ifs
    · exact .inl rfl
    · exact .inr rfl

theorem mem_of_clearlyPreferredGroup {gs : List Group} {g : Group}
    (h : clearlyPreferredGroup gs = some g) : g ∈ gs := by
  unfold clearlyPreferredGroup at h
  split at h
  · exact Option.some.inj h ▸ List.mem_singleton_self _
  · exact mem_of_preferredGroup (Option.filter_eq_some_iff.mp h).1

/-- The group after words were committed: another confidence, and a blacklist that has lost some of
the words at most. -/
structure Group.Relisted (ws : List Text) (g g' : Group) : Prop where
  rest : g' = { g with
    confidence := g'.confidence
    blacklist := { g.blacklist with words := g'.blacklist.words } }
  lifted : ∀ w, g'.isBlacklisted w = true → g.isBlacklisted w = true
  kept : ∀ w, w ∉ ws → g'.isBlacklisted w = g.isBlacklisted w

/-- The task is about a word of `ws`, and the store that it names is open; or it writes one of the
blacklists. -/
def Task.IsAbout (labels : List (Nat × Origin)) (lists : List Nat) (ws : List Text) : Task → Prop
  | .learn n _ form _ _ =>
    (n, Origin.history) ∈ labels ∧ ∃ w ∈ ws, form ∈ [w, Text.decapitalize w, Text.lower w]
  | .promote n w => (n, Origin.user) ∈ labels ∧ w ∈ ws
  | .writeList n => n ∈ lists
  | _ => False

namespace Group

variable {ws : List Text} {g g' g'' : Group}

theorem Relisted.refl (ws : List Text) (g : Group) : Relisted ws g g :=
  ⟨rfl, fun _ h => h, fun _ _ => rfl⟩

theorem Relisted.trans (h : Relisted ws g g') (h' : Relisted ws g' g'') : Relisted ws g g'' := by
  refine ⟨?_, fun w hw => h.lifted w (h'.lifted w hw), fun w hw => ?_⟩
  · rw [h'.rest, h.rest]
  · rw [h'.kept w hw, h.kept w hw]

theorem relisted_adjust (ws : List Text) (w : Text) (auto : Bool) (g : Group) :
    Relisted ws g (Engine.adjust w auto g) := by
  unfold Engine.adjust
  split
  · exact ⟨rfl, fun _ h => h, fun _ _ => rfl⟩
  · exact ⟨rfl, fun _ h => h, fun _ _ => rfl⟩

theorem isBlacklisted_unblacklistWord (g : Group) (v w : Text) :
    (g.unblacklistWord v).isBlacklisted w = (g.isBlacklisted w && w != v) := by
  show (g.blacklist.words.filter (· != v)).contains w = (g.blacklist.words.contains w && w != v)
  rw [Bool.eq_iff_iff]
  simp

theorem relisted_unblacklistWord {w : Text} (hw : w ∈ ws) (g : Group) :
    Relisted ws g (g.unblacklistWord w) := by
  refine ⟨rfl, fun v hv => ?_, fun v hv => ?_⟩
  · rw [isBlacklisted_unblacklistWord, Bool.and_eq_true] at hv
    exact hv.1
  · have hne : v ≠ w := fun he => hv (he ▸ hw)
    rw [isBlacklisted_unblacklistWord, bne_iff_ne.mpr hne, Bool.and_true]

end Group

namespace Engine

variable {e e' e'' : Engine} {w : Text} {ws : List Text}

/-- **What committing words can do** to the engine. -/
structure Commits (ws : List Text) (e e' : Engine) : Prop where
  rest : e' = { e with groups := e'.groups, queue := e'.queue, respelling := e'.respelling }
  groups : ∃ f : Group → Group, e'.groups = e.groups.map f ∧ ∀ g, Group.Relisted ws g (f g)
  queue : ∃ ts : List Task, e'.queue = e.queue.pushAll ts ∧
    ∀ t ∈ ts, t.IsAbout e.labels e.listNumbers ws

theorem Commits.refl (ws : List Text) (e : Engine) : Commits ws e e :=
  ⟨rfl, ⟨id, (List.map_id _).symm, fun g => Group.Relisted.refl ws g⟩, ⟨[], rfl, by simp⟩⟩

theorem subs_of_relisted {g g' : Group} (h : Group.Relisted ws g g') : g'.subs = g.subs := by
  rw [h.rest]

theorem number_of_relisted {g g' : Group} (h : Group.Relisted ws g g') :
    g'.number = g.number := by
  rw [h.rest]

theorem Commits.stores_eq (h : Commits ws e e') : e'.stores = e.stores := by
  obtain ⟨f, hf, hrelisted⟩ := h.groups
  have hkept : e'.keptStores = e.keptStores := by rw [h.rest]
  have hsubs : e'.groups.flatMap (·.subs) = e.groups.flatMap (·.subs) := by
    rw [hf, List.flatMap_map]
    congr 1
    funext g
    exact subs_of_relisted (hrelisted g)
  rw [stores, stores, hsubs, hkept]

theorem Commits.numbers_eq (h : Commits ws e e') :
    e'.groups.map (·.number) = e.groups.map (·.number) := by
  obtain ⟨f, hf, hrelisted⟩ := h.groups
  rw [hf]
  exact numbers_map (fun g => number_of_relisted (hrelisted g)) e.groups

theorem Commits.listNumbers_eq (h : Commits ws e e') : e'.listNumbers = e.listNumbers := by
  obtain ⟨f, hf, hrelisted⟩ := h.groups
  rw [listNumbers, hf, List.map_map]
  refine List.map_congr_left fun g _ => ?_
  rw [Function.comp_apply, (hrelisted g).rest]

theorem Commits.trans (h : Commits ws e e') (h' : Commits ws e' e'') : Commits ws e e'' := by
  obtain ⟨f, hf, hrelisted⟩ := h.groups
  obtain ⟨f', hf', hrelisted'⟩ := h'.groups
  obtain ⟨ts, hts, habout⟩ := h.queue
  obtain ⟨us, hus, habout'⟩ := h'.queue
  have hlabels : e'.labels = e.labels := by rw [labels, h.stores_eq, labels]
  refine ⟨?_, ⟨f' ∘ f, ?_, fun g => (hrelisted g).trans (hrelisted' (f g))⟩, ts ++ us, ?_, ?_⟩
  · rw [h'.rest, h.rest]
  · rw [hf', hf, List.map_map]
  · rw [hus, hts, TaskQueue.pushAll_append]
  · intro t ht
    rcases List.mem_append.mp ht with ht | ht
    · exact habout t ht
    · have habout := habout' t ht
      rwa [hlabels, h.listNumbers_eq] at habout

theorem commits_adjustConfidences (ws : List Text) (e : Engine) (w : Text) (auto : Bool) :
    Commits ws e (e.adjustConfidences w auto) := by
  unfold adjustConfidences
  split_ifs
  · exact Commits.refl ws e
  · exact ⟨rfl, ⟨_, rfl, Group.relisted_adjust ws w auto⟩, ⟨[], rfl, by simp⟩⟩

theorem commits_respelling (ws : List Text) (e : Engine) (pending : Option Respelling) :
    Commits ws e { e with respelling := pending } :=
  ⟨rfl, ⟨id, (List.map_id _).symm, fun g => Group.Relisted.refl ws g⟩, ⟨[], rfl, by simp⟩⟩

theorem commits_queueTask {t : Task} (ht : t.IsAbout e.labels e.listNumbers ws) :
    Commits ws e (e.queueTask t) :=
  ⟨rfl, ⟨id, (List.map_id _).symm, fun g => Group.Relisted.refl ws g⟩,
    ⟨[t], rfl, by simpa using ht⟩⟩

theorem mem_labels {g : Group} {o : Origin} {s : Store} (hg : g ∈ e.groups)
    (hs : g.sub? o = some s) : (s.number, o) ∈ e.labels := by
  obtain ⟨hmem, horigin⟩ := Group.mem_of_sub? hs
  have hstore : s ∈ e.stores := List.mem_append_left _ (List.mem_flatMap.mpr ⟨g, hg, hmem⟩)
  exact List.mem_map.mpr ⟨s, hstore, by rw [horigin]⟩

theorem mem_labels_of_promotionTarget {n : Nat} (h : promotionTarget e.groups w = some n) :
    (n, Origin.user) ∈ e.labels := by
  unfold promotionTarget at h
  split_ifs at h
  split at h
  · exact nomatch h
  · next g hg =>
    split at h
    · next user history huser hhistory =>
      split_ifs at h
      obtain rfl := Option.some.inj h
      exact mem_labels (mem_of_clearlyPreferredGroup hg) huser
    · exact nomatch h

theorem commits_promote (hw : w ∈ ws) (e : Engine) (auto : Bool) :
    Commits ws e (e.promote w auto) := by
  unfold promote
  split_ifs
  · split
    · next n hn => exact commits_queueTask ⟨mem_labels_of_promotionTarget hn, hw⟩
    · exact Commits.refl ws e
  · exact Commits.refl ws e

theorem learnedForm_mem (g : Group) (pending : Option Respelling) (first : Bool) (w : Text) :
    (learnedForm g pending first w).1 ∈ [w, Text.decapitalize w, Text.lower w] := by
  unfold learnedForm
  dsimp only
  split_ifs <;> simp

theorem commits_learnWord {g : Group} (hg : g ∈ e.groups ∨ g.subs = []) (hw : w ∈ ws)
    (c : Context) (auto : Bool) (time : Nat) (block : Bool) :
    Commits ws e (e.learnWord g c w auto time block).1 := by
  unfold learnWord
  split
  · exact Commits.refl ws e
  · next history hhistory =>
    dsimp only
    split_ifs
    · exact Commits.refl ws e
    · have hmem : (history.number, Origin.history) ∈ e.labels := by
        rcases hg with hg | hg
        · exact mem_labels hg hhistory
        · rw [Group.sub?, hg] at hhistory
          exact nomatch hhistory
      have hpending := commits_respelling ws e (learnedForm g (respelled e.respelling c).2
        (auto || (respelled e.respelling c).1.isStart) w).2
      exact hpending.trans (commits_queueTask ⟨hmem, w, hw, learnedForm_mem ..⟩)

theorem commits_unblacklist (h : (e.groups.map (·.number)).Nodup) (hw : w ∈ ws)
    (confidence : Nat) : Commits ws e (e.unblacklist confidence w) := by
  have hfold := foldl_putListed_eq (p := fun g => g.confidence = confidence)
    (f := (·.unblacklistWord w)) (fun _ => rfl) e.groups e [] rfl h
  rw [unblacklist, hfold]
  refine ⟨rfl, ⟨_, rfl, fun g => ?_⟩, ⟨_, rfl, fun t ht => ?_⟩⟩
  · split_ifs
    · exact Group.relisted_unblacklistWord hw g
    · exact Group.Relisted.refl ws g
  · obtain ⟨g, hg, ht⟩ := List.mem_flatMap.mp ht
    split_ifs at ht
    · obtain rfl := (mem_listWrites.mp ht).2.2
      exact List.mem_map.mpr ⟨g, hg, rfl⟩
    · exact absurd ht List.not_mem_nil

theorem group?_getD (e : Engine) (n : Nat) :
    (e.group? n).getD default ∈ e.groups ∨ ((e.group? n).getD default).subs = [] := by
  rcases hg : e.group? n with _ | g
  · exact .inr rfl
  · exact .inl (List.mem_of_find?_eq_some hg)

theorem commits_learnWords (number time : Nat) (block : Bool) : ∀ (vs : List Text) (e : Engine)
    (c : Context) (auto : Bool), (e.groups.map (·.number)).Nodup → (∀ v ∈ vs, v ∈ ws) →
    Commits ws e (learnWords number time block e c auto vs)
  | [], e, _, _, _, _ => Commits.refl ws e
  | v :: vs, e, c, auto, h, hvs => by
    have hv : v ∈ ws := hvs v List.mem_cons_self
    have hlearn := commits_learnWord (group?_getD e number) hv c auto time block
    have hnodup := hlearn.numbers_eq ▸ h
    have hlift := commits_unblacklist hnodup hv ((e.group? number).getD default).confidence
    have hrest := commits_learnWords number time block vs _
      ((e.learnWord ((e.group? number).getD default) c v auto time block).2.next (.word v)) false
      (hlift.numbers_eq ▸ hnodup) fun u hu => hvs u (List.mem_cons_of_mem _ hu)
    exact (hlearn.trans hlift).trans hrest

/-- **A committed text** does what committing its words can do, and then its spelling is
remembered. -/
theorem commits_commit (h : e.Numbered) (text : Text) (auto : Bool) (c : Context) (time : Nat)
    (block : Bool) : ∃ e', Commits (Text.words text) e e' ∧
      e.commit text auto c time block = e'.rememberSpelling text := by
  have hwords (e₁ : Engine) (h₁ : Commits (Text.words text) e e₁) :=
    h₁.trans (commits_learnWords e₁.preferred.number time block (Text.words text) e₁ c auto
      (h₁.numbers_eq ▸ h.distinct) fun _ hv => hv)
  unfold commit
  dsimp only
  split
  · next v hv =>
    have hmem : v ∈ Text.words text := hv ▸ List.mem_singleton_self v
    have hadjust := commits_adjustConfidences (Text.words text) e v auto
    have hpromote := commits_promote hmem (e.adjustConfidences v auto) auto
    exact ⟨_, hv ▸ hwords _ (hadjust.trans hpromote), rfl⟩
  · exact ⟨_, hwords e (Commits.refl _ e), rfl⟩

end Engine

end Typeahead
