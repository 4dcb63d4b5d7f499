import Typeahead.Lexicon.Draft
import Typeahead.Proofs.Engine.Removal
import Typeahead.Proofs.Engine.Shown

/-! # Removed words

A removed word is forgotten by every store, and it is put on the blacklist of a group whose contacts
held it or whose main dictionary vouches for it (`isBlacklisted_removeWord_iff`). A main dictionary
may also offer words that it does not vouch for: replacements, and words that may follow others. So
a removed word stays out of what is shown, until it is typed again, exactly if some group has it on
its blacklist then or no main dictionary offers it (`removed_word_stays_out_iff`). `Rid` is the
invariant that carries this through a run. -/

namespace Typeahead

/-- The dictionary answers some query with the word. -/
def Dictionary.Offers (d : Dictionary) (w : Text) : Prop :=
  ∃ q cs, d.suggestions q = .found cs ∧ w ∈ cs.map (·.word)

namespace Group

/-- No dictionary of the group offers the word. -/
structure Lacks (g : Group) (w : Text) : Prop where
  main : ∀ d, g.main = some d → ¬ d.Offers w
  subs : ∀ s ∈ g.subs, s.tables.words.has w = false

theorem lacks_placeholder (n m : Nat) (w : Text) : (placeholder n m).Lacks w :=
  ⟨fun _ hd => (nomatch hd), fun _ hs => absurd hs List.not_mem_nil⟩

end Group

/-- The task does not bring a word back. -/
def Task.Spares (w : Text) : Task → Prop
  | .learn _ _ v _ _ | .promote _ v => v ≠ w
  | .loadMain .. => False
  | _ => True

/-- The action does not bring a word back: the dictionaries are not reset, and the word is neither
added nor typed, also not in a form from which it is learned. -/
def Action.Spares (w : Text) : Action → Prop
  | .reset _ => False
  | .commit text .. => ∀ v ∈ Text.words text, w ∉ [v, Text.decapitalize v, Text.lower v]
  | .add _ _ v _ => v ≠ w
  | _ => True

namespace Store

variable {s s' : Store} {v w : Text}

/-- What is counted or added leaves other words unknown. -/
theorem has_of_use (h : s.Sound) (hv : v ≠ w) {c : Context} {valid : Bool} {n time : Nat}
    (hs' : s.use c v valid n time = .ok s') (hw : s.tables.words.has w = false) :
    s'.tables.words.has w = false := by
  rw [use_eq h] at hs'
  split_ifs at hs'
  obtain rfl := Except.ok.inj hs'
  show (s.tables.use c v valid n time).words.has w = false
  rw [Tables.has_words_use h.tables, hw, Bool.or_false]
  exact beq_eq_false_iff_ne.mpr hv.symm

theorem has_of_add (h : s.Sound) (hv : v ≠ w) {n : Nat} (hs' : s.add v n = .ok s')
    (hw : s.tables.words.has w = false) : s'.tables.words.has w = false := by
  rw [add_eq h] at hs'
  split_ifs at hs'
  obtain rfl := Except.ok.inj hs'
  show (s.tables.add v n).words.has w = false
  rw [Tables.has_words_add h.tables, hw, Bool.or_false]
  exact beq_eq_false_iff_ne.mpr hv.symm

theorem has_of_remove (h : s.Sound) {held : Bool} (hs' : s.remove v = .ok (held, s'))
    (hw : s.tables.words.has w = false) : s'.tables.words.has w = false := by
  rw [remove_eq h] at hs'
  obtain rfl := (Prod.ext_iff.mp (Except.ok.inj hs')).2
  show (s.tables.remove v).words.has w = false
  rw [Tables.has_words_remove h.tables, hw, Bool.and_false]

end Store

/-- What a task writes leaves a word unknown if the task does not bring it back. -/
theorem Task.Writes.has_eq_false {t : Task} {s s' : Store} {forgets : Bool} {w : Text}
    (hwrites : t.Writes s forgets s') (h : s.Sound) (ht : t.Spares w)
    (hw : s.tables.words.has w = false) : s'.tables.words.has w = false := by
  cases hwrites with
  | learn huse => exact Store.has_of_use h ht huse hw
  | promote hadd => exact Store.has_of_add h ht hadd hw
  | unlearn hremove => exact Store.has_of_remove h hremove hw

namespace Engine

variable {e e' : Engine} {s s' : Store} {w : Text}

/-! ### What is hidden -/

/-- The word is blacklisted, or nothing offers it. -/
def Hidden (w : Text) (e : Engine) : Prop := e.Bans w ∨ ∀ g ∈ e.groups, g.Lacks w

theorem Hidden.not_mem_candidates (hw : e.Hidden w) (h : e.Consistent) (r : Request) :
    w ∉ (e.candidates r).words := by
  intro hmem
  rcases hw with hban | hlacks
  · exact not_bans_of_mem_candidates hmem hban
  · obtain ⟨c, hc, rfl⟩ := mem_words_mergedRanking.mp hmem
    obtain ⟨g, hg, cs, hcs, hc⟩ := mem_offeredBy_iff.mp hc
    obtain ⟨o, -, d, found, hd, hfound, hin, -⟩ := (Group.mem_candidates_iff hcs).mp hc
    unfold Group.dictionary? at hd
    split_ifs at hd
    · exact (hlacks g hg).main d hd ⟨_, found, hfound, List.mem_map_of_mem hin⟩
    · obtain ⟨s, hs, rfl⟩ := Option.map_eq_some_iff.mp hd
      have hmem' := (Group.mem_of_sub? hs).1
      obtain rfl := Answer.found.inj hfound
      have hheld := Store.has_of_mem_suggestions (h.sound_subs hg s hmem') hin
      rw [(hlacks g hg).subs s hmem'] at hheld
      exact nomatch hheld

theorem Hidden.of_map (hw : e.Hidden w) {f : Group → Group} (hgroups : e'.groups = e.groups.map f)
    (hbans : ∀ g ∈ e.groups, g.isBlacklisted w = true → (f g).isBlacklisted w = true)
    (hlacks : ∀ g ∈ e.groups, g.Lacks w → (f g).Lacks w) : e'.Hidden w := by
  rcases hw with ⟨g, hg, hban⟩ | hall
  · refine .inl ⟨f g, ?_, hbans g hg hban⟩
    rw [hgroups]
    exact List.mem_map_of_mem hg
  · refine .inr fun k hk => ?_
    rw [hgroups] at hk
    obtain ⟨g, hg, rfl⟩ := List.mem_map.mp hk
    exact hlacks g hg (hall g hg)

theorem Hidden.putStore (hw : e.Hidden w) (h : e.Consistent) (hs : s ∈ e.stores)
    (hu : s.Updates s') (hheld : s.tables.words.has w = false → s'.tables.words.has w = false) :
    (e.putStore s').Hidden w := by
  refine hw.of_map (f := (·.putStore s')) rfl (fun _ _ hban => hban) fun g hg hlacks =>
    ⟨hlacks.main, fun u hmem => ?_⟩
  obtain ⟨t, ht, rfl⟩ := List.mem_map.mp hmem
  split_ifs with hn
  · refine hheld ?_
    rw [← h.eq_of_number (mem_stores_of_mem_subs hg ht) hs (hn.trans hu.number)]
    exact hlacks.subs t ht
  · exact hlacks.subs t ht

theorem Hidden.ran (hw : e.Hidden w) (h : e.Consistent) {t : Task} (ht : t.Spares w)
    (hran : e.Ran t e') : e'.Hidden w := by
  cases hran with
  | nothing => exact hw
  | store hs hwrites =>
    have hsound := h.soundStores _ hs
    exact hw.putStore h hs (hwrites.updates hsound) (hwrites.has_eq_false hsound ht)
  | list => exact hw
  | main => exact False.elim ht

/-! ### Runs after a removal -/

/-- The word is hidden, and neither what waits nor what is remembered brings it back. -/
structure Rid (w : Text) (e : Engine) : Prop where
  hidden : e.Hidden w
  tasks : ∀ q ∈ e.queue.queued, q.task.Spares w
  remembered : ∀ p ∈ e.predictions, w ∉ p.2.words

theorem tasks_pushAll {ts : List Task} (h : ∀ q ∈ e.queue.queued, q.task.Spares w)
    (hqueue : e'.queue = e.queue.pushAll ts) (hts : ∀ t ∈ ts, t.Spares w) :
    ∀ q ∈ e'.queue.queued, q.task.Spares w := by
  intro q hq
  rw [hqueue, TaskQueue.queued_pushAll, List.mem_append] at hq
  rcases hq with hq | hq
  · exact h q hq
  · obtain ⟨t, ht, rfl⟩ := List.mem_map.mp hq
    exact hts t ht

theorem remembered_of_eq (h : ∀ p ∈ e.predictions, w ∉ p.2.words)
    (hpredictions : e'.predictions = e.predictions ∨ e'.predictions = []) :
    ∀ p ∈ e'.predictions, w ∉ p.2.words := by
  intro p hp
  rcases hpredictions with heq | heq
  · exact h p (heq ▸ hp)
  · rw [heq] at hp
    exact absurd hp List.not_mem_nil

theorem rid_rememberNextWords (hw : e.Rid w) (h : e.Consistent) (c : Context) (block : Bool) :
    (e.rememberNextWords c block).Rid w := by
  have hremembered (p : Context × Ranking) (hp : p ∈ (e.rememberNextWords c block).predictions) :
      w ∉ p.2.words := by
    rcases mem_predictions_rememberNextWords hp with hp | rfl
    · exact hw.remembered p hp
    · exact hw.hidden.not_mem_candidates h _
  rw [rememberNextWords_eq] at hremembered ⊢
  exact ⟨hw.hidden, hw.tasks, hremembered⟩

theorem rid_commit (hw : e.Rid w) (h : e.Consistent) {text : Text} {auto : Bool} {c : Context}
    {time : Nat} {block : Bool} (hspares : Action.Spares w (.commit text auto c time block)) :
    (e.commit text auto c time block).Rid w := by
  obtain ⟨e', hcommits, heq⟩ := commits_commit h.toNumbered text auto c time block
  obtain ⟨f, hf, hrelisted⟩ := hcommits.groups
  obtain ⟨ts, hqueue, hts⟩ := hcommits.queue
  have hpredictions : e'.predictions = e.predictions := by rw [hcommits.rest]
  have huntyped : w ∉ Text.words text := fun hmem => hspares w hmem List.mem_cons_self
  rw [heq]
  refine ⟨hw.hidden.of_map (f := f) hf (fun g _ hban => ?_) fun g _ hlacks => ?_,
    tasks_pushAll hw.tasks hqueue fun t ht => ?_,
    remembered_of_eq hw.remembered (.inl hpredictions)⟩
  · rw [(hrelisted g).kept w huntyped]
    exact hban
  · have hmain : (f g).main = g.main := by rw [(hrelisted g).rest]
    exact ⟨hmain ▸ hlacks.main, subs_of_relisted (hrelisted g) ▸ hlacks.subs⟩
  · have habout := hts t ht
    cases t with
    | learn n c v valid time =>
      obtain ⟨-, u, hu, hform⟩ := habout
      exact fun he => hspares u hu (he ▸ hform)
    | promote n v => exact fun he => huntyped (he ▸ habout.2)
    | unlearn n v => exact trivial
    | writeList n => exact trivial
    | loadMain n l => exact habout

theorem rid_runNext (hw : e.Rid w) (h : e.Sound) : e.runNext.Rid w := by
  rcases runNext_cases h.free with ⟨-, heq⟩ | ⟨q, rest, e', hqueue, hran, -, heq⟩
  · rw [heq]
    exact hw
  · have hq : q ∈ e.queue.queued := hqueue ▸ List.mem_cons_self
    have hhidden := hw.hidden.ran h.toConsistent (hw.tasks q hq) hran
    rw [heq]
    refine ⟨hhidden, fun p hp => hw.tasks p ?_,
      remembered_of_eq hw.remembered hran.sameQueue.predictions⟩
    rw [hqueue]
    exact List.mem_cons_of_mem _ hp

theorem lacks_removeWord {g : Group} (hg : ∀ s ∈ g.subs, s.Sound) {v : Text}
    (hlacks : g.Lacks w) : (g.removeWord v).Lacks w := by
  refine (Group.removeWord_induction (P := fun k => (∀ s ∈ k.subs, s.Sound) ∧ k.Lacks w)
    ⟨hg, hlacks⟩ (fun k os hk => ?_) fun _ _ _ hk => ⟨hk.1, hk.2.main, hk.2.subs⟩).2
  obtain ⟨hsound, hlacks⟩ := hk
  refine ⟨(updates_forgetIn hsound os v).sound_subs, hlacks.main, fun u hu => ?_⟩
  obtain ⟨s, hs, -, hkept, -⟩ := Group.mem_forgetIn (v := w) hsound hu
  rcases hheld : u.tables.words.has w with _ | _
  · rfl
  · rw [hlacks.subs s hs] at hkept
    exact nomatch hkept hheld

theorem lacks_clearedHistory {g : Group} (hg : ∀ s ∈ g.subs, s.Sound) (hlacks : g.Lacks w) :
    (clearedHistory g).Lacks w := by
  rcases clearedHistory_cases hg with heq | ⟨s, -, -, heq⟩
  · rw [heq]
    exact hlacks
  · rw [heq]
    refine ⟨hlacks.main, fun u hu => ?_⟩
    obtain ⟨t, ht, rfl⟩ := List.mem_map.mp hu
    split_ifs
    · rfl
    · exact hlacks.subs t ht

theorem rid_perform (hw : e.Rid w) (h : e.Sound) {a : Action} (hspares : a.Spares w) :
    (e.perform a).Rid w := by
  cases a with
  | reset r => exact False.elim hspares
  | close =>
    refine ⟨.inr fun g hg => ?_, hw.tasks, remembered_of_eq hw.remembered (.inr rfl)⟩
    rw [List.mem_singleton.mp hg]
    exact Group.lacks_placeholder _ _ w
  | restart =>
    refine ⟨.inr fun g hg => ?_, fun q hq => absurd hq List.not_mem_nil,
      remembered_of_eq hw.remembered (.inr rfl)⟩
    rw [List.mem_singleton.mp hg]
    exact Group.lacks_placeholder _ _ w
  | setSettings s => exact ⟨hw.hidden, hw.tasks, remembered_of_eq hw.remembered (.inr rfl)⟩
  | clearPredictions => exact ⟨hw.hidden, hw.tasks, remembered_of_eq hw.remembered (.inr rfl)⟩
  | commit text auto c time block => exact rid_commit hw h.toConsistent hspares
  | unlearn v why =>
    obtain ⟨ts, hts, heq⟩ := unlearn_eq e v why
    show (e.unlearn v why).Rid w
    rw [heq]
    refine ⟨hw.hidden, tasks_pushAll hw.tasks rfl fun t ht => ?_, hw.remembered⟩
    obtain ⟨g, s, -, -, rfl⟩ := hts t ht
    exact trivial
  | remove v =>
    obtain ⟨ts, hts, heq⟩ := removeWord_eq h.toNumbered v
    show (e.removeWord v).Rid w
    rw [heq]
    refine ⟨hw.hidden.of_map rfl (fun _ _ hban => Group.isBlacklisted_removeWord hban)
      fun g hg hlacks => lacks_removeWord (h.sound_subs hg) hlacks,
      tasks_pushAll hw.tasks rfl fun t ht => ?_, remembered_of_eq hw.remembered (.inr rfl)⟩
    obtain ⟨n, rfl⟩ := hts t ht
    exact trivial
  | clearHistory =>
    refine ⟨hw.hidden.of_map (f := clearedHistory) rfl (fun g hg hban => ?_)
      fun g hg hlacks => lacks_clearedHistory (h.sound_subs hg) hlacks,
      hw.tasks, remembered_of_eq hw.remembered (.inr rfl)⟩
    rcases clearedHistory_cases (h.sound_subs hg) with heq | ⟨s, -, -, heq⟩
    · rwa [heq]
    · rwa [heq]
  | suggest r =>
    show (e.suggest r).2.Rid w
    rcases suggest_eq e r with heq | heq
    · rw [heq]
      exact hw
    · rw [heq]
      exact rid_rememberNextWords hw h.toConsistent r.context r.settings.blocksOffensive
  | predict c block => exact rid_rememberNextWords hw h.toConsistent c block
  | add place o v n =>
    show (e.addWord place o v n).Rid w
    rcases addWord_cases e place o v n with heq | ⟨g, s, s', hg, hsub, hadd, heq⟩
    · rw [heq]
      exact hw
    · have hmem : s ∈ e.stores := mem_stores_of_mem_subs hg (Group.mem_of_sub? hsub).1
      have hsound := h.soundStores s hmem
      rw [heq]
      exact ⟨hw.hidden.putStore h.toConsistent hmem (Store.updates_add hsound hadd)
        (Store.has_of_add hsound hspares hadd), hw.tasks, hw.remembered⟩
  | work => exact rid_runNext hw h

theorem rid_after (bs : List Action) : ∀ {e : Engine}, e.Rid w → e.Sound →
    (∀ a ∈ bs, a.Spares w) → (e.after bs).Rid w := by
  induction bs with
  | nil => exact fun hw _ _ => hw
  | cons a bs ih =>
    intro e hw h hspares
    exact ih (rid_perform hw h (hspares a List.mem_cons_self)) (h.perform a) fun b hb =>
      hspares b (List.mem_cons_of_mem _ hb)

theorem Rid.not_mem_nextWords (hw : e.Rid w) (h : e.Consistent) (c : Context) (block : Bool) :
    w ∉ (e.nextWords c block).words := by
  rcases nextWords_cases e c block with heq | ⟨found, hfound, -, heq⟩
  · rw [heq]
    exact hw.hidden.not_mem_candidates h _
  · rw [heq]
    exact hw.remembered found hfound

/-! ### The removal itself -/

/-- What a main dictionary offers and no group has blacklisted is shown for some request. -/
theorem exists_mem_candidates (h : e.Consistent) (hban : ¬ e.Bans w) {g : Group} (hg : g ∈ e.groups)
    {d : Dictionary} (hd : g.main = some d) (hoffers : d.Offers w) :
    ∃ r, w ∈ (e.candidates r).words := by
  obtain ⟨q, cs, hcs, hw⟩ := hoffers
  refine ⟨{ typed := q.typed, context := q.context, block := q.block }, ?_⟩
  generalize hr : ({ typed := q.typed, context := q.context, block := q.block } : Request) = r
  have hgesture : r.gesture = false := by rw [← hr]
  have hwords : (d.suggestions (r.query (g.weightAmong e.groups r.gesture))).words =
      some (cs.map (·.word)) := by
    have hweight := ((h.soundGroups g hg).main d hd).weight q (g.weightAmong e.groups r.gesture)
    rw [hcs] at hweight
    rw [← hr] at hweight ⊢
    exact hweight
  obtain ⟨found, hfound, hin⟩ := Answer.exists_found hwords hw
  obtain ⟨all, hall⟩ := Group.exists_candidates hd hfound
  obtain ⟨c, hc, rfl⟩ := List.mem_map.mp hin
  have hshow : isShowable e.groups .main d r.gesture c = true := by
    have hany : e.groups.any (·.isBlacklisted c.word) = false :=
      Bool.eq_false_iff.mpr fun hb => hban (List.any_eq_true.mp hb)
    rw [isShowable, hany, hgesture]
    rfl
  have hmem : c ∈ all :=
    (Group.mem_candidates_iff hall).mpr ⟨.main, by decide, d, found, hd, hfound, hc, hshow⟩
  exact mem_words_mergedRanking.mpr ⟨c, mem_offeredBy_iff.mpr ⟨g, hg, all, hall, hmem⟩, rfl⟩

theorem bans_removeWord_iff (h : e.Consistent) : (e.removeWord w).Bans w ↔
    ∃ g ∈ e.groups, g.barsRemoved w = true := by
  obtain ⟨ts, -, heq⟩ := removeWord_eq h.toNumbered w
  rw [heq]
  constructor
  · rintro ⟨k, hk, hban⟩
    obtain ⟨g, hg, rfl⟩ := List.mem_map.mp hk
    exact ⟨g, hg, Group.isBlacklisted_removeWord_iff (h.sound_subs hg) ▸ hban⟩
  · rintro ⟨g, hg, hbar⟩
    exact ⟨g.removeWord w, List.mem_map_of_mem hg,
      (Group.isBlacklisted_removeWord_iff (h.sound_subs hg)).trans hbar⟩

theorem rid_removeWord (h : e.Consistent) (hidle : e.queue.queued = [])
    (hw : (∃ g ∈ e.groups, g.barsRemoved w = true) ∨
      ∀ g ∈ e.groups, ∀ m, g.main = some m → ¬ m.Offers w) : (e.removeWord w).Rid w := by
  have hidden : (e.removeWord w).Hidden w := by
    refine hw.imp (bans_removeWord_iff h).mpr fun hmains k hk => ?_
    obtain ⟨ts, -, heq⟩ := removeWord_eq h.toNumbered w
    rw [heq] at hk
    obtain ⟨g, hg, rfl⟩ := List.mem_map.mp hk
    exact ⟨fun m hm => hmains g hg m (Group.main_removeWord g w ▸ hm), fun s hs =>
      Group.has_of_mem_removeWord (h.soundGroups g hg) (h.sound_subs hg) hs⟩
  obtain ⟨ts, hts, heq⟩ := removeWord_eq h.toNumbered w
  rw [heq] at hidden ⊢
  have hnone : ∀ q ∈ e.queue.queued, q.task.Spares w := by
    rw [hidle]
    exact fun q hq => absurd hq List.not_mem_nil
  refine ⟨hidden, tasks_pushAll hnone rfl fun t ht => ?_, fun p hp => absurd hp List.not_mem_nil⟩
  obtain ⟨n, rfl⟩ := hts t ht
  exact trivial

/-- **A removed word stays out until it is typed again** exactly if some group has it on its
blacklist from then on, or no main dictionary offers it. -/
theorem removed_word_stays_out_iff {p : Provider} {d : Disk} (hp : p.Sound) (hd : d.Sound)
    (s : Settings) (as : List Action) (hidle : ((start p s d).after as).queue.queued = [])
    (w : Text) :
    (∀ bs : List Action, (∀ a ∈ bs, a.Spares w) →
      (∀ r, w ∉ (((((start p s d).after as).removeWord w).after bs).candidates r).words) ∧
        ∀ c block,
          w ∉ (((((start p s d).after as).removeWord w).after bs).nextWords c block).words) ↔
      (∃ g ∈ ((start p s d).after as).groups, g.barsRemoved w = true) ∨
        ∀ g ∈ ((start p s d).after as).groups, ∀ m, g.main = some m → ¬ m.Offers w := by
  have hsound := sound_after hp hd s as
  have hremoved : (((start p s d).after as).removeWord w).Sound := hsound.perform (.remove w)
  constructor
  · intro hout
    by_contra hnot
    rw [not_or] at hnot
    obtain ⟨hbar, hmains⟩ := hnot
    push Not at hmains
    obtain ⟨g, hg, m, hm, hoffers⟩ := hmains
    have hmem : g.removeWord w ∈ (((start p s d).after as).removeWord w).groups := by
      obtain ⟨ts, -, heq⟩ := removeWord_eq hsound.toNumbered w
      rw [heq]
      exact List.mem_map_of_mem hg
    obtain ⟨r, hr⟩ := exists_mem_candidates hremoved.toConsistent
      (fun hban => hbar ((bans_removeWord_iff hsound.toConsistent).mp hban)) hmem
      ((Group.main_removeWord g w).trans hm) hoffers
    exact (hout [] (by simp)).1 r hr
  · intro hw bs hspares
    have hrid := rid_after bs (rid_removeWord hsound.toConsistent hidle hw) hremoved hspares
    have hlater := hremoved.after bs
    exact ⟨hrid.hidden.not_mem_candidates hlater.toConsistent,
      hrid.not_mem_nextWords hlater.toConsistent⟩

/-- A word of a main dictionary that was removed while other words are typed. -/
theorem removed_word_stays_out_iff_typing :
    let l := ((({ locale := ⟨"en".toList⟩ } : Draft).addPair "hello".toList "world".toList
      90).addWord "world".toList 100).build
    let p := Provider.memory [("en".toList, l.dictionary)]
    let c := (Context.empty 3).next (.word "hello".toList)
    let as : List Action := [.reset { primary := ⟨"en".toList⟩ }, .work]
    let bs : List Action := [.commit "Worlds apart".toList false c 7 false, .work, .work]
    ((start p {} default).after as).queue.queued = [] ∧
      "world".toList ∈ (((start p {} default).after as).nextWords c false).words ∧
      (∀ a ∈ bs, a.Spares "world".toList) ∧
      "world".toList ∉ (((((start p {} default).after as).removeWord "world".toList).after
        bs).nextWords c false).words := by
  intro l p c as bs
  have hp : p.Sound := Provider.sound_lexicon _ l
  have hidle : ((start p {} default).after as).queue.queued = [] := by decide +kernel
  have hbar : ∃ g ∈ ((start p {} default).after as).groups,
      g.barsRemoved "world".toList = true := List.any_eq_true.mp (by decide +kernel)
  have hspares : ∀ a ∈ bs, a.Spares "world".toList := by
    intro a ha
    rcases List.mem_cons.mp ha with rfl | ha
    · show ∀ v ∈ Text.words "Worlds apart".toList, _
      decide +kernel
    · rcases List.mem_cons.mp ha with rfl | ha
      · exact trivial
      · rw [List.mem_singleton.mp ha]
        exact trivial
  have hout := (removed_word_stays_out_iff hp Disk.sound_default {} as hidle "world".toList).mpr
    (.inl hbar) bs hspares
  exact ⟨hidle, by decide +kernel, hspares, hout.2 c false⟩

/-- A replacement that is forced is offered again right after its removal, and so is a word that
follows another; neither is a word of the main dictionary. -/
theorem removed_word_offered_again :
    let l := ((({ locale := ⟨"en".toList⟩ } : Draft).addPair "hello".toList "world".toList
      90).addReplacement "teh".toList "the".toList).build
    let p := Provider.memory [("en".toList, l.dictionary)]
    let c := (Context.empty 3).next (.word "hello".toList)
    let e := (start p {} default).after [.reset { primary := ⟨"en".toList⟩ }, .work]
    e.queue.queued = [] ∧
      ((e.removeWord "the".toList).candidates
        { typed := "teh".toList, context := .empty 3, block := false }).items.map (·.word) =
          ["the".toList] ∧
      ((e.removeWord "world".toList).nextWords c false).items.map (·.word) = ["world".toList] := by
  decide +kernel

end Engine

end Typeahead
