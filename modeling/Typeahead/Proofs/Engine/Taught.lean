import Typeahead.Proofs.Engine.Cleared
import Typeahead.Proofs.Engine.Lessons
import Typeahead.Proofs.Engine.Retyped

/-! # What a committed text teaches

What an engine queues about one history is said by `Engine.Queues`: a change of the tables of a
store, all other work left out. A committed text queues its lessons for the history of the group
that learns it (`queues_commit`), one step for each word (`learn_step`), and when all that waits is
done the history holds what it would have held without, with the lessons taught
(`Queues.histories`). The lessons are those of a regular respelling, as every run leaves one
(`regular_after`). -/

namespace Typeahead

/-! ### What is queued about one history -/

namespace Engine

open Context

/-- Tasks were queued that make `f` of the tables of the store of a number. -/
structure Queues (n : Nat) (f : Tables → Tables) (e e' : Engine) : Prop where
  subs : e'.subs = e.subs
  queue : ∃ ts : List Task, e'.queue = e.queue.pushAll ts ∧ ∀ t, ts.foldl (Task.on n) t = f t

variable {e e' e'' : Engine} {n number : Nat} {f f' : Tables → Tables} {ls ls' : List Lesson}
  {g : Group} {h : Store} {p : Option Respelling} {c : Context} {w text : Text} {ws : List Text}
  {auto block : Bool} {time : Nat}

theorem Queues.refl (n : Nat) (e : Engine) : Queues n id e e := ⟨rfl, [], rfl, fun _ => rfl⟩

theorem Queues.trans (hq : Queues n f e e') (hq' : Queues n f' e' e'') :
    Queues n (f' ∘ f) e e'' := by
  obtain ⟨ts, hts, hf⟩ := hq.queue
  obtain ⟨us, hus, hf'⟩ := hq'.queue
  refine ⟨hq'.subs.trans hq.subs, ts ++ us, ?_, fun t => ?_⟩
  · rw [hus, hts, TaskQueue.pushAll_append]
  · rw [List.foldl_append, hf, hf', Function.comp_apply]

theorem Queues.append (hq : Queues n (·.taught ls) e e') (hq' : Queues n (·.taught ls') e' e'') :
    Queues n (·.taught (ls ++ ls')) e e'' := by
  have hboth := hq.trans hq'
  have hfun : (fun t : Tables => t.taught (ls ++ ls')) =
      (fun t => t.taught ls') ∘ fun t => t.taught ls := by
    funext t
    exact t.taught_append ls ls'
  rwa [hfun]

theorem Queues.histories_eq (hq : Queues n f e e') : e'.histories = e.histories := by
  rw [Engine.histories, hq.subs, Engine.histories]

/-- Nothing that is queued is about the store. -/
theorem queues_of_forall (hsubs : e'.subs = e.subs) (ts : List Task)
    (hqueue : e'.queue = e.queue.pushAll ts) (hts : ∀ t ∈ ts, t.store? ≠ some n) :
    Queues n id e e' := by
  refine ⟨hsubs, ts, hqueue, fun t => ?_⟩
  clear hqueue
  induction ts with
  | nil => rfl
  | cons task ts ih =>
    rw [List.foldl_cons, Task.on_of_ne (hts task List.mem_cons_self)]
    exact ih fun u hu => hts u (List.mem_cons_of_mem task hu)

/-- The pending respelling is regular. -/
def RegularRespelling (e : Engine) : Prop := ∀ s ∈ e.respelling, s.Regular

/-- **Learning a word** queues its lesson. -/
theorem learnWord_eq (hsub : g.sub? .history = some h) (c : Context) (w : Text) (auto : Bool)
    (time : Nat) (block : Bool) : e.learnWord g c w auto time block =
      ({ e with
          respelling := (g.respells block e.respelling c auto w).1
          queue := e.queue.pushAll ((g.firstLesson? block time e.respelling c auto w).toList.map
            fun l => .learn h.number (respelled e.respelling c).1 l.form l.valid l.time) },
        (g.respells block e.respelling c auto w).2) := by
  unfold learnWord Group.respells Group.firstLesson? Group.lesson?
  rw [hsub]
  dsimp only
  by_cases hblock : g.blocks block w = true
  · rw [if_pos hblock, if_pos hblock]
    exact if_pos hblock
  · rw [if_neg hblock, if_neg hblock]
    refine (if_neg hblock).trans ?_
    rw [Group.learnedForm_fst]
    rfl

theorem queues_learnWord (hsub : g.sub? .history = some h) (hw : w ≠ []) :
    Queues h.number (·.taught (g.firstLesson? block time e.respelling c auto w).toList) e
      (e.learnWord g c w auto time block).1 := by
  rw [learnWord_eq hsub]
  refine ⟨rfl, _, rfl, fun t => ?_⟩
  unfold Group.firstLesson? Group.lesson?
  split_ifs
  · rfl
  · exact if_pos ⟨rfl, Group.formOf_ne_nil hw⟩

/-- Taking a word off the blacklists queues no work for a store. -/
theorem unblacklist_eq (hnodup : (e.groups.map (·.number)).Nodup) (confidence : Nat) (w : Text) :
    ∃ ts : List Task, (∀ t ∈ ts, t.store? = none) ∧ e.unblacklist confidence w =
      { e with groups := e.groups.map (lift confidence w), queue := e.queue.pushAll ts } := by
  have hfold := foldl_putListed_eq (p := fun g => g.confidence = confidence)
    (f := (·.unblacklistWord w)) (fun _ => rfl) e.groups e [] rfl hnodup
  refine ⟨_, fun t ht => ?_, hfold⟩
  obtain ⟨k, -, ht⟩ := List.mem_flatMap.mp ht
  split_ifs at ht
  · rw [(mem_listWrites.mp ht).2.2]
    rfl
  · exact absurd ht List.not_mem_nil

theorem lift_keeps (confidence : Nat) (w : Text) (g : Group) :
    (lift confidence w g).number = g.number ∧ (lift confidence w g).main = g.main ∧
      (lift confidence w g).subs = g.subs := by
  unfold lift
  split_ifs <;> exact ⟨rfl, rfl, rfl⟩

theorem queues_unblacklist (hnodup : (e.groups.map (·.number)).Nodup) (confidence : Nat)
    (w : Text) : Queues n id e (e.unblacklist confidence w) := by
  obtain ⟨ts, hts, hlifted⟩ := unblacklist_eq hnodup confidence w
  rw [hlifted]
  refine queues_of_forall ?_ ts rfl fun t ht => ?_
  · unfold subs
    rw [List.map_map]
    exact List.map_congr_left fun k _ => (lift_keeps confidence w k).2.2
  · rw [hts t ht]
    exact nofun

/-- **One step** of the learning of a text: its lesson is queued, and the group is the same but for
its blacklist. -/
theorem learn_step (hnodup : (e.groups.map (·.number)).Nodup) (hg : e.group? number = some g)
    (hsub : g.sub? .history = some h) (hw : w ≠ []) (c : Context) (auto : Bool) (time : Nat)
    (block : Bool) {e' : Engine}
    (he' : (e.learnWord g c w auto time block).1.unblacklist g.confidence w = e') :
    Queues h.number (·.taught (g.firstLesson? block time e.respelling c auto w).toList) e e' ∧
      e'.respelling = (g.respells block e.respelling c auto w).1 ∧
      (e'.groups.map (·.number)).Nodup ∧
      ∃ g', e'.group? number = some g' ∧ g'.main = g.main ∧ g'.sub? .history = some h := by
  obtain ⟨e₁, he₁⟩ : ∃ e₁, (e.learnWord g c w auto time block).1 = e₁ := ⟨_, rfl⟩
  have hgroups₁ : e₁.groups = e.groups := he₁ ▸ groups_learnWord e g c w auto time block
  obtain ⟨ts, -, hlifted⟩ := unblacklist_eq (e := e₁) (hgroups₁ ▸ hnodup) g.confidence w
  rw [he₁, hlifted] at he'
  subst he'
  have hrespelling : e₁.respelling = (g.respells block e.respelling c auto w).1 := by
    rw [← he₁, learnWord_eq hsub]
  have hlearn : Queues h.number
      (·.taught (g.firstLesson? block time e.respelling c auto w).toList) e e₁ :=
    he₁ ▸ queues_learnWord hsub hw
  have hback : Queues h.number id e₁ (e₁.unblacklist g.confidence w) :=
    queues_unblacklist (hgroups₁ ▸ hnodup) g.confidence w
  rw [hlifted] at hback
  refine ⟨hlearn.trans hback, hrespelling, ?_, lift g.confidence w g, ?_, (lift_keeps _ w g).2.1,
    ?_⟩
  · show ((e₁.groups.map (lift g.confidence w)).map (·.number)).Nodup
    rw [numbers_map fun k => (lift_keeps g.confidence w k).1, hgroups₁]
    exact hnodup
  · show (e₁.groups.map (lift g.confidence w)).find? (·.number == number) = _
    rw [List.find?_map, hgroups₁]
    have hsame : ((fun k : Group => k.number == number) ∘ lift g.confidence w) =
        fun k => k.number == number := by
      funext k
      rw [Function.comp_apply, (lift_keeps g.confidence w k).1]
    rw [hsame]
    exact congrArg (Option.map _) hg
  · rw [Group.sub?, (lift_keeps g.confidence w g).2.2]
    exact hsub

/-- Words that follow one another within a sentence. -/
theorem queues_learnWords_followUps (time : Nat) (block : Bool) : ∀ (ws : List Text) {e : Engine}
    {g : Group} {c : Context}, (e.groups.map (·.number)).Nodup → e.group? number = some g →
    g.sub? .history = some h → e.RegularRespelling → c.isStart = false → (∀ w ∈ ws, w ≠ []) →
    Queues h.number (·.taught (g.followUps block time c.window
      (Tables.rowKey? (respelled e.respelling c).1) ws)) e
      (learnWords number time block e c false ws)
  | [], e, _, _, _, _, _, _, _, _ => Queues.refl h.number e
  | w :: ws, e, g, c, hnodup, hg, hsub, hregular, hstart, hws => by
    have hw : w ≠ [] := hws w List.mem_cons_self
    obtain ⟨hstep, hrespelling, hnodup', g', hg', hmain, hsub'⟩ :=
      learn_step hnodup hg hsub hw c false time block rfl
    obtain ⟨hregular', hwindow, hstart'⟩ :=
      Group.respells_keeps hregular hw g block c false
    have hnext : (e.learnWord g c w false time block).2 =
        (g.respells block e.respelling c false w).2 := by rw [learnWord_eq hsub]
    have hrest := queues_learnWords_followUps time block ws hnodup' hg' hsub'
      (fun s hs => hregular' s (hrespelling ▸ hs))
      (isStart_next_word (g.respells block e.respelling c false w).2 w)
      fun v hv => hws v (List.mem_cons_of_mem w hv)
    rw [hrespelling, rowKey?_respelled_next_of_not_isStart hregular' (hstart'.trans hstart) hw,
      Group.followUps_congr hmain] at hrest
    have hboth := hstep.append hrest
    unfold learnWords
    rw [hg, Option.getD_some]
    dsimp only
    rw [hnext, Group.followUps, ← Group.firstLesson?_of_not_isStart hregular hstart, ← hwindow]
    exact hboth

/-- **The words of a text** are learned as its lessons. -/
theorem queues_learnWords (hnodup : (e.groups.map (·.number)).Nodup)
    (hg : e.group? number = some g) (hsub : g.sub? .history = some h)
    (hregular : e.RegularRespelling) (c : Context) (auto : Bool) (time : Nat) (block : Bool)
    (hws : ∀ w ∈ ws, w ≠ []) :
    Queues h.number (·.taught (g.lessons block time e.respelling c auto ws)) e
      (learnWords number time block e c auto ws) := by
  cases ws with
  | nil => exact Queues.refl h.number e
  | cons w ws =>
    have hw : w ≠ [] := hws w List.mem_cons_self
    obtain ⟨hstep, hrespelling, hnodup', g', hg', hmain, hsub'⟩ :=
      learn_step hnodup hg hsub hw c auto time block rfl
    obtain ⟨hregular', hwindow, -⟩ :=
      Group.respells_keeps hregular hw g block c auto
    have hnext : (e.learnWord g c w auto time block).2 =
        (g.respells block e.respelling c auto w).2 := by rw [learnWord_eq hsub]
    have hrest := queues_learnWords_followUps time block ws hnodup' hg' hsub'
      (fun s hs => hregular' s (hrespelling ▸ hs))
      (isStart_next_word (g.respells block e.respelling c auto w).2 w)
      fun v hv => hws v (List.mem_cons_of_mem w hv)
    rw [hrespelling, Group.followUps_congr hmain] at hrest
    have hboth := hstep.append hrest
    unfold learnWords
    rw [hg, Option.getD_some]
    dsimp only
    rw [hnext, Group.lessons, Group.lessonsIn, Group.secondContext, ← hwindow]
    exact hboth

/-! ### A committed text -/

/-- The engine before the words of a text are learned: a single one has counted for the confidences
and for promotion. -/
def prepared (e : Engine) (text : Text) (auto : Bool) : Engine :=
  match Text.words text with
  | [w] => (e.adjustConfidences w auto).promote w auto
  | _ => e

/-- The group that learns a text. -/
def learner (e : Engine) (text : Text) (auto : Bool) : Group := (e.prepared text auto).preferred

theorem commit_eq (e : Engine) (text : Text) (auto : Bool) (c : Context) (time : Nat)
    (block : Bool) : e.commit text auto c time block =
      (learnWords (e.learner text auto).number time block (e.prepared text auto) c auto
        (Text.words text)).rememberSpelling text := rfl

theorem promote_cases (e : Engine) (w : Text) (auto : Bool) : e.promote w auto = e ∨
    ∃ m, (m, Origin.user) ∈ e.labels ∧ e.promote w auto = e.queueTask (.promote m w) := by
  unfold promote
  split_ifs
  · split
    · next m hm => exact .inr ⟨m, mem_labels_of_promotionTarget hm, rfl⟩
    · exact .inl rfl
  · exact .inl rfl

theorem prepared_cases (e : Engine) (text : Text) (auto : Bool) : e.prepared text auto = e ∨
    ∃ w, Text.words text = [w] ∧
      e.prepared text auto = (e.adjustConfidences w auto).promote w auto := by
  unfold prepared
  split
  · next w hw => exact .inr ⟨w, hw, rfl⟩
  · exact .inl rfl

theorem Commits.subs_eq (h : Commits ws e e') : e'.subs = e.subs := by
  obtain ⟨f, hf, hrelisted⟩ := h.groups
  unfold subs
  rw [hf, List.map_map]
  exact List.map_congr_left fun g _ => subs_of_relisted (hrelisted g)

theorem subs_adjustConfidences (e : Engine) (w : Text) (auto : Bool) :
    (e.adjustConfidences w auto).subs = e.subs :=
  (commits_adjustConfidences [] e w auto).subs_eq

theorem numbers_prepared (e : Engine) (text : Text) (auto : Bool) :
    (e.prepared text auto).groups.map (·.number) = e.groups.map (·.number) := by
  obtain heq | ⟨w, -, heq⟩ := prepared_cases e text auto
  · rw [heq]
  · rw [heq, groups_promote]
    exact (commits_adjustConfidences [w] e w auto).numbers_eq

theorem respelling_prepared (e : Engine) (text : Text) (auto : Bool) :
    (e.prepared text auto).respelling = e.respelling := by
  obtain heq | ⟨w, -, heq⟩ := prepared_cases e text auto
  · rw [heq]
  · have hadjust : (e.adjustConfidences w auto).respelling = e.respelling := by
      unfold adjustConfidences
      split_ifs <;> rfl
    obtain hsame | ⟨m, -, hqueued⟩ := promote_cases (e.adjustConfidences w auto) w auto
    · rw [heq, hsame, hadjust]
    · rw [heq, hqueued]
      exact hadjust

/-- Histories are not promoted to. -/
theorem queues_prepared (hsound : e.Consistent) (hn : (n, Origin.history) ∈ e.labels)
    (text : Text) (auto : Bool) : Queues n id e (e.prepared text auto) := by
  obtain heq | ⟨w, -, heq⟩ := prepared_cases e text auto
  · rw [heq]
    exact Queues.refl n e
  · have hsubs := subs_adjustConfidences e w auto
    have hqueue : (e.adjustConfidences w auto).queue = e.queue := by
      unfold adjustConfidences
      split_ifs <;> rfl
    have hlabels : (e.adjustConfidences w auto).labels = e.labels := by
      rw [labels, (commits_adjustConfidences [w] e w auto).stores_eq, labels]
    obtain hsame | ⟨m, hm, hqueued⟩ := promote_cases (e.adjustConfidences w auto) w auto
    · rw [heq, hsame]
      exact queues_of_forall hsubs [] hqueue fun t ht => absurd ht List.not_mem_nil
    · rw [heq, hqueued]
      refine queues_of_forall hsubs [.promote m w] ?_ fun t ht => ?_
      · show (e.adjustConfidences w auto).queue.push _ = _
        rw [hqueue]
        rfl
      · rw [List.mem_singleton.mp ht]
        intro hmn
        obtain rfl := Option.some.inj hmn
        obtain ⟨s, hs, hsn, hso⟩ := mem_labels_iff.mp hn
        obtain ⟨u, hu, hun, huo⟩ := mem_labels_iff.mp (hlabels ▸ hm)
        rw [hsound.eq_of_number hs hu (hsn.trans hun.symm), huo] at hso
        exact absurd hso (by decide)

theorem mem_prepared_of_sub? {o : Origin}
    (hsub : (e.learner text auto).sub? o = some h) :
    e.learner text auto ∈ (e.prepared text auto).groups := by
  unfold learner preferred at hsub ⊢
  rcases hg : preferredGroup (e.prepared text auto).groups with _ | g
  · rw [hg] at hsub
    exact nomatch hsub
  · exact mem_of_preferredGroup hg

/-- The history that learns a text is one of the histories. -/
theorem mem_histories_of_learner (hsub : (e.learner text auto).sub? .history = some h) :
    h ∈ e.histories := by
  obtain ⟨hmem, horigin⟩ := Group.mem_of_sub? hsub
  have hsubs : (e.learner text auto).subs ∈ (e.prepared text auto).subs :=
    List.mem_map_of_mem (mem_prepared_of_sub? hsub)
  have hsame : (e.prepared text auto).subs = e.subs := by
    obtain heq | ⟨w, -, heq⟩ := prepared_cases e text auto
    · rw [heq]
    · rw [heq, subs, groups_promote]
      exact subs_adjustConfidences e w auto
  exact List.mem_filter.mpr
    ⟨List.mem_flatten.mpr ⟨_, hsame ▸ hsubs, hmem⟩, beq_iff_eq.mpr horigin⟩

theorem mem_labels_of_mem_histories (hh : h ∈ e.histories) :
    (h.number, Origin.history) ∈ e.labels := by
  obtain ⟨hflat, horigin⟩ := List.mem_filter.mp hh
  obtain ⟨ss, hss, hmem⟩ := List.mem_flatten.mp hflat
  exact mem_labels_iff.mpr ⟨h, mem_stores_of_subs hss hmem, rfl, beq_iff_eq.mp horigin⟩

theorem nodup_prepared (h : e.Numbered) (text : Text) (auto : Bool) :
    ((e.prepared text auto).groups.map (·.number)).Nodup :=
  numbers_prepared e text auto ▸ h.distinct

theorem group?_learner (hnumbered : e.Numbered)
    (hsub : (e.learner text auto).sub? .history = some h) :
    (e.prepared text auto).group? (e.learner text auto).number = some (e.learner text auto) := by
  have hprepared : ({ e.prepared text auto with nextNumber := e.nextNumber } : Engine).Numbered :=
    ⟨nodup_prepared hnumbered text auto, numbers_prepared e text auto ▸ hnumbered.below⟩
  exact group?_of_mem hprepared (mem_prepared_of_sub? hsub)

/-- **A committed text** queues its lessons for the history of the group that learns it. -/
theorem queues_commit (hsound : e.Consistent) (hregular : e.RegularRespelling)
    (hsub : (e.learner text auto).sub? .history = some h) (c : Context) (time : Nat)
    (block : Bool) :
    Queues h.number (·.taught ((e.learner text auto).lessons block time e.respelling c auto
      (Text.words text))) e (e.commit text auto c time block) := by
  have hlabel := mem_labels_of_mem_histories (mem_histories_of_learner hsub)
  have hpending := respelling_prepared e text auto
  have hwords : ∀ w ∈ Text.words text, w ≠ [] := fun w hw => ne_nil_of_mem_words hw
  have hlearned := queues_learnWords (nodup_prepared hsound.toNumbered text auto)
    (group?_learner hsound.toNumbered hsub) hsub (fun s hs => hregular s (hpending ▸ hs)) c auto
    time block hwords
  rw [hpending] at hlearned
  have hboth := (queues_prepared hsound hlabel text auto).trans hlearned
  rw [commit_eq]
  exact ⟨hboth.subs, hboth.queue⟩

/-! ### Regular respellings -/

theorem regular_learnWord (hregular : e.RegularRespelling) (hw : w ≠ []) (g : Group) (c : Context)
    (auto : Bool) (time : Nat) (block : Bool) :
    (e.learnWord g c w auto time block).1.RegularRespelling := by
  rcases hsub : g.sub? .history with _ | h
  · unfold learnWord
    rw [hsub]
    exact hregular
  · rw [learnWord_eq hsub]
    exact (Group.respells_keeps hregular hw g block c auto).1

theorem regular_learnWords (number time : Nat) (block : Bool) : ∀ (ws : List Text) {e : Engine}
    (c : Context) (auto : Bool), (e.groups.map (·.number)).Nodup → e.RegularRespelling →
    (∀ w ∈ ws, w ≠ []) → (learnWords number time block e c auto ws).RegularRespelling
  | [], _, _, _, _, hregular, _ => hregular
  | w :: ws, e, c, auto, hnodup, hregular, hws => by
    have hlearned := regular_learnWord hregular (hws w List.mem_cons_self)
      ((e.group? number).getD default) c auto time block
    have hgroups := groups_learnWord e ((e.group? number).getD default) c w auto time block
    have hnodup₁ := hgroups ▸ hnodup
    obtain ⟨ts, -, hlifted⟩ := unblacklist_eq
      (e := (e.learnWord ((e.group? number).getD default) c w auto time block).1) hnodup₁
      ((e.group? number).getD default).confidence w
    unfold learnWords
    dsimp only
    refine regular_learnWords number time block ws _ false ?_ ?_ fun v hv =>
      hws v (List.mem_cons_of_mem w hv)
    · rw [hlifted]
      show ((_ : List Group).map (·.number)).Nodup
      rw [numbers_map fun k => (lift_keeps _ w k).1]
      exact hnodup₁
    · rw [hlifted]
      exact hlearned

theorem RegularRespelling.commit (hnodup : (e.groups.map (·.number)).Nodup)
    (hregular : e.RegularRespelling) (text : Text) (auto : Bool) (c : Context) (time : Nat)
    (block : Bool) : (e.commit text auto c time block).RegularRespelling := by
  have hpending := respelling_prepared e text auto
  rw [commit_eq]
  exact regular_learnWords _ time block _ c auto (numbers_prepared e text auto ▸ hnodup)
    (fun s hs => hregular s (hpending ▸ hs)) fun w hw => ne_nil_of_mem_words hw

theorem Ran.respelling_eq {t : Task} (hran : e.Ran t e') : e'.respelling = e.respelling := by
  cases hran <;> rfl

/-- Nothing but a committed text makes a respelling. -/
theorem RegularRespelling.perform (horderly : e.Orderly) (hregular : e.RegularRespelling)
    (a : Action) : (e.perform a).RegularRespelling := by
  cases a with
  | reset r =>
    show (e.reset r).RegularRespelling
    have hopened := opened_built e r
    rw [reset_eq]
    unfold RegularRespelling
    show ∀ s ∈ (e.built r).engine.respelling, s.Regular
    rw [hopened.rest]
    exact hregular
  | close => exact hregular
  | restart => exact fun s hs => nomatch hs
  | setSettings s => exact hregular
  | clearPredictions => exact hregular
  | commit text auto c time block => exact hregular.commit horderly.distinct text auto c time block
  | unlearn w why =>
    obtain ⟨ts, -, heq⟩ := unlearn_eq e w why
    show (e.unlearn w why).RegularRespelling
    rw [heq]
    exact hregular
  | remove w =>
    show (e.removeWord w).RegularRespelling
    rw [removeWord_eq_map horderly.toNumbered]
    exact hregular
  | clearHistory => exact hregular
  | suggest r =>
    show (e.suggest r).2.RegularRespelling
    rcases suggest_eq e r with heq | heq
    · rw [heq]
      exact hregular
    · rw [heq, rememberNextWords_eq]
      exact hregular
  | predict c block =>
    show (e.rememberNextWords c block).RegularRespelling
    rw [rememberNextWords_eq]
    exact hregular
  | add place o w f =>
    show (e.addWord place o w f).RegularRespelling
    rcases addWord_cases e place o w f with heq | ⟨g, s, s', -, -, -, heq⟩
    · rw [heq]
      exact hregular
    · rw [heq]
      exact hregular
  | work =>
    show e.runNext.RegularRespelling
    rcases runNext_cases horderly.free with ⟨-, heq⟩ | ⟨q, rest, e', -, hran, -, heq⟩
    · rw [heq]
      exact hregular
    · rw [heq]
      exact fun s hs => hregular s (hran.respelling_eq ▸ hs)

/-- **Whatever happened**, a pending respelling is regular. -/
theorem regular_after (p : Provider) (s : Settings) (d : Disk) (as : List Action) :
    ((start p s d).after as).RegularRespelling := by
  have hrun : ∀ (as : List Action) (e : Engine), e.Orderly → e.RegularRespelling →
      (e.after as).RegularRespelling := by
    intro as
    induction as with
    | nil => exact fun e _ h => h
    | cons a as ih => exact fun e horderly h => ih _ (horderly.perform a) (h.perform horderly a)
  exact hrun as _ (orderly_start p s d) fun s hs => nomatch hs

/-! ### When all that waits is done -/

theorem uncancelled_pushAll (q : TaskQueue Task) (ts : List Task) :
    TaskQueue.uncancelled (q.pushAll ts).waiting = TaskQueue.uncancelled q.waiting ++ ts := by
  have hwaiting : (q.pushAll ts).waiting = q.waiting ++ ts.map (⟨·, false⟩) := by
    rw [TaskQueue.pushAll_eq]
    unfold TaskQueue.waiting
    rw [List.map_append, List.map_map]
    rfl
  have hall : TaskQueue.uncancelled (ts.map fun t => ⟨t, false⟩) = ts := by
    unfold TaskQueue.uncancelled
    rw [List.filter_eq_self.mpr (by simp), List.map_map]
    exact List.map_id _
  rw [hwaiting, TaskQueue.uncancelled_append, hall]

theorem number_foldl_did (ts : List Task) :
    ∀ s : Store, (ts.foldl Store.did s).number = s.number := by
  induction ts with
  | nil => exact fun _ => rfl
  | cons t ts ih => exact fun s => ih (s.did t)

theorem sound_foldl_did (ts : List Task) :
    ∀ {s : Store}, s.Sound → (ts.foldl Store.did s).Sound := by
  induction ts with
  | nil => exact fun hs => hs
  | cons t ts ih => exact fun hs => ih (Store.sound_did hs t)

/-- Nothing is done where nothing waits. -/
theorem drain_of_idle (hidle : e.queue.queued = []) : e.drain = e := by
  unfold drain TaskQueue.waiting
  rw [hidle]
  rfl

theorem histories_drain (hsound : e.Sound) : e.drain.histories =
    e.histories.map fun s => (TaskQueue.uncancelled e.queue.waiting).foldl Store.did s :=
  histories_eq_of_subs (origin_foldl_did _) (subs_drain hsound)

/-- What waits leaves the numbers of the histories. -/
theorem exists_mem_histories_drain (hsound : e.Sound) (hh : h ∈ e.histories) :
    ∃ s ∈ e.drain.histories, s.number = h.number := by
  rw [histories_drain hsound]
  exact ⟨_, List.mem_map_of_mem hh, number_foldl_did _ h⟩

theorem sound_of_mem_histories_drain (hsound : e.Sound) {s : Store}
    (hs : s ∈ e.drain.histories) : s.Sound := by
  rw [histories_drain hsound] at hs
  obtain ⟨u, hu, rfl⟩ := List.mem_map.mp hs
  exact sound_foldl_did _ (sound_of_mem_histories hsound.toConsistent hu)

/-- **The histories** when all that waits is done: what was queued is done after the rest. -/
theorem Queues.histories (hq : Queues n f e e') (hsound : e.Sound) (hsound' : e'.Sound) :
    ∃ k : Store → Store, e'.drain.histories = e.drain.histories.map k ∧
      ∀ s ∈ e.drain.histories,
        (k s).number = s.number ∧ (s.number = n → k s = s.withTables (f s.tables)) := by
  obtain ⟨ts, hts, hf⟩ := hq.queue
  refine ⟨fun s => ts.foldl Store.did s, ?_, fun s hs => ⟨number_foldl_did ts s, fun hn => ?_⟩⟩
  · rw [histories_drain hsound', hq.histories_eq, histories_drain hsound, List.map_map, hts,
      uncancelled_pushAll]
    refine List.map_congr_left fun s _ => ?_
    rw [List.foldl_append, Function.comp_apply]
  · refine (Store.foldl_did ts (sound_of_mem_histories_drain hsound hs)).trans ?_
    rw [hn, hf]

/-! ### A single locale -/

theorem learner_of_single (hone : e.groups = [g]) (text : Text) (auto : Bool) :
    e.learner text auto = g := by
  have hgroups : (e.prepared text auto).groups = [g] := by
    obtain heq | ⟨w, -, heq⟩ := prepared_cases e text auto
    · rw [heq, hone]
    · rw [heq, groups_promote, adjustConfidences, if_pos (by rw [hone]; rfl), hone]
  rw [learner, preferred, hgroups]
  rfl

theorem subs_commit (h : e.Numbered) (text : Text) (auto : Bool) (c : Context) (time : Nat)
    (block : Bool) : (e.commit text auto c time block).subs = e.subs := by
  obtain ⟨e', hcommits, heq⟩ := commits_commit h text auto c time block
  rw [heq]
  exact hcommits.subs_eq

theorem sound_commit (hsound : e.Sound) (text : Text) (auto : Bool) (c : Context) (time : Nat)
    (block : Bool) : (e.commit text auto c time block).Sound :=
  hsound.perform (.commit text auto c time block)

theorem ne_nil_of_words (hw : Text.words w = [w]) : w ≠ [] :=
  ne_nil_of_mem_words (hw.symm ▸ List.mem_singleton_self w : w ∈ Text.words w)

/-- The only history of an engine with one group is the group's. -/
theorem mem_histories_iff (hsound : e.Consistent) (hone : e.groups = [g]) {s : Store} :
    s ∈ e.histories ↔ g.sub? .history = some s := by
  have hmem : s ∈ e.histories ↔ s ∈ g.subs ∧ s.origin = .history := by
    simp [histories, subs, hone]
  rw [hmem]
  constructor
  · rintro ⟨hs, horigin⟩
    rw [← horigin]
    exact Group.sub?_of_mem (hsound.soundGroups g (by simp [hone])) hs
  · exact Group.mem_of_sub?

theorem histories_of_single (hsound : e.Consistent) (hone : e.groups = [g])
    (hsub : g.sub? .history = some h) : e.histories = [h] := by
  have hnodup : e.histories.Nodup := by
    have horigins := (hsound.soundGroups g (by simp [hone])).distinct
    have hflat : e.subs.flatten = g.subs := by simp [subs, hone]
    rw [histories, hflat]
    exact (List.Nodup.of_map _ horigins).filter _
  refine List.perm_singleton.mp
    ((List.perm_ext_iff_of_nodup hnodup (List.nodup_singleton h)).mpr fun s => ?_)
  rw [mem_histories_iff hsound hone, hsub, List.mem_singleton, Option.some.injEq, eq_comm]

theorem histories_eq_nil_iff (hsound : e.Consistent) (hone : e.groups = [g]) :
    e.histories = [] ↔ g.sub? .history = none := by
  rw [List.eq_nil_iff_forall_not_mem, Option.eq_none_iff_forall_not_mem]
  exact forall_congr' fun s => not_congr (mem_histories_iff hsound hone)

theorem histories_drain_of_nil (hsound : e.Sound) (hnone : e.histories = []) :
    e.drain.histories = [] := by
  rw [histories_drain hsound, hnone]
  rfl

/-- **The history of a single group** when all that waits is done. -/
theorem Queues.histories_of_single (hq : Queues h.number f e e') (hsound : e.Sound)
    (hsound' : e'.Sound) (hone : e.groups = [g]) (hsub : g.sub? .history = some h) :
    e'.drain.histories = e.drain.histories.map fun s => s.withTables (f s.tables) := by
  obtain ⟨k, hmap, hk⟩ := hq.histories hsound hsound'
  rw [hmap]
  refine List.map_congr_left fun s hs => (hk s hs).2 ?_
  rw [histories_drain hsound] at hs
  obtain ⟨u, hu, rfl⟩ := List.mem_map.mp hs
  have hfound := (mem_histories_iff hsound.toConsistent hone).mp hu
  rw [hsub] at hfound
  rw [Option.some.inj hfound]
  exact number_foldl_did _ u

theorem histories_commit_of_single (hsound : e.Sound) (hregular : e.RegularRespelling)
    (hone : e.groups = [g]) (hsub : g.sub? .history = some h) (text : Text) (auto : Bool)
    (c : Context) (time : Nat) (block : Bool) :
    (e.commit text auto c time block).drain.histories = e.drain.histories.map fun s =>
      s.withTables (s.tables.taught
        (g.lessons block time e.respelling c auto (Text.words text))) := by
  have hlearner : e.learner text auto = g := learner_of_single hone text auto
  have hqueues := queues_commit hsound.toConsistent hregular (hlearner ▸ hsub) c time block
  rw [hlearner] at hqueues
  exact hqueues.histories_of_single hsound (sound_commit hsound text auto c time block) hone hsub

end Engine

end Typeahead
