import Typeahead.Proofs.Engine.Blocked
import Typeahead.Proofs.Engine.Mains
import Typeahead.Proofs.Engine.Unlearned

/-! # Words that become the user's own

With a single group, a committed text changes the history by its lessons and may add its only word
to the user's own words; nothing else of the dictionaries changes (`Alone.enter`). Whether it does
is settled by the frequency that the history has before the text itself is learned
(`Alone.queues_own`). So a word that no dictionary knows goes through stages (`Stage`): each use of
it leads to the next one, and texts that avoid it leave the stage. It is one of the user's own words
from its fifth use on (`promoted_iff`). -/

namespace Typeahead

/-- What is committed at a time, and how. -/
structure Commit where
  text : Text
  auto : Bool := false
  context : Context
  time : Nat
  block : Bool := true
  deriving DecidableEq, Repr

namespace Commit

/-- The text is the word alone, as it is, within a sentence. -/
def Uses (k : Commit) (w : Text) : Prop :=
  Text.words k.text = [w] ∧ k.auto = false ∧ k.context.isStart = false

/-- No word of the text is the word in any case. -/
def Avoids (k : Commit) (w : Text) : Prop := ∀ v ∈ Text.words k.text, Text.lower v ≠ Text.lower w

variable {k : Commit} {w : Text}

instance : Decidable (k.Uses w) := inferInstanceAs (Decidable (_ ∧ _ ∧ _))

instance : Decidable (k.Avoids w) := inferInstanceAs (Decidable (∀ v ∈ Text.words k.text, _))

theorem Avoids.words_ne (h : k.Avoids w) : Text.words k.text ≠ [w] :=
  fun hw => h w (hw ▸ List.mem_singleton_self w) rfl

theorem Avoids.not_uses (h : k.Avoids w) : ¬ k.Uses w := fun hu => h.words_ne hu.1

end Commit

/-! ### How often a word was used -/

namespace Tables

variable {t : Tables} {ls : List Lesson} {n : Nat} {w : Text}

/-- The word was used `n` times, and its frequency is due to that alone. -/
structure UsedTimes (n : Nat) (w : Text) (t : Tables) : Prop where
  uses : t.uses w = bump^[n] none
  frequency : ∀ e, t.words.get? w = some e → e.frequency = historyFrequency e.count

theorem usedTimes_zero (h : t.words.has w = false) : UsedTimes 0 w t := by
  have hnone : t.words.get? w = none := by
    rw [WordMap.has_eq] at h
    exact Option.not_isSome_iff_eq_none.mp (Bool.eq_false_iff.mp h)
  refine ⟨?_, fun e he => ?_⟩
  · rw [uses, hnone]
    rfl
  · rw [hnone] at he
    exact absurd he.symm (Option.some_ne_none e)

/-- The frequency of a word does not fall with one more use. -/
theorem historyFrequency_le (count : Nat) :
    historyFrequency count ≤ historyFrequency (addCounts count 1) := by
  unfold historyFrequency addCounts countLimit
  omega

theorem frequency_teach (ht : t.words.Sorted)
    (h : ∀ e, t.words.get? w = some e → e.frequency = historyFrequency e.count) (l : Lesson) :
    ∀ e, (t.teach l).words.get? w = some e → e.frequency = historyFrequency e.count := by
  intro e he
  replace he : (t.words.alter l.form _).get? w = some e := he
  rw [WordMap.get?_alter ht] at he
  split_ifs at he with hw
  · obtain rfl := Option.some.inj he
    show max _ (historyFrequency _) = historyFrequency _
    refine Nat.max_eq_right ?_
    rcases hold : t.words.get? l.form with _ | old
    · exact Nat.zero_le _
    · rw [Option.getD_some, h old (hw ▸ hold)]
      exact historyFrequency_le old.count
  · exact h e he

/-- **Lessons** about a word are counted. -/
theorem UsedTimes.taught (h : t.UsedTimes n w) (ht : t.Sound) (hls : ∀ l ∈ ls, l.row ≠ some []) :
    (t.taught ls).UsedTimes (ls.countP (·.form = w) + n) w := by
  refine ⟨?_, ?_⟩
  · rw [uses_taught hls ht, h.uses, Function.iterate_add_apply]
  · induction ls using List.reverseRecOn with
    | nil => exact h.frequency
    | append_singleton ls l ih =>
      have hinit : ∀ l ∈ ls, l.row ≠ some [] := fun l hl => hls l (List.mem_append_left _ hl)
      rw [taught_concat]
      exact frequency_teach (Sound.taught hinit ht).words (ih hinit) l

/-- **The frequency** of a word is high enough from its fourth use on. -/
theorem UsedTimes.promotes_iff (h : t.UsedTimes n w) :
    Engine.promotionFrequency < ((t.words.get? w).map fun e => (e.frequency : Int)).getD (-1) ↔
      4 ≤ n := by
  have huses := h.uses
  unfold Tables.uses at huses
  rcases hw : t.words.get? w with _ | e
  · rw [hw] at huses
    cases n with
    | zero => decide
    | succ n =>
      rw [iterate_bump] at huses
      exact nomatch huses
  · rw [hw] at huses
    rw [Option.map_some, Option.getD_some, h.frequency e hw]
    cases n with
    | zero => exact nomatch huses
    | succ n =>
      rw [iterate_bump] at huses
      have hcount : e.count = min (0 + n + 1) countLimit := Option.some.inj huses
      rw [hcount]
      unfold historyFrequency countLimit Engine.promotionFrequency
      omega

end Tables

/-! ### What a text teaches about a word -/

namespace Group

variable {g : Group} {k : Commit} {p : Option Respelling} {w : Text}

/-- The lessons of a committed text, while a respelling may be pending. -/
def lessonsOf (g : Group) (p : Option Respelling) (k : Commit) : List Lesson :=
  g.lessons k.block k.time p k.context k.auto (Text.words k.text)

theorem row_ne_of_mem_lessonsOf (g : Group) (p : Option Respelling) (k : Commit) :
    ∀ l ∈ g.lessonsOf p k, l.row ≠ some [] :=
  row_ne_of_mem_lessonsIn (fun _ hw => Engine.ne_nil_of_mem_words hw) g k.block k.time p k.context
    k.auto _

/-- The main dictionary has no frequency for the word, nor for its lower-case form. -/
structure MainLacks (g : Group) (w : Text) : Prop where
  word : g.mainFrequency w = -1
  lower : g.mainFrequency (Text.lower w) = -1

theorem formOf_of_mainLacks (h : g.MainLacks w) : g.formOf false w = w := by
  have hsame : ¬ (g.mainFrequency w < g.mainFrequency (Text.lower w) &&
      Engine.lowerCaseFrequency ≤ g.mainFrequency (Text.lower w)) = true := by
    rw [h.word, h.lower]
    decide
  exact congrArg Prod.fst (if_neg hsame)

/-- **A use** of a word that the main dictionary lacks is one lesson about it. -/
theorem countP_lessonsOf_of_uses (hp : ∀ s ∈ p, s.Regular) (hk : k.Uses w)
    (hmain : g.MainLacks w) : (g.lessonsOf p k).countP (·.form = w) = 1 := by
  obtain ⟨hwords, hauto, hstart⟩ := hk
  have hblocks : g.blocks k.block w = false := by
    rw [blocks, hmain.word]
    rfl
  rw [lessonsOf, hwords, hauto, lessons, lessonsIn, followUps, List.append_nil,
    firstLesson?_of_not_isStart hp hstart, lesson?, hblocks, formOf_of_mainLacks hmain]
  exact List.countP_singleton.trans (if_pos (decide_eq_true rfl))

/-- A text that avoids a word teaches nothing about it. -/
theorem countP_lessonsOf_of_avoids (hp : ∀ s ∈ p, s.Regular) (hk : k.Avoids w) :
    (g.lessonsOf p k).countP (·.form = w) = 0 := by
  rw [List.countP_eq_zero]
  intro l hl hform
  have hmem := List.mem_map_of_mem (f := (·.form)) hl
  rw [of_decide_eq_true hform] at hmem
  obtain ⟨i, v, hi, -, hv⟩ := (mem_forms_lessons hp).mp hmem
  exact hk v (List.mem_of_getElem? hi) (hv ▸ (g.lower_formOf _ v).symm)

end Group

namespace Engine

variable {e e' : Engine} {n : Nat} {f : Tables → Tables} {g : Group} {own past s : Store}
  {w text : Text} {auto block : Bool} {time : Nat} {k : Commit}

/-! ### Stores that are no histories -/

theorem mem_histories (hg : g ∈ e.groups) (hsub : g.sub? .history = some s) : s ∈ e.histories := by
  obtain ⟨hmem, horigin⟩ := Group.mem_of_sub? hsub
  exact List.mem_filter.mpr
    ⟨List.mem_flatten.mpr ⟨_, List.mem_map_of_mem hg, hmem⟩, beq_iff_eq.mpr horigin⟩

theorem queues_learnWord_of_ne (hn : ∀ s, g.sub? .history = some s → s.number ≠ n) (e : Engine)
    (c : Context) (w : Text) (auto : Bool) (time : Nat) (block : Bool) :
    Queues n id e (e.learnWord g c w auto time block).1 := by
  rcases hsub : g.sub? .history with _ | s
  · unfold learnWord
    rw [hsub]
    exact Queues.refl n e
  · rw [learnWord_eq hsub]
    refine queues_of_forall rfl _ rfl fun t ht => ?_
    obtain ⟨l, -, rfl⟩ := List.mem_map.mp ht
    exact fun hsame => hn s hsub (Option.some.inj hsame)

/-- What words are learned from is queued for histories only. -/
theorem queues_learnWords_of_ne (number time : Nat) (block : Bool) : ∀ (ws : List Text)
    {e : Engine} (c : Context) (auto : Bool), (e.groups.map (·.number)).Nodup →
    (∀ s ∈ e.histories, s.number ≠ n) → Queues n id e (learnWords number time block e c auto ws)
  | [], e, _, _, _, _ => Queues.refl n e
  | w :: ws, e, c, auto, hnodup, hn => by
    obtain ⟨g, hg⟩ : ∃ g, (e.group? number).getD default = g := ⟨_, rfl⟩
    have hlearned : Queues n id e (e.learnWord g c w auto time block).1 := by
      refine queues_learnWord_of_ne (fun s hs => ?_) e c w auto time block
      obtain hmem | hsubs := hg ▸ group?_getD e number
      · exact hn s (mem_histories hmem hs)
      · rw [Group.sub?, hsubs, List.find?_nil] at hs
        exact absurd hs.symm (Option.some_ne_none s)
    have hnodup' : ((e.learnWord g c w auto time block).1.groups.map (·.number)).Nodup :=
      groups_learnWord e g c w auto time block ▸ hnodup
    have hlifted := queues_unblacklist (n := n) hnodup' g.confidence w
    have hboth := hlearned.trans hlifted
    have hnumbers : (((e.learnWord g c w auto time block).1.unblacklist
        g.confidence w).groups.map (·.number)).Nodup := by
      rw [groups_unblacklist hnodup', numbers_map fun k => (lift_keeps g.confidence w k).1]
      exact hnodup'
    unfold learnWords
    dsimp only
    rw [hg]
    exact hboth.trans (queues_learnWords_of_ne number time block ws _ false hnumbers
      fun s hs => hn s (hboth.histories_eq ▸ hs))

/-- **What a text queues** for a store that is no history is queued before any word is learned. -/
theorem Queues.commit (hq : Queues n f e (e.prepared text auto)) (hnumbered : e.Numbered)
    (hn : ∀ s ∈ e.histories, s.number ≠ n) (c : Context) (time : Nat) (block : Bool) :
    Queues n f e (e.commit text auto c time block) := by
  have hlearned := queues_learnWords_of_ne (n := n) (e.learner text auto).number time block
    (Text.words text) c auto (nodup_prepared hnumbered text auto)
    fun s hs => hn s (hq.histories_eq ▸ hs)
  have hboth := hq.trans hlearned
  rw [commit_eq]
  exact ⟨hboth.subs, hboth.queue⟩

/-! ### Promotion in a single group -/

/-- The word is to be one of the user's own: no dictionary vouches for it, but the history knows it
well. -/
def Adopts (g : Group) (own past : Store) (w : Text) : Prop :=
  1 < w.length ∧ g.isValid w = false ∧ own.contains w = false ∧
    promotionFrequency < past.frequency w

instance : Decidable (Adopts g own past w) := inferInstanceAs (Decidable (_ ∧ _ ∧ _ ∧ _))

theorem promotionTarget_singleton (hown : g.sub? .user = some own)
    (hpast : g.sub? .history = some past) (w : Text) :
    promotionTarget [g] w = if Adopts g own past w then some own.number else none := by
  unfold promotionTarget clearlyPreferredGroup
  dsimp only
  rw [hown, hpast]
  dsimp only
  by_cases hadopts : Adopts g own past w
  · obtain ⟨hlength, hvalid, hnew, hfrequency⟩ := hadopts
    rw [if_neg (Nat.not_le.mpr hlength), hvalid, hnew, Bool.false_or, Bool.false_or,
      if_neg (by simpa using hfrequency), if_pos ⟨hlength, hvalid, hnew, hfrequency⟩]
  · rw [if_neg hadopts]
    split_ifs with hlength hknown
    · rfl
    · rfl
    · simp only [Bool.or_eq_true, decide_eq_true_eq, not_or, Bool.not_eq_true,
        Int.not_le] at hknown
      exact absurd ⟨Nat.not_le.mp hlength, hknown.1.1, hknown.1.2, hknown.2⟩ hadopts

/-- A committed text makes its only word one of the user's own. -/
structure Promotes (e : Engine) (g : Group) (own past : Store) (k : Commit) (w : Text) : Prop where
  words : Text.words k.text = [w]
  settings : e.settings.promotesWords = true
  auto : k.auto = false
  adopts : Adopts g own past w

/-- **A single group** and its stores, while nothing waits. -/
structure Alone (e : Engine) (g : Group) (own past : Store) : Prop where
  sound : e.Sound
  regular : e.RegularRespelling
  idle : e.queue.queued = []
  groups : e.groups = [g]
  hasOwn : g.sub? .user = some own
  hasPast : g.sub? .history = some past

namespace Alone

variable (h : e.Alone g own past)
include h

theorem soundGroup : g.Sound :=
  h.sound.soundGroups g (h.groups ▸ List.mem_singleton_self g)

theorem mem_stores {o : Origin} (hs : g.sub? o = some s) : s ∈ e.stores :=
  mem_stores_of_mem_subs (h.groups ▸ List.mem_singleton_self g) (Group.mem_of_sub? hs).1

theorem soundStore {o : Origin} (hs : g.sub? o = some s) : s.Sound :=
  h.sound.soundStores s (h.mem_stores hs)

/-- Stores of other origins have other numbers. -/
theorem number_ne {o o' : Origin} {u : Store} (ho : o ≠ o') (hs : g.sub? o = some s)
    (hu : g.sub? o' = some u) : s.number ≠ u.number := by
  intro hn
  have hsame := h.sound.eq_of_number (h.mem_stores hs) (h.mem_stores hu) hn
  exact ho ((Group.mem_of_sub? hs).2.symm.trans (hsame ▸ (Group.mem_of_sub? hu).2))

/-- **Before a text is learned**, its word is queued for the user's own words, or nothing
happens. -/
theorem prepared_cases (k : Commit) :
    (∃ w, Promotes e g own past k w ∧
      e.prepared k.text k.auto = e.queueTask (.promote own.number w)) ∨
    (e.prepared k.text k.auto = e ∧ ∀ w, ¬ Promotes e g own past k w) := by
  have hhas : e.hasPrimaryHistory = true := by
    unfold hasPrimaryHistory Group.has
    rw [h.groups, List.head?_cons, Option.any_some, h.hasPast, beq_self_eq_true]
    rfl
  have hadjust (w : Text) : e.adjustConfidences w k.auto = e := by
    unfold adjustConfidences
    rw [h.groups]
    rfl
  unfold prepared
  split
  · next w hw =>
    rw [hadjust, promote, hhas, h.groups, promotionTarget_singleton h.hasOwn h.hasPast]
    by_cases hpromotes : Promotes e g own past k w
    · refine .inl ⟨w, hpromotes, ?_⟩
      rw [hpromotes.settings, hpromotes.auto, if_pos hpromotes.adopts]
      rfl
    · refine .inr ⟨?_, fun v hv => ?_⟩
      · split_ifs with hopen hadopts
        · simp only [Bool.and_eq_true, Bool.not_eq_true'] at hopen
          exact absurd ⟨hw, hopen.1.1, hopen.2, hadopts⟩ hpromotes
        · rfl
        · rfl
      · obtain rfl : w = v := (List.cons.inj (hw.symm.trans hv.words)).1
        exact hpromotes hv
  · next hmany => exact .inr ⟨rfl, fun w hw => hmany w hw.words⟩

/-- **What a text queues for the user's own words**. -/
theorem queues_own (k : Commit) : ∃ f : Tables → Tables,
    Queues own.number f e (e.prepared k.text k.auto) ∧ ∀ t : Tables, t.Sound → ∀ w,
      (f t).words.has w = true ↔ t.words.has w = true ∨ Promotes e g own past k w := by
  obtain ⟨v, hv, heq⟩ | ⟨heq, hnone⟩ := h.prepared_cases k
  · have hne : v ≠ [] := List.ne_nil_of_length_pos (Nat.lt_of_lt_of_le Nat.one_pos hv.adopts.1.le)
    refine ⟨(·.add v userFrequency), ?_, fun t ht w => ?_⟩
    · rw [heq]
      exact ⟨rfl, [.promote own.number v], rfl, fun t => if_pos ⟨rfl, hne⟩⟩
    · rw [Tables.has_words_add ht, Bool.or_eq_true, beq_iff_eq, or_comm]
      refine or_congr_right ⟨fun hw => hw ▸ hv, fun hw => ?_⟩
      exact (List.cons.inj (hw.words.symm.trans hv.words)).1
  · refine ⟨id, ?_, fun t _ w => ?_⟩
    · rw [heq]
      exact Queues.refl own.number e
    · rw [id, or_iff_left (hnone w)]

/-- For contacts nothing is queued. -/
theorem queues_contacts (k : Commit) (hs : g.sub? .contacts = some s) :
    Queues s.number id e (e.prepared k.text k.auto) := by
  obtain ⟨v, -, heq⟩ | ⟨heq, -⟩ := h.prepared_cases k
  · rw [heq]
    refine queues_of_forall rfl [.promote own.number v] rfl fun t ht => ?_
    rw [List.mem_singleton.mp ht]
    exact fun hn => h.number_ne (by decide) h.hasOwn hs (Option.some.inj hn)
  · rw [heq]
    exact Queues.refl s.number e

end Alone

/-! ### A text and all that waits then -/

/-- The engine after a text was committed. -/
def committed (e : Engine) (k : Commit) : Engine :=
  e.commit k.text k.auto k.context k.time k.block

/-- The engine after a text was committed and all that waits was done. -/
def enter (e : Engine) (k : Commit) : Engine := (e.committed k).drain

theorem settings_committed (hnumbered : e.Numbered) (k : Commit) :
    (e.committed k).settings = e.settings := by
  obtain ⟨e', hcommits, heq⟩ := commits_commit hnumbered k.text k.auto k.context k.time k.block
  rw [committed, heq]
  show e'.settings = e.settings
  rw [hcommits.rest]

theorem Ran.settings_eq {t : Task} (hran : e.Ran t e') : e'.settings = e.settings := by
  cases hran <;> rfl

theorem settings_runNext (hfree : e.queue.running = none) : e.runNext.settings = e.settings := by
  rcases runNext_cases hfree with ⟨-, heq⟩ | ⟨q, rest, e', -, hran, -, heq⟩
  · rw [heq]
  · rw [heq]
    exact hran.settings_eq

theorem settings_drain (hsound : e.Sound) : e.drain.settings = e.settings :=
  (drain_induction (P := fun k => k.settings = e.settings)
    (fun _ hk hsame => (settings_runNext hk.free).trans hsame) hsound rfl).1

theorem RegularRespelling.drain (h : e.RegularRespelling) (hsound : e.Sound) :
    e.drain.RegularRespelling :=
  (drain_induction (fun _ hk hregular => hregular.perform hk.toOrderly .work) hsound h).1

/-- **What was queued for a store** is what becomes of it, where nothing else waits. -/
theorem Queues.foldl_did (h : Queues s.number f e e') (hidle : e.queue.queued = [])
    (hs : s.Sound) :
    (TaskQueue.uncancelled e'.queue.waiting).foldl Store.did s = s.withTables (f s.tables) := by
  obtain ⟨ts, hts, hf⟩ := h.queue
  have hnone : TaskQueue.uncancelled e.queue.waiting = [] := by
    unfold TaskQueue.waiting
    rw [hidle]
    rfl
  rw [hts, uncancelled_pushAll, hnone, List.nil_append, Store.foldl_did ts hs, hf]

namespace Alone

variable (h : e.Alone g own past)
include h

theorem group_enter (k : Commit) : ∃ g', (e.enter k).groups = [g'] ∧ g'.main = g.main ∧
    ∀ o f, (∀ s ∈ g.sub? o, Queues s.number f e (e.committed k)) →
      g'.sub? o = (g.sub? o).map fun s => s.withTables (f s.tables) := by
  have hsound : (e.committed k).Sound := sound_commit h.sound _ _ _ _ _
  have hedits : e.Edits (Text.words k.text) (e.committed k) :=
    edits_commit h.sound.toOrderly _ _ _ _ _
  have hnone : e.NoLoads := fun q hq => absurd (h.idle ▸ hq) List.not_mem_nil
  have hsubs := subs_drain hsound
  have hsame : (e.committed k).subs = [g.subs] := by
    rw [committed, subs_commit h.sound.toNumbered, subs, h.groups, List.map_singleton]
  rw [hsame, List.map_singleton] at hsubs
  obtain ⟨g', hg', hmap⟩ := List.map_eq_singleton_iff.mp hsubs
  refine ⟨g', hg', ?_, fun o f hq => ?_⟩
  · have hmains := mains_drain hsound (hnone.edits hedits)
    obtain ⟨f, hf, hkeeps⟩ := hedits.groups
    rw [hf, h.groups, hg'] at hmains
    exact (List.cons.inj hmains).1.trans (hkeeps g).main
  · rw [Group.sub?_map hmap fun s _ => origin_foldl_did _ s]
    exact Option.map_congr fun s hs => (hq s hs).foldl_did h.idle (h.soundStore hs)

/-- **What a text does** to a single group: the history learns its lessons, and its only word may
become one of the user's own. -/
theorem enter (k : Commit) : ∃ g' own' past', (e.enter k).Alone g' own' past' ∧
    (e.enter k).settings = e.settings ∧ g'.main = g.main ∧
    g'.sub? .contacts = g.sub? .contacts ∧
    past'.tables = past.tables.taught (g.lessonsOf e.respelling k) ∧
    ∀ w, own'.contains w = true ↔ own.contains w = true ∨ Promotes e g own past k w := by
  have hsound : (e.committed k).Sound := sound_commit h.sound _ _ _ _ _
  have hnumbered := h.sound.toNumbered
  have hlearner : e.learner k.text k.auto = g := learner_of_single h.groups k.text k.auto
  have hhistories : e.histories = [past] :=
    histories_of_single h.sound.toConsistent h.groups h.hasPast
  -- what is queued for a store of another origin is queued before any word is learned
  have hother {o : Origin} {s : Store} {f : Tables → Tables} (ho : .history ≠ o)
      (hs : g.sub? o = some s) (hq : Queues s.number f e (e.prepared k.text k.auto)) :
      Queues s.number f e (e.committed k) := by
    refine hq.commit hnumbered (fun u hu => ?_) k.context k.time k.block
    rw [hhistories, List.mem_singleton] at hu
    exact hu ▸ h.number_ne ho h.hasPast hs
  obtain ⟨g', hg', hmain, hsubs⟩ := h.group_enter k
  obtain ⟨f, hf, hadds⟩ := h.queues_own k
  have hown := hsubs .user f fun s hs =>
    Option.some.inj (h.hasOwn.symm.trans hs) ▸ hother (by decide) h.hasOwn hf
  have hpast := hsubs .history _ fun s hs => Option.some.inj (h.hasPast.symm.trans hs) ▸
    hlearner ▸ queues_commit h.sound.toConsistent h.regular (hlearner ▸ h.hasPast) k.context k.time
      k.block
  have hcontacts := hsubs .contacts id fun s hs => hother (by decide) hs (h.queues_contacts k hs)
  rw [h.hasOwn, Option.map_some] at hown
  rw [h.hasPast, Option.map_some] at hpast
  have halone : (e.enter k).Alone g' _ _ :=
    ⟨sound_drain hsound, (h.regular.commit hnumbered.distinct _ _ _ _ _).drain hsound,
      idle_drain hsound, hg', hown, hpast⟩
  refine ⟨g', _, _, halone, (settings_drain hsound).trans (settings_committed hnumbered k), hmain,
    hcontacts.trans ?_, rfl, fun w => ?_⟩
  · refine (Option.map_congr fun s hs => ?_).trans (congrFun Option.map_id _)
    exact Store.withTables_tables (h.soundStore hs)
  · rw [Store.contains_eq (halone.soundStore hown), Store.contains_eq (h.soundStore h.hasOwn)]
    exact hadds own.tables (h.soundStore h.hasOwn).tables w

end Alone

/-! ### Stages of a word -/

/-- **A stage** of a word that no dictionary of the group vouches for, after `n` uses. -/
structure Stage (w : Text) (n : Nat) (e : Engine) (g : Group) (own past : Store) : Prop
    extends Alone e g own past where
  promotes : e.settings.promotesWords = true
  length : 1 < w.length
  main : ∀ m, g.main = some m → m.isValid w = false
  lacks : g.MainLacks w
  contacts : ∀ s, g.sub? .contacts = some s → s.isValid w = false
  used : past.tables.UsedTimes n w
  owned : own.contains w = true ↔ 5 ≤ n

namespace Stage

/-- Before it is one of the user's own words, the group does not vouch for the word. -/
theorem isValid_eq_false (h : Stage w n e g own past) (hown : own.contains w = false) :
    g.isValid w = false := by
  have hsubs : g.subs.any (·.isValid w) = false := by
    refine List.any_eq_false.mpr fun s hs => ?_
    have hsound : s.Sound := h.sound.soundStores s
      (mem_stores_of_mem_subs (h.groups ▸ List.mem_singleton_self g) hs)
    have hsub := Group.sub?_of_mem h.soundGroup hs
    have horigin := h.soundGroup.learned s hs
    simp only [Origin.learned, List.mem_cons, List.not_mem_nil, or_false] at horigin
    obtain ho | ho | ho := horigin
    · exact Bool.eq_false_iff.mp (h.contacts s (ho ▸ hsub))
    · exact Bool.eq_false_iff.mp (Store.isValid_history hsound ho w)
    · rw [ho, h.hasOwn] at hsub
      obtain rfl := Option.some.inj hsub
      unfold Store.isValid
      rw [hown, Bool.and_false]
      exact Bool.false_ne_true
  have hmain : g.main.any (·.isValid w) = false := by
    rcases hm : g.main with _ | m
    · rfl
    · exact h.main m hm
  unfold Group.isValid
  rw [hmain, hsubs, Bool.or_false, Bool.and_false]

/-- **A text promotes the word** exactly if it is the fifth use. -/
theorem promotes_iff (h : Stage w n e g own past) :
    Promotes e g own past k w ↔ Text.words k.text = [w] ∧ k.auto = false ∧ n = 4 := by
  have hknown : promotionFrequency < past.frequency w ↔ 4 ≤ n := by
    rw [Store.frequency_eq (h.soundStore h.hasPast)]
    exact h.used.promotes_iff
  constructor
  · intro hpromotes
    have hnot : ¬ 5 ≤ n := fun hn =>
      Bool.false_ne_true (hpromotes.adopts.2.2.1.symm.trans (h.owned.mpr hn))
    have hfour := hknown.mp hpromotes.adopts.2.2.2
    exact ⟨hpromotes.words, hpromotes.auto, by omega⟩
  · rintro ⟨hwords, hauto, rfl⟩
    have hown : own.contains w = false :=
      Bool.eq_false_iff.mpr fun hheld => absurd (h.owned.mp hheld) (by decide)
    exact ⟨hwords, h.promotes, hauto, h.length, h.isValid_eq_false hown, hown,
      hknown.mpr (Nat.le_refl 4)⟩

/-- **A text leads to the next stage** if it uses the word, and leaves the stage if it avoids the
word. -/
theorem enter (h : Stage w n e g own past) (hk : k.Uses w ∨ k.Avoids w) :
    ∃ g' own' past', Stage w (n + if k.Uses w then 1 else 0) (e.enter k) g' own' past' := by
  obtain ⟨g', own', past', halone, hsettings, hmain, hcontacts, hlearned, howned⟩ :=
    h.toAlone.enter k
  have hfrequency (v : Text) : g'.mainFrequency v = g.mainFrequency v := by
    rw [Group.mainFrequency, hmain, Group.mainFrequency]
  have hcount : (g.lessonsOf e.respelling k).countP (·.form = w) =
      if k.Uses w then 1 else 0 := by
    obtain huses | havoids := hk
    · rw [if_pos huses]
      exact Group.countP_lessonsOf_of_uses h.regular huses h.lacks
    · rw [if_neg havoids.not_uses]
      exact Group.countP_lessonsOf_of_avoids h.regular havoids
  have hused := h.used.taught (h.soundStore h.hasPast).tables
    (g.row_ne_of_mem_lessonsOf e.respelling k)
  rw [hcount, ← hlearned, Nat.add_comm] at hused
  refine ⟨g', own', past', halone, hsettings ▸ h.promotes, h.length, hmain ▸ h.main,
    ⟨(hfrequency w).trans h.lacks.word, (hfrequency _).trans h.lacks.lower⟩,
    hcontacts ▸ h.contacts, hused, ?_⟩
  rw [howned, h.owned, h.promotes_iff]
  obtain huses | havoids := hk
  · rw [if_pos huses, and_iff_right huses.1, and_iff_right huses.2.1]
    omega
  · rw [if_neg havoids.not_uses, or_iff_left fun hall => havoids.words_ne hall.1, Nat.add_zero]

/-- **Texts** that use the word or avoid it lead to the stage of as many uses. -/
theorem foldl_enter {ks : List Commit} : ∀ {n : Nat} {e : Engine} {g : Group} {own past : Store},
    Stage w n e g own past → (∀ k ∈ ks, k.Uses w ∨ k.Avoids w) → ∃ g' own' past',
      Stage w (n + ks.countP (·.Uses w)) (ks.foldl Engine.enter e) g' own' past' := by
  induction ks with
  | nil => exact fun h _ => ⟨_, _, _, h⟩
  | cons k ks ih =>
    intro n e g own past h hks
    obtain ⟨g', own', past', h'⟩ := h.enter (hks k List.mem_cons_self)
    have hrest := ih h' fun l hl => hks l (List.mem_cons_of_mem k hl)
    rw [List.foldl_cons, List.countP_cons, Nat.add_comm (ks.countP _)]
    simp only [decide_eq_true_eq]
    rwa [Nat.add_assoc] at hrest

end Stage

/-! ### The first stage -/

theorem dictionary?_of_ne {o : Origin} (ho : o ≠ .main) :
    g.dictionary? o = (g.sub? o).map (·.dictionary) := if_neg ho

theorem mainFrequency_eq (hcoherent : ∀ m ∈ g.main, m.Coherent)
    (hnone : ∀ m ∈ g.main, m.contains w = false) : g.mainFrequency w = -1 := by
  unfold Group.mainFrequency
  rcases hm : g.main with _ | m
  · rfl
  · exact (hcoherent m hm).frequency w (hnone m hm)

theorem Alone.coherent {p : Provider} (h : e.Alone g own past) (hcoherent : p.Coherent)
    (hloaded : ∀ m ∈ e.mains, ∃ d l, p.loadMain d l = .ok m) : ∀ m ∈ g.main, m.Coherent := by
  intro m hm
  obtain ⟨d, l, hload⟩ := hloaded m (mem_mains.mpr ⟨g, h.groups ▸ List.mem_singleton_self g, hm⟩)
  exact hcoherent d l m hload

/-- **A new word** that no dictionary vouches for is at the first stage. -/
theorem Alone.stage (h : e.Alone g own past) (hcoherent : ∀ m ∈ g.main, m.Coherent)
    (hpromotes : e.settings.promotesWords = true) (hlength : 1 < w.length)
    (hvalid : ∀ o, ∀ m ∈ g.dictionary? o, m.isValid w = false)
    (hnew : ∀ m ∈ g.dictionary? .history, m.contains w = false)
    (hlower : ∀ m ∈ g.main, m.contains (Text.lower w) = false) : Stage w 0 e g own past := by
  have hasked {o : Origin} {v : Store} (ho : o ≠ .main) (hv : g.sub? o = some v) :
      v.dictionary ∈ g.dictionary? o := by
    rw [dictionary?_of_ne ho, hv]
    rfl
  have hmain : ∀ m ∈ g.main, m.isValid w = false := hvalid .main
  have hlacks : g.MainLacks w := by
    refine ⟨mainFrequency_eq hcoherent fun m hm => ?_, mainFrequency_eq hcoherent hlower⟩
    rw [← (hcoherent m hm).isValid]
    exact hmain m hm
  have hfirst : own.contains w = false := by
    have hvouched : own.isValid w = false := hvalid .user _ (hasked (by decide) h.hasOwn)
    have hother : (own.origin != .history) = true := by
      rw [(Group.mem_of_sub? h.hasOwn).2]
      rfl
    rwa [Store.isValid, hother, Bool.or_true, Bool.true_and] at hvouched
  refine ⟨h, hpromotes, hlength, hmain, hlacks,
    fun c hc => hvalid .contacts _ (hasked (by decide) hc), Tables.usedTimes_zero ?_, ?_⟩
  · rw [← Store.contains_eq (h.soundStore h.hasPast)]
    exact hnew _ (hasked (by decide) h.hasPast)
  · rw [hfirst]
    decide

/-- **A new word becomes one of the user's own with its fifth use**: let no dictionary of the only
group vouch for the word, nor the history hold it, nor the main dictionary its lower-case form. Then
whatever texts are committed, as long as each of them uses the word or avoids it, the user's own
words hold it after five uses, and not before. -/
theorem promoted_iff {p : Provider} {d : Disk} (hp : p.Sound) (hcoherent : p.Coherent)
    (hd : d.Sound) (s : Settings) (as : List Action) {g : Group}
    (hone : ((start p s d).after as).groups = [g])
    (hidle : ((start p s d).after as).queue.queued = [])
    (hpromotes : ((start p s d).after as).settings.promotesWords = true)
    (hown : (g.dictionary? .user).isSome = true) (hpast : (g.dictionary? .history).isSome = true)
    {w : Text} (hlength : 2 ≤ w.length)
    (hvalid : ∀ o, ∀ m ∈ g.dictionary? o, m.isValid w = false)
    (hnew : ∀ m ∈ g.dictionary? .history, m.contains w = false)
    (hlower : ∀ m ∈ g.dictionary? .main, m.contains (Text.lower w) = false)
    (ks : List Commit) (hks : ∀ k ∈ ks, k.Uses w ∨ k.Avoids w) :
    ∃ g' own, (ks.foldl enter ((start p s d).after as)).groups = [g'] ∧
      g'.dictionary? .user = some own ∧
      (own.contains w = true ↔ 5 ≤ ks.countP (·.Uses w)) := by
  have hsound := sound_after hp hd s as
  have hregular := regular_after p s d as
  have hloaded := loaded_after p s d as
  generalize (start p s d).after as = e at *
  rw [dictionary?_of_ne (by decide), Option.isSome_map] at hown hpast
  obtain ⟨u, hu⟩ := Option.isSome_iff_exists.mp hown
  obtain ⟨h, hh⟩ := Option.isSome_iff_exists.mp hpast
  have halone : e.Alone g u h := ⟨hsound, hregular, hidle, hone, hu, hh⟩
  have hstage := halone.stage (halone.coherent hcoherent hloaded) hpromotes hlength hvalid hnew
    hlower
  obtain ⟨g', own, past, hlast⟩ := hstage.foldl_enter hks
  refine ⟨g', own.dictionary, hlast.groups, ?_, ?_⟩
  · rw [dictionary?_of_ne (by decide), hlast.hasOwn]
    rfl
  · rw [← Nat.zero_add (ks.countP _)]
    exact hlast.owned

/-- Between the uses of a new word another sentence begins and another new word is used: after four
uses the word is not yet one of the user's own, after the fifth it is. -/
theorem promoted_iff_interleaved :
    let l := (({ locale := ⟨"en".toList⟩ } : Draft).addWord "hello".toList 100).build
    let p := Provider.memory [("en".toList, l.dictionary)]
    let e := (start p { promotesWords := true } default).after
      [.reset { primary := ⟨"en".toList⟩ }, .work]
    let c := (Context.empty 3).next (.word "good".toList)
    let use (time : Nat) : Commit := { text := "zorp".toList, context := c, time }
    let ks : List Commit := [use 1, use 2,
      { text := "Hello there".toList, auto := true, context := .start, time := 3 }, use 4,
      { text := "blim".toList, context := c, time := 5 }, use 6, use 7]
    (∃ g own, ((ks.take 6).foldl enter e).groups = [g] ∧ g.dictionary? .user = some own ∧
      own.contains "zorp".toList = false) ∧
    ∃ g own, (ks.foldl enter e).groups = [g] ∧ g.dictionary? .user = some own ∧
      own.contains "zorp".toList = true := by
  intro l p e c use ks
  have hp : p.Sound := Provider.sound_lexicon _ l
  have hcoherent : p.Coherent := Provider.coherent_memory fun m hm => by
    rw [List.mem_singleton.mp hm]
    exact Dictionary.coherent_lexicon l
  obtain ⟨g, hg⟩ : ∃ g, e.groups = [g] := List.length_eq_one_iff.mp (by decide +kernel)
  have hall : ∀ g ∈ e.groups, (g.dictionary? .user).isSome = true ∧
      (g.dictionary? .history).isSome = true ∧
      (∀ o ∈ [Origin.main, .contacts, .history, .user, .typed],
        ∀ m ∈ g.dictionary? o, m.isValid "zorp".toList = false) ∧
      (∀ m ∈ g.dictionary? .history, m.contains "zorp".toList = false) ∧
      ∀ m ∈ g.dictionary? .main, m.contains (Text.lower "zorp".toList) = false := by
    decide +kernel
  obtain ⟨hown, hpast, hvalid, hnew, hlower⟩ := hall g (hg ▸ List.mem_singleton_self g)
  have hiff (ks : List Commit) (hks : ∀ k ∈ ks, k.Uses "zorp".toList ∨ k.Avoids "zorp".toList) :=
    promoted_iff hp hcoherent Disk.sound_default { promotesWords := true } _ hg (by decide +kernel)
      (by decide +kernel) hown hpast (by decide) (fun o => hvalid o (by cases o <;> decide)) hnew
      hlower ks hks
  obtain ⟨g₄, own₄, hg₄, hown₄, hfour⟩ := hiff (ks.take 6) (by decide +kernel)
  obtain ⟨g₅, own₅, hg₅, hown₅, hfive⟩ := hiff ks (by decide +kernel)
  refine ⟨⟨g₄, own₄, hg₄, hown₄, ?_⟩, g₅, own₅, hg₅, hown₅, hfive.mpr (by decide +kernel)⟩
  exact Bool.eq_false_iff.mpr fun hheld => absurd (hfour.mp hheld) (by decide +kernel)

end Engine

end Typeahead
