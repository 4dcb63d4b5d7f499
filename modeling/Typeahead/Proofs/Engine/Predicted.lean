import Typeahead.Lexicon.Draft
import Typeahead.Proofs.Engine.Alike
import Typeahead.Proofs.Engine.Reachable

/-! # Remembered predictions

`Current` says that the predictions remembered are those that a fresh lookup gives. They stay
current as long as the groups predict alike, and what is learned makes them forgotten, though only
when its turn comes: until then it is `Due`. Two kinds of step are no part of this. A main
dictionary that is loaded, and a committed text from which nothing is learned, may change what is
predicted while nothing is forgotten; `Heeds` names the steps that do not. Once nothing waits after
such steps, what is remembered is what is looked up (`nextWords_eq_candidates`). -/

namespace Typeahead

/-- The task learns a word. -/
def Task.learns : Task → Bool
  | .learn .. => true
  | _ => false

namespace Engine

/-- What is remembered is what a lookup gives. -/
def Current (block : Bool) (e : Engine) : Prop :=
  ∀ p ∈ e.predictions, p.2 = e.candidates { context := p.1, block }

/-- A task that learns waits, so that what is remembered is about to be forgotten. -/
def Due (e : Engine) : Prop := e.queue.queued.any (·.task.learns) = true

instance (e : Engine) : Decidable e.Due :=
  inferInstanceAs (Decidable (e.queue.queued.any (·.task.learns) = true))

/-- The step to `e'` changes nothing that bears on predictions, unless nothing is remembered then,
or all is about to be forgotten. -/
def Lasts (e e' : Engine) : Prop :=
  e'.predictions = [] ∨ e'.Due ∨ e'.groups.map (·.outlook) = e.groups.map (·.outlook)

/-- Predictions are asked for with one and the same setting, and neither what is loaded nor what is
committed changes them unnoticed. -/
def Heeds (block : Bool) (e : Engine) : Action → Prop
  | .predict _ b => b = block
  | .suggest r => r.settings.blocksOffensive = block
  | .commit text auto c time b => e.Lasts (e.commit text auto c time b)
  | .work => e.Lasts e.runNext
  | _ => True

/-- All steps of a run heed what is remembered. -/
def HeedsAll (block : Bool) : Engine → List Action → Prop
  | _, [] => True
  | e, a :: as => e.Heeds block a ∧ HeedsAll block (e.perform a) as

variable {e e' : Engine} {s s' : Store}

theorem due_iff : e.Due ↔ ∃ q ∈ e.queue.queued, q.task.learns = true := List.any_eq_true

theorem Due.of_subset (h : e.Due) (hsub : e.queue.queued ⊆ e'.queue.queued) : e'.Due := by
  obtain ⟨q, hq, hlearns⟩ := due_iff.mp h
  exact due_iff.mpr ⟨q, hsub hq, hlearns⟩

theorem current_of_nil (hnone : e.predictions = []) : e.Current block := by
  intro p hp
  rw [hnone] at hp
  exact absurd hp List.not_mem_nil

theorem Current.of_alike (h : e.Current block) (hpredictions : e'.predictions = e.predictions)
    (hgroups : e'.groups = e.groups.map f) (hf : ∀ g ∈ e.groups, g.Alike (f g)) :
    e'.Current block := by
  intro p hp
  rw [hpredictions] at hp
  rw [candidates, hgroups, mergedRanking_map hf]
  exact h p hp

theorem Current.of_groups_eq (h : e.Current block) (hpredictions : e'.predictions = e.predictions)
    (hgroups : e'.groups = e.groups) : e'.Current block :=
  h.of_alike (f := id) hpredictions (by rw [hgroups, List.map_id]) fun g _ => Group.Alike.refl g

theorem outlook_of_map (hgroups : e'.groups = e.groups.map f)
    (houtlook : e'.groups.map (·.outlook) = e.groups.map (·.outlook)) :
    ∀ g ∈ e.groups, (f g).outlook = g.outlook := by
  rw [hgroups, List.map_map] at houtlook
  exact List.map_inj_left.mp houtlook

/-! ### Steps -/

/-- **What is learned** makes predictions forgotten. -/
theorem predictions_learn (h : e.Consistent) {n : Nat} {c : Context} {w : Text} {valid : Bool}
    {time : Nat} {token : Option Nat}
    (hrooted : (⟨.learn n c w valid time, token⟩ : Queued Task).Rooted e.labels) :
    (e.run (.learn n c w valid time)).predictions = [] := by
  obtain ⟨hlabel, hw, -⟩ := hrooted
  obtain ⟨s, hs, hn, -⟩ := mem_labels_iff.mp hlabel
  have hstore : (e.store? n).isSome := by
    unfold store?
    rw [List.find?_isSome]
    exact ⟨s, hs, by simp [hn]⟩
  obtain ⟨t, ht⟩ := Option.isSome_iff_exists.mp hstore
  have huse := Store.use_eq (h.soundStores t (mem_of_store? ht).1) c w valid 1 time
  rw [if_neg (by simpa using hw)] at huse
  show (e.changeStore n (·.use c w valid 1 time) clearPredictions).predictions = []
  unfold changeStore
  rw [ht]
  dsimp only
  rw [huse]
  rfl

theorem current_rememberNextWords (h : e.Current block) (c : Context) :
    (e.rememberNextWords c block).Current block := by
  intro p hp
  rw [rememberNextWords_eq]
  rcases mem_predictions_rememberNextWords hp with hp | rfl
  · exact h p hp
  · rfl

theorem current_or_due_runNext (h : e.Sound) (hlasts : e.Lasts e.runNext)
    (hcurrent : e.Current block ∨ e.Due) : e.runNext.Current block ∨ e.runNext.Due := by
  rcases runNext_cases h.free with ⟨-, heq⟩ | ⟨q, rest, e', hqueue, hran, hgoes, heq⟩
  · rw [heq]
    exact hcurrent
  have hpredictions : e.runNext.predictions = e'.predictions := by rw [heq]; rfl
  have hgroups : e.runNext.groups = e'.groups := by rw [heq]; rfl
  rcases hcurrent with hcurrent | hdue
  · rcases hran.alike h.toConsistent with hnone | ⟨hkept, f, hf, halike⟩
    · exact .inl (current_of_nil (hpredictions.trans hnone))
    · rcases hlasts with hnone | hdue | houtlook
      · exact .inl (current_of_nil hnone)
      · exact .inr hdue
      · have houtlooks := outlook_of_map (hgroups.trans hf) houtlook
        exact .inl (hcurrent.of_alike (hpredictions.trans hkept) (hgroups.trans hf)
          fun g hg => halike g hg (houtlooks g hg))
  · obtain ⟨p, hp, hlearns⟩ := due_iff.mp hdue
    have hrooted := h.tasks p hp
    rw [hqueue] at hp
    rcases List.mem_cons.mp hp with rfl | hp
    · -- the task that waits first is the one that learns
      obtain ⟨t, token⟩ := p
      cases t with
      | learn n c w valid time =>
        obtain rfl : token = none := hrooted.2.2
        rw [hgoes rfl] at hpredictions
        exact .inl (current_of_nil (hpredictions.trans (predictions_learn h.toConsistent hrooted)))
      | promote n w => exact nomatch hlearns
      | unlearn n w => exact nomatch hlearns
      | writeList n => exact nomatch hlearns
      | loadMain n l => exact nomatch hlearns
    · refine .inr (due_iff.mpr ⟨p, ?_, hlearns⟩)
      rw [heq]
      exact hp

theorem current_or_due_commit (h : e.Sound) {text : Text} {auto : Bool} {c : Context} {time : Nat}
    {b : Bool} (hlasts : e.Lasts (e.commit text auto c time b))
    (hcurrent : e.Current block ∨ e.Due) :
    (e.commit text auto c time b).Current block ∨ (e.commit text auto c time b).Due := by
  obtain ⟨e', hcommits, heq⟩ := commits_commit h.toNumbered text auto c time b
  obtain ⟨f, hf, hrelisted⟩ := hcommits.groups
  obtain ⟨ts, hqueue, -⟩ := hcommits.queue
  have hpredictions : e'.predictions = e.predictions := by rw [hcommits.rest]
  rw [heq] at hlasts ⊢
  rcases hcurrent with hcurrent | hdue
  · rcases hlasts with hnone | hdue | houtlook
    · exact .inl (current_of_nil hnone)
    · exact .inr hdue
    · replace houtlook : e'.groups.map (·.outlook) = e.groups.map (·.outlook) := houtlook
      have houtlooks := outlook_of_map hf houtlook
      refine .inl (hcurrent.of_alike (f := f) hpredictions hf fun g hg => ?_)
      refine ⟨number_of_relisted (hrelisted g), houtlooks g hg, fun o => ?_⟩
      rw [Group.sub?, subs_of_relisted (hrelisted g), Group.sub?]
  · refine .inr (hdue.of_subset ?_)
    show e.queue.queued ⊆ e'.queue.queued
    rw [hqueue]
    exact e.queue.queued_subset_pushAll ts

/-- **One step** keeps what is remembered current, or due to be forgotten. -/
theorem current_or_due_perform (h : e.Sound) {a : Action} (hheeds : e.Heeds block a)
    (hcurrent : e.Current block ∨ e.Due) : (e.perform a).Current block ∨ (e.perform a).Due := by
  have hremember (c : Context) : (e.rememberNextWords c block).Current block ∨
      (e.rememberNextWords c block).Due := by
    refine hcurrent.imp (current_rememberNextWords · c) fun hdue => ?_
    rw [rememberNextWords_eq]
    exact hdue
  cases a with
  | reset r =>
    have heq := reset_eq e r
    exact .inl (current_of_nil (by rw [perform, heq]))
  | close => exact .inl (current_of_nil rfl)
  | restart => exact .inl (current_of_nil rfl)
  | setSettings s => exact .inl (current_of_nil rfl)
  | clearPredictions => exact .inl (current_of_nil rfl)
  | commit text auto c time b => exact current_or_due_commit h hheeds hcurrent
  | unlearn w why =>
    obtain ⟨ts, -, heq⟩ := unlearn_eq e w why
    show (e.unlearn w why).Current block ∨ (e.unlearn w why).Due
    rw [heq]
    exact hcurrent.imp (·.of_groups_eq rfl rfl) (·.of_subset (e.queue.queued_subset_pushAll ts))
  | remove w => exact .inl (current_of_nil rfl)
  | clearHistory => exact .inl (current_of_nil rfl)
  | suggest r =>
    replace hheeds : r.settings.blocksOffensive = block := hheeds
    show (e.suggest r).2.Current block ∨ (e.suggest r).2.Due
    rcases suggest_eq e r with heq | heq
    · rw [heq]
      exact hcurrent
    · rw [heq, hheeds]
      exact hremember r.context
  | predict c b =>
    obtain rfl : b = block := hheeds
    exact hremember c
  | add place o w n =>
    show (e.addWord place o w n).Current block ∨ (e.addWord place o w n).Due
    rcases addWord_cases e place o w n with heq | ⟨g, s, s', hg, hsub, hadd, heq⟩
    · rw [heq]
      exact hcurrent
    · have hmem : s ∈ e.stores := mem_stores_of_mem_subs hg (Group.mem_of_sub? hsub).1
      have hsound := h.soundStores s hmem
      rw [heq]
      exact hcurrent.imp (fun hc => hc.of_alike rfl rfl fun k hk =>
        alike_putStore h.toConsistent hmem (Store.updates_add hsound hadd)
          (Store.following_of_add hsound hadd) hk) id
  | work => exact current_or_due_runNext h hheeds hcurrent

theorem current_or_due_after (as : List Action) : ∀ {e : Engine}, e.Sound → HeedsAll block e as →
    e.Current block ∨ e.Due → (e.after as).Current block ∨ (e.after as).Due := by
  induction as with
  | nil => exact fun _ _ hcurrent => hcurrent
  | cons a as ih =>
    intro e h hheeds hcurrent
    exact ih (h.perform a) hheeds.2 (current_or_due_perform h hheeds.1 hcurrent)

/-- **Once nothing waits**, the words predicted are those that a fresh lookup gives, in every
context. -/
theorem nextWords_eq_candidates {p : Provider} {d : Disk} (hp : p.Sound) (hd : d.Sound)
    (s : Settings) (block : Bool) (as : List Action) (hheeds : HeedsAll block (start p s d) as)
    (hidle : ((start p s d).after as).queue.queued = []) (c : Context) :
    ((start p s d).after as).nextWords c block =
      ((start p s d).after as).candidates { context := c, block } := by
  have hsound := sound_after hp hd s as
  have hcurrent : ((start p s d).after as).Current block := by
    refine (current_or_due_after as (sound_start hp hd s) hheeds
      (.inl (current_of_nil rfl))).resolve_right fun hdue => ?_
    obtain ⟨q, hq, -⟩ := due_iff.mp hdue
    rw [hidle] at hq
    exact absurd hq List.not_mem_nil
  rcases nextWords_cases ((start p s d).after as) c block with heq | ⟨found, hfound, hsame, heq⟩
  · exact heq
  · rw [heq, hcurrent found hfound]
    exact (mergedRanking_context hsound.soundGroups hsame).symm

/-- A sentence that is learned after its end was predicted. -/
theorem nextWords_eq_candidates_learned :
    let l := ((({ locale := ⟨"en".toList⟩ } : Draft).addPair "hello".toList "world".toList
      90).addWord "hello".toList 100).build
    let p := Provider.memory [("en".toList, l.dictionary)]
    let c := (Context.empty 3).next (.word "hello".toList)
    let as : List Action :=
      [.reset { primary := ⟨"en".toList⟩ }, .work, .predict c false,
        .commit "there".toList false c 7 false, .work, .predict c false]
    HeedsAll false (start p {} default) as ∧
      ((start p {} default).after as).queue.queued = [] ∧
      (((start p {} default).after (as.take 3)).nextWords c false).items.map (·.word) =
        ["world".toList] ∧
      (((start p {} default).after as).nextWords c false).items.map (·.word) =
        ["there".toList, "world".toList] ∧
      ((start p {} default).after as).nextWords c false =
        ((start p {} default).after as).candidates { context := c, block := false } := by
  intro l p c as
  have hp : p.Sound := Provider.sound_lexicon _ l
  have hheeds : HeedsAll false (start p {} default) as :=
    ⟨trivial, .inl (by decide +kernel), rfl, .inr (.inl (by decide +kernel)),
      .inl (by decide +kernel), rfl, trivial⟩
  have hidle : ((start p {} default).after as).queue.queued = [] := by decide +kernel
  refine ⟨hheeds, hidle, by decide +kernel, by decide +kernel, ?_⟩
  exact nextWords_eq_candidates hp Disk.sound_default {} false as hheeds hidle c

/-- Predictions that were remembered while a main dictionary was being loaded outlive its
installation: none was found, and none is shown. -/
theorem predictions_outlive_load :
    let l := (({ locale := ⟨"en".toList⟩ } : Draft).addPair "hello".toList "world".toList 90).build
    let p := Provider.memory [("en".toList, l.dictionary)]
    let c := (Context.empty 3).next (.word "hello".toList)
    let e := (start p {} default).after
      [.reset { primary := ⟨"en".toList⟩ }, .predict c false, .work]
    e.queue.queued = [] ∧ (e.nextWords c false).items = [] ∧
      (e.candidates { context := c, block := false }).items.map (·.word) = ["world".toList] := by
  decide +kernel

end Engine

end Typeahead
