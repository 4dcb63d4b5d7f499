import Typeahead.Proofs.Engine.Reset

/-! # Engines between two actions

Each action in a closed form, as far as later modules follow it, and what all of them keep: the
groups are numbered, and the worker has no task (`orderly_after`). -/

namespace Typeahead

namespace Engine

variable {e : Engine}

/-- Between two actions the groups are numbered and the worker has no task. -/
structure Orderly (e : Engine) : Prop extends Numbered e where
  free : e.queue.running = none

theorem orderly_start (p : Provider) (s : Settings) (d : Disk) : (start p s d).Orderly :=
  ⟨⟨List.nodup_singleton _, by simp [start, Group.placeholder]⟩, rfl⟩

theorem orderly_reset (h : e.Orderly) (r : ResetRequest) : (e.reset r).Orderly := by
  have hbuilt := numbered_built e r
  have heq := reset_eq e r
  have hfree : (e.built r).engine.queue.running = none := by
    rw [(opened_built e r).queue]
    exact h.free
  rw [heq]
  exact ⟨⟨hbuilt.distinct, hbuilt.below⟩, hfree⟩

theorem orderly_close (h : e.Orderly) : e.close.Orderly :=
  ⟨⟨List.nodup_singleton _, by
    simp only [close, fresh, replaceGroups, settle, clearPredictions, Group.placeholder,
      List.map_singleton, List.mem_singleton]
    omega⟩, h.free⟩

theorem running_pushAll {α : Type} (q : TaskQueue α) (ts : List α) :
    (q.pushAll ts).running = q.running := by rw [TaskQueue.pushAll_eq]

theorem orderly_commit (h : e.Orderly) (text : Text) (auto : Bool) (c : Context) (time : Nat)
    (block : Bool) : (e.commit text auto c time block).Orderly := by
  obtain ⟨e', hcommits, heq⟩ := commits_commit h.toNumbered text auto c time block
  obtain ⟨ts, hqueue, -⟩ := hcommits.queue
  have hnext : e'.nextNumber = e.nextNumber := by rw [hcommits.rest]
  rw [heq]
  refine ⟨h.toNumbered.of_numbers hcommits.numbers_eq hnext, ?_⟩
  show e'.queue.running = none
  rw [hqueue, running_pushAll]
  exact h.free

theorem orderly_removeWord (h : e.Orderly) (w : Text) : (e.removeWord w).Orderly := by
  obtain ⟨ts, -, heq⟩ := removeWord_eq h.toNumbered w
  rw [heq]
  refine ⟨h.toNumbered.of_numbers (numbers_map (number_removeWord · w) _) rfl, ?_⟩
  show (e.queue.pushAll ts).running = none
  rw [running_pushAll]
  exact h.free

theorem orderly_runNext (h : e.Orderly) : e.runNext.Orderly := by
  rcases runNext_cases h.free with ⟨-, heq⟩ | ⟨q, rest, e', -, hran, -, heq⟩
  · rw [heq]
    exact h
  · have hsame := hran.sameQueue
    rw [heq]
    exact ⟨h.toNumbered.of_numbers hsame.numbers hsame.nextNumber, h.free⟩

theorem number_clearedHistory (g : Group) : (clearedHistory g).number = g.number := by
  unfold clearedHistory
  split <;> rfl

theorem rememberNextWords_eq (e : Engine) (c : Context) (block : Bool) :
    e.rememberNextWords c block =
      { e with predictions := (e.rememberNextWords c block).predictions } := by
  unfold rememberNextWords
  split <;> rfl

theorem suggest_eq (e : Engine) (r : SuggestRequest) : (e.suggest r).2 = e ∨
    (e.suggest r).2 = e.rememberNextWords r.context r.settings.blocksOffensive := by
  unfold suggest
  dsimp only
  split_ifs
  · exact .inr rfl
  · exact .inl rfl

theorem unlearn_eq (e : Engine) (w : Text) (why : Reason) : ∃ ts : List Task,
    (∀ t ∈ ts, ∃ g s, g ∈ e.groups ∧ g.sub? .history = some s ∧ t = .unlearn s.number w) ∧
      e.unlearn w why =
        { e with
          queue := e.queue.pushAll ts
          spelling := (e.forgetSpelling w).spelling } := by
  have hpreferred : e.preferred ∈ e.groups ∨ e.preferred.subs = [] := by
    unfold preferred
    rcases hg : preferredGroup e.groups with _ | g
    · exact .inr rfl
    · exact .inl (mem_of_preferredGroup hg)
  unfold unlearn
  split
  · exact ⟨[], by simp, rfl⟩
  · exact ⟨[], by simp, rfl⟩
  · next _ _ s _ hs =>
    refine ⟨[.unlearn s.number w], fun t ht => ?_, rfl⟩
    rcases hpreferred with hmem | hsubs
    · exact ⟨e.preferred, s, hmem, hs, List.mem_singleton.mp ht⟩
    · rw [Group.sub?, hsubs] at hs
      exact absurd hs (by simp)

theorem addWord_cases (e : Engine) (place : Nat) (o : Origin) (w : Text) (f : Nat) :
    e.addWord place o w f = e ∨ ∃ g s s', g ∈ e.groups ∧ g.sub? o = some s ∧
      s.add w f = .ok s' ∧ e.addWord place o w f = e.putStore s' := by
  unfold addWord
  split
  · exact .inl rfl
  · next s hs =>
    obtain ⟨g, hg, hsub⟩ := Option.bind_eq_some_iff.mp hs
    split
    · next s' hs' => exact .inr ⟨g, s, s', List.mem_of_getElem? hg, hsub, hs', rfl⟩
    · exact .inl rfl

theorem Orderly.perform (h : e.Orderly) (a : Action) : (e.perform a).Orderly := by
  cases a with
  | reset r => exact orderly_reset h r
  | close => exact orderly_close h
  | restart =>
    have hstart := orderly_start e.provider e.settings e.shutDown
    exact ⟨⟨hstart.distinct, hstart.below⟩, rfl⟩
  | setSettings s => exact ⟨⟨h.distinct, h.below⟩, h.free⟩
  | clearPredictions => exact ⟨⟨h.distinct, h.below⟩, h.free⟩
  | commit text auto c time block => exact orderly_commit h text auto c time block
  | unlearn w why =>
    obtain ⟨ts, -, heq⟩ := unlearn_eq e w why
    show (e.unlearn w why).Orderly
    rw [heq]
    refine ⟨⟨h.distinct, h.below⟩, ?_⟩
    show (e.queue.pushAll ts).running = none
    rw [running_pushAll]
    exact h.free
  | remove w => exact orderly_removeWord h w
  | clearHistory =>
    exact ⟨h.toNumbered.of_numbers (numbers_map number_clearedHistory _) rfl, h.free⟩
  | suggest r =>
    show (e.suggest r).2.Orderly
    rcases suggest_eq e r with heq | heq
    · rw [heq]
      exact h
    · rw [heq, rememberNextWords_eq]
      exact ⟨⟨h.distinct, h.below⟩, h.free⟩
  | predict c block =>
    show (e.rememberNextWords c block).Orderly
    rw [rememberNextWords_eq]
    exact ⟨⟨h.distinct, h.below⟩, h.free⟩
  | add place o w f =>
    show (e.addWord place o w f).Orderly
    rcases addWord_cases e place o w f with heq | ⟨g, s, s', -, -, -, heq⟩
    · rw [heq]
      exact h
    · rw [heq]
      exact ⟨h.toNumbered.of_numbers (numbers_putStore e s') rfl, h.free⟩
  | work => exact orderly_runNext h

/-- The engine after one more of some actions. -/
theorem after_take_succ {as : List Action} {a : Action} {n : Nat} (h : as[n]? = some a) :
    e.after (as.take (n + 1)) = (e.after (as.take n)).perform a := by
  rw [List.take_add_one, h]
  exact List.foldl_concat _ _ _ _

theorem Orderly.after (as : List Action) : ∀ {e : Engine}, e.Orderly → (e.after as).Orderly := by
  induction as with
  | nil => exact fun h => h
  | cons a as ih => exact fun h => ih (h.perform a)

/-- **Whatever happened**, the groups are numbered and the worker has no task. -/
theorem orderly_after (p : Provider) (s : Settings) (d : Disk) (as : List Action) :
    ((start p s d).after as).Orderly := (orderly_start p s d).after as

end Engine

end Typeahead
