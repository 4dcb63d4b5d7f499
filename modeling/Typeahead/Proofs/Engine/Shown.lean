import Typeahead.Lexicon.Draft
import Typeahead.Proofs.Engine.Lookup
import Typeahead.Proofs.Engine.Orderly

/-! # Blacklisted words are not shown

A lookup leaves out the words on the blacklists (`not_bans_of_mem_candidates`), and what was
remembered from earlier ones never shows one either: while predictions are remembered, words may
leave the blacklists, but none is added. `Clean` says so of one engine, and
`shows_no_blacklisted_word` of every engine that some actions lead to. -/

namespace Typeahead

namespace Engine

variable {e e' : Engine} {w : Text}

/-- Some group has blacklisted the word. -/
def Bans (e : Engine) (w : Text) : Prop := ∃ g ∈ e.groups, g.isBlacklisted w = true

instance (e : Engine) (w : Text) : Decidable (e.Bans w) :=
  inferInstanceAs (Decidable (∃ g ∈ e.groups, g.isBlacklisted w = true))

theorem not_bans_of_mem_candidates {r : Request} (h : w ∈ (e.candidates r).words) : ¬ e.Bans w := by
  obtain ⟨c, hc, rfl⟩ := mem_words_mergedRanking.mp h
  obtain ⟨k, -, cs, hcs, hmem⟩ := mem_offeredBy_iff.mp hc
  obtain ⟨o, -, d, found, -, -, -, hshow⟩ := (Group.mem_candidates_iff hcs).mp hmem
  rintro ⟨g, hg, hban⟩
  have hany : e.groups.any (·.isBlacklisted c.word) = true := List.any_eq_true.mpr ⟨g, hg, hban⟩
  rw [isShowable, hany] at hshow
  exact absurd hshow (by simp)

/-! ### What a group's change does to the bans -/

theorem bans_of_map {f : Group → Group} (hgroups : e'.groups = e.groups.map f)
    (hf : ∀ g ∈ e.groups, (f g).isBlacklisted w = true → g.isBlacklisted w = true)
    (h : e'.Bans w) : e.Bans w := by
  obtain ⟨g, hg, hban⟩ := h
  rw [hgroups] at hg
  obtain ⟨k, hk, rfl⟩ := List.mem_map.mp hg
  exact ⟨k, hk, hf k hk hban⟩

theorem bans_runNext (h : e.Orderly) (hban : e.runNext.Bans w) : e.Bans w := by
  rcases runNext_cases h.free with ⟨-, heq⟩ | ⟨q, rest, e', -, hran, -, heq⟩
  · rwa [heq] at hban
  · obtain ⟨f, hf, hkept⟩ := hran.groups h.toNumbered
    rw [heq] at hban
    refine bans_of_map hf (fun g hg hb => ?_) hban
    rw [hkept g hg] at hb
    exact hb

/-! ### What is remembered -/

/-- No prediction that is remembered shows a blacklisted word. -/
structure Clean (e : Engine) : Prop extends Orderly e where
  remembered : ∀ p ∈ e.predictions, ∀ v ∈ p.2.words, ¬ e.Bans v

theorem Clean.of_empty (h : e.Orderly) (hnone : e.predictions = []) : e.Clean :=
  ⟨h, by simp [hnone]⟩

/-- While no word is banned anew, what is remembered stays right. -/
theorem Clean.of_bans (h : e.Clean) (ho : e'.Orderly)
    (hpredictions : e'.predictions = e.predictions ∨ e'.predictions = [])
    (hbans : ∀ v, e'.Bans v → e.Bans v) : e'.Clean := by
  rcases hpredictions with heq | heq
  · refine ⟨ho, fun p hp v hv hban => ?_⟩
    rw [heq] at hp
    exact h.remembered p hp v hv (hbans v hban)
  · exact Clean.of_empty ho heq

theorem clean_commit (h : e.Clean) (text : Text) (auto : Bool) (c : Context) (time : Nat)
    (block : Bool) : (e.commit text auto c time block).Clean := by
  have ho := orderly_commit h.toOrderly text auto c time block
  obtain ⟨e', hcommits, heq⟩ := commits_commit h.toNumbered text auto c time block
  obtain ⟨f, hf, hrelisted⟩ := hcommits.groups
  have hpredictions : e'.predictions = e.predictions := by rw [hcommits.rest]
  rw [heq] at ho ⊢
  exact h.of_bans ho (.inl hpredictions) fun v hban =>
    bans_of_map hf (fun g _ => (hrelisted g).lifted v) hban

/-- What is looked up is right when it comes to be remembered. -/
theorem clean_rememberNextWords (h : e.Clean) (c : Context) (block : Bool) :
    (e.rememberNextWords c block).Clean := by
  refine ⟨h.toOrderly.perform (.predict c block), fun p hp v hv => ?_⟩
  rw [rememberNextWords_eq]
  rcases mem_predictions_rememberNextWords hp with hp | rfl
  · exact h.remembered p hp v hv
  · exact not_bans_of_mem_candidates hv

theorem Clean.perform (h : e.Clean) (a : Action) : (e.perform a).Clean := by
  have ho := h.toOrderly.perform a
  cases a with
  | reset r =>
    have heq := reset_eq e r
    have hnone : (e.reset r).predictions = [] := by rw [heq]
    exact Clean.of_empty ho hnone
  | close => exact Clean.of_empty ho rfl
  | restart => exact Clean.of_empty ho rfl
  | setSettings s => exact Clean.of_empty ho rfl
  | clearPredictions => exact Clean.of_empty ho rfl
  | commit text auto c time block => exact clean_commit h text auto c time block
  | unlearn v why =>
    obtain ⟨ts, -, heq⟩ := unlearn_eq e v why
    have hperform : e.perform (.unlearn v why) = e.unlearn v why := rfl
    rw [hperform, heq] at ho ⊢
    exact h.of_bans ho (.inl rfl) fun _ hban => hban
  | remove v => exact Clean.of_empty ho rfl
  | clearHistory => exact Clean.of_empty ho rfl
  | suggest r =>
    show (e.suggest r).2.Clean
    rcases suggest_eq e r with heq | heq
    · rw [heq]
      exact h
    · rw [heq]
      exact clean_rememberNextWords h r.context r.settings.blocksOffensive
  | predict c block => exact clean_rememberNextWords h c block
  | add place o v f =>
    have hperform : e.perform (.add place o v f) = e.addWord place o v f := rfl
    rw [hperform] at ho ⊢
    rcases addWord_cases e place o v f with heq | ⟨g, s, s', -, -, -, heq⟩
    · rw [heq]
      exact h
    · rw [heq] at ho ⊢
      exact h.of_bans ho (.inl rfl) fun _ => bans_of_map rfl fun _ _ hb => hb
  | work =>
    have hpredictions : e.runNext.predictions = e.predictions ∨ e.runNext.predictions = [] := by
      rcases runNext_cases h.free with ⟨-, heq⟩ | ⟨q, rest, e', -, hran, -, heq⟩
      · exact .inl (by rw [heq])
      · rw [heq]
        exact hran.sameQueue.predictions
    exact h.of_bans ho hpredictions fun _ => bans_runNext h.toOrderly

theorem clean_after (as : List Action) : ∀ {e : Engine}, e.Clean → (e.after as).Clean := by
  induction as with
  | nil => exact fun h => h
  | cons a as ih => exact fun h => ih (h.perform a)

/-- **No lookup shows a blacklisted word**, be it fresh or remembered, whatever happened before. -/
theorem shows_no_blacklisted_word (p : Provider) (s : Settings) (d : Disk) (as : List Action)
    (w : Text) (h : ((start p s d).after as).Bans w) :
    (∀ r, w ∉ (((start p s d).after as).candidates r).words) ∧
      ∀ c block, w ∉ (((start p s d).after as).nextWords c block).words := by
  have hclean : ((start p s d).after as).Clean :=
    clean_after as (Clean.of_empty (orderly_start p s d) rfl)
  have hfresh (r : Request) : w ∉ (((start p s d).after as).candidates r).words :=
    fun hw => not_bans_of_mem_candidates hw h
  refine ⟨hfresh, fun c block hw => ?_⟩
  rcases nextWords_cases ((start p s d).after as) c block with heq | ⟨found, hfound, -, heq⟩
  · exact hfresh _ (heq ▸ hw)
  · exact hclean.remembered found hfound w (heq ▸ hw) h

/-- A word of the main dictionary that was predicted before it was removed. -/
theorem shows_no_blacklisted_word_predicted :
    let l := ((({ locale := ⟨"en".toList⟩ } : Draft).addPair "hello".toList "world".toList
      90).addWord "world".toList 100).build
    let p := Provider.memory [("en".toList, l.dictionary)]
    let c := (Context.empty 3).next (.word "hello".toList)
    let as : List Action :=
      [.reset { primary := ⟨"en".toList⟩ }, .work, .predict c false, .remove "world".toList,
        .predict c false]
    "world".toList ∈ (((start p {} default).after (as.take 3)).nextWords c false).words ∧
      ((start p {} default).after as).Bans "world".toList ∧
      "world".toList ∉ (((start p {} default).after as).nextWords c false).words := by
  intro l p c as
  have hban : ((start p {} default).after as).Bans "world".toList := by decide +kernel
  refine ⟨by decide +kernel, hban, ?_⟩
  exact (shows_no_blacklisted_word p {} default as "world".toList hban).2 c false

end Engine

end Typeahead
