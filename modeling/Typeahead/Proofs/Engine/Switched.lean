import Mathlib.Logic.Function.Iterate
import Typeahead.Proofs.Engine.Edits
import Typeahead.Proofs.Engine.Retyped

/-! # Switching the language

Of all that happens while the groups stay, only a single word that is committed changes their
confidences: those that know the word gain one, the others lose one, or all but two at once
(`standing_perform`). So a run of words that one group knows and no other one (`HearsOnly`) adds its
length to the confidence of that group, and `Group.lowered` takes every other confidence down to
zero in three steps, wherever it starts (`lowered_three`). Three such words make the group clearly
preferred and give its candidates their full weight (`three_words_switch`). -/

namespace Typeahead

/-! ### The most confident group -/

namespace Group

/-- The group knows a word, as it was typed or, if it was capitalized automatically, in lower
case. -/
def knows (g : Group) (w : Text) (auto : Bool) : Bool :=
  g.isValid w || (auto && g.isValid (Text.decapitalize w))

/-- The confidence of a group after a word. -/
def confidenceAfter (g : Group) (w : Text) (auto : Bool) : Nat :=
  if g.knows w auto then g.confidence + 1 else lowered g.confidence

/-- **Three words** take any confidence to zero. -/
theorem lowered_three (c : Nat) : lowered (lowered (lowered c)) = 0 := by
  unfold lowered confident
  split_ifs <;> omega

theorem iterate_lowered {k : Nat} (hk : 3 ≤ k) (c : Nat) : lowered^[k] c = 0 := by
  obtain ⟨m, rfl⟩ := Nat.exists_eq_add_of_le' hk
  rw [Function.iterate_add_apply]
  show lowered^[m] (lowered (lowered (lowered c))) = 0
  rw [lowered_three]
  exact Function.iterate_fixed rfl m

end Group

/-- What is preferred of groups among which one is more confident than all others. -/
theorem foldl_better_eq {g : Group} : ∀ {gs : List Group} {best : Option Group},
    (∀ k ∈ gs, k = g ∨ k.confidence < g.confidence) →
    (∀ k ∈ best, k = g ∨ k.confidence < g.confidence) → (best = some g ∨ g ∈ gs) →
    gs.foldl better best = some g
  | [], best, _, _, hg => hg.resolve_right List.not_mem_nil
  | k :: gs, best, hgs, hbest, hg => by
    have hk := hgs k List.mem_cons_self
    rw [List.foldl_cons]
    refine foldl_better_eq (fun j hj => hgs j (List.mem_cons_of_mem k hj)) (fun j hj => ?_) ?_
    · cases best with
      | none =>
        obtain rfl := Option.some.inj hj
        exact hk
      | some b =>
        dsimp only [better] at hj
        split_ifs at hj
        · exact hbest j hj
        · obtain rfl := Option.some.inj hj
          exact hk
    · rcases hg with rfl | hmem
      · left
        dsimp only [better]
        rcases hk with rfl | hlt
        · rw [if_pos (Nat.le_refl _)]
        · rw [if_pos (Nat.le_of_lt hlt)]
      · rcases List.mem_cons.mp hmem with rfl | hmem
        · left
          cases best with
          | none => rfl
          | some b =>
            dsimp only [better]
            rcases hbest b rfl with rfl | hlt
            · rw [if_pos (Nat.le_refl _)]
            · rw [if_neg (Nat.not_le.mpr hlt)]
        · exact .inr hmem

/-- **The most confident group** is preferred. -/
theorem preferredGroup_eq {gs : List Group} {g : Group} (hg : g ∈ gs)
    (hmax : ∀ k ∈ gs, k = g ∨ k.confidence < g.confidence) : preferredGroup gs = some g :=
  foldl_better_eq hmax (fun _ hk => nomatch hk) (.inr hg)

section
variable {gs : List Group} {g : Group} (hconfident : Group.confident ≤ g.confidence)
  (hothers : ∀ k ∈ gs, k.number ≠ g.number → k.confidence = 0)
include hconfident hothers

theorem clearlyPreferredGroup_eq (htwo : 2 ≤ gs.length) (hpreferred : preferredGroup gs = some g) :
    clearlyPreferredGroup gs = some g := by
  unfold clearlyPreferredGroup
  split
  · next k =>
    have hone : [k].length = 1 := rfl
    omega
  · rw [hpreferred, Option.filter_some, if_pos]
    rw [Bool.and_eq_true, decide_eq_true_iff, List.all_eq_true]
    refine ⟨hconfident, fun k hk => ?_⟩
    by_cases hn : k.number = g.number
    · rw [hn, beq_self_eq_true, Bool.true_or]
    · rw [hothers k hk hn, beq_self_eq_true, Bool.or_true]

/-- A confident group has its full weight as long as no other one has any confidence. -/
theorem weightAmong_eq_one (gesture : Bool) : g.weightAmong gs gesture = 1 := by
  have huncontested : g.isContested gs = false := by
    unfold Group.isContested
    rw [List.any_eq_false]
    intro k hk hcontest
    rw [Bool.and_eq_true, bne_iff_ne, decide_eq_true_iff] at hcontest
    rw [hothers k hk hcontest.1] at hcontest
    unfold Group.confident at hconfident
    omega
  unfold Group.weightAmong
  rw [if_neg (Nat.not_lt.mpr hconfident), huncontested, if_neg Bool.false_ne_true, ite_self]

end

/-! ### Words that one group knows -/

namespace Action

/-- The single word that an action commits, and whether it was capitalized automatically. -/
def word? : Action → Option (Text × Bool)
  | .commit text auto .. =>
    match Text.words text with
    | [w] => some (w, auto)
    | _ => none
  | _ => none

theorem word?_commit {text w : Text} (hw : Text.words text = [w]) (auto : Bool) (c : Context)
    (time : Nat) (block : Bool) : (commit text auto c time block).word? = some (w, auto) := by
  unfold word?
  dsimp only
  rw [hw]

theorem exists_of_word? {a : Action} {v : Text × Bool} (h : a.word? = some v) :
    ∃ text c time block, a = .commit text v.2 c time block ∧ Text.words text = [v.1] := by
  unfold word? at h
  split at h
  · next text auto c time block =>
    split at h
    · next w hw =>
      obtain rfl := Option.some.inj h
      exact ⟨text, c, time, block, rfl, hw⟩
    · exact nomatch h
  · exact nomatch h

/-- The action leaves the locales as they are. -/
def KeepsLocales : Action → Prop
  | .reset _ | .close | .restart => False
  | _ => True

instance (a : Action) : Decidable a.KeepsLocales := by
  cases a <;> unfold KeepsLocales <;> infer_instance

end Action

namespace Engine

variable {e e' : Engine} {n : Nat}

/-- A word that an action commits is known to the group of a number and to no other one. -/
def Hears (n : Nat) (e : Engine) (a : Action) : Prop :=
  a.KeepsLocales ∧ ∀ v ∈ a.word?, ∀ g ∈ e.groups, g.knows v.1 v.2 = true ↔ g.number = n

instance (n : Nat) (e : Engine) (a : Action) : Decidable (e.Hears n a) := by
  unfold Hears
  infer_instance

/-- All single words of a run are known to the group of a number and to no other one, each when it is
committed. -/
def HearsOnly (n : Nat) : Engine → List Action → Prop
  | _, [] => True
  | e, a :: as => e.Hears n a ∧ HearsOnly n (e.perform a) as

instance decidableHearsOnly (n : Nat) : ∀ (e : Engine) (as : List Action),
    Decidable (HearsOnly n e as)
  | _, [] => isTrue trivial
  | e, a :: as =>
    have := decidableHearsOnly n (e.perform a) as
    inferInstanceAs (Decidable (e.Hears n a ∧ HearsOnly n (e.perform a) as))

/-- The numbers of the groups with their confidences. -/
def standing (e : Engine) : List (Nat × Nat) := e.groups.map fun g => (g.number, g.confidence)

theorem standing_of_map {f : Group → Group} (hgroups : e'.groups = e.groups.map f)
    (hf : ∀ g ∈ e.groups, (f g).number = g.number ∧ (f g).confidence = g.confidence) :
    e'.standing = e.standing := by
  unfold standing
  rw [hgroups, List.map_map]
  refine List.map_congr_left fun g hg => ?_
  rw [Function.comp_apply, (hf g hg).1, (hf g hg).2]

/-! ### What happens to confidences -/

theorem confidence_clearedHistory (g : Group) : (clearedHistory g).confidence = g.confidence := by
  unfold clearedHistory
  split <;> rfl

theorem confidence_removeWord (g : Group) (w : Text) : (g.removeWord w).confidence = g.confidence :=
  Group.removeWord_induction (P := fun k => k.confidence = g.confidence) rfl
    (fun _ _ hk => hk) fun _ _ _ hk => hk

theorem standing_learnWords (number time : Nat) (block : Bool) : ∀ (ws : List Text) (e : Engine)
    (c : Context) (auto : Bool), (e.groups.map (·.number)).Nodup →
      (learnWords number time block e c auto ws).standing = e.standing
  | [], _, _, _, _ => rfl
  | w :: ws, e, c, auto, h => by
    unfold learnWords
    dsimp only
    obtain ⟨g, hg⟩ : ∃ g, (e.group? number).getD default = g := ⟨_, rfl⟩
    rw [hg]
    have hlearn := groups_learnWord e g c w auto time block
    have hlift := groups_unblacklist (by rw [hlearn]; exact h) g.confidence w
    rw [hlearn] at hlift
    have hnumber (k : Group) : (lift g.confidence w k).number = k.number := by
      unfold lift
      split_ifs <;> rfl
    rw [standing_learnWords number time block ws _ _ _ ?_, standing_of_map hlift fun k _ => ?_]
    · exact ⟨hnumber k, confidence_lift g.confidence w k⟩
    · rw [hlift, numbers_map hnumber]
      exact h

/-- Learning the words of a text changes no confidence. -/
theorem standing_learned (ws : List Text) (text : Text) (auto : Bool) (c : Context) (time : Nat)
    (block : Bool) (h : (e.groups.map (·.number)).Nodup) :
    ((learnWords e.preferred.number time block e c auto ws).rememberSpelling text).standing =
      e.standing := by
  rw [← standing_learnWords e.preferred.number time block ws e c auto h]
  rfl

/-- **A single word** raises the confidence of the groups that know it, and lowers the others. -/
theorem standing_commit_word (h : e.Numbered) (htwo : 2 ≤ e.groups.length) {text w : Text}
    (hw : Text.words text = [w]) (auto : Bool) (c : Context) (time : Nat) (block : Bool) :
    (e.commit text auto c time block).standing =
      e.groups.map fun g => (g.number, g.confidenceAfter w auto) := by
  have hblank : w.contains ' ' = false :=
    Text.contains_blank_of_mem_words (s := text) (by rw [hw]; exact List.mem_cons_self)
  have hadjustment : e.adjustment w auto = adjust w auto := by
    unfold adjustment
    rw [hblank, Bool.or_false, if_neg (by rw [decide_eq_true_iff]; omega)]
  have hgroups : ((e.adjustConfidences w auto).promote w auto).groups =
      e.groups.map (adjust w auto) := by
    rw [groups_promote, groups_adjustConfidences, hadjustment]
  have hadjust (g : Group) : (adjust w auto g).number = g.number ∧
      (adjust w auto g).confidence = g.confidenceAfter w auto := by
    unfold adjust Group.confidenceAfter Group.knows
    split_ifs <;> exact ⟨rfl, rfl⟩
  unfold commit
  rw [hw]
  dsimp only
  rw [standing_learned]
  · unfold standing
    rw [hgroups, List.map_map]
    refine List.map_congr_left fun g _ => ?_
    rw [Function.comp_apply, (hadjust g).1, (hadjust g).2]
  · rw [hgroups, numbers_map fun g => (hadjust g).1]
    exact h.distinct

/-- **All else** changes no confidence, while the locales stay. -/
theorem standing_perform (h : e.Orderly) {a : Action} (hkeeps : a.KeepsLocales)
    (hword : a.word? = none) : (e.perform a).standing = e.standing := by
  cases a with
  | reset | close | restart => exact False.elim hkeeps
  | setSettings s => rfl
  | clearPredictions => rfl
  | commit text auto c time block =>
    show (e.commit text auto c time block).standing = e.standing
    unfold commit
    rcases hws : Text.words text with _ | ⟨w, _ | ⟨v, ws⟩⟩
    · exact standing_learned [] text auto c time block h.distinct
    · exact nomatch (Action.word?_commit hws auto c time block).symm.trans hword
    · exact standing_learned (w :: v :: ws) text auto c time block h.distinct
  | unlearn w why =>
    obtain ⟨ts, -, heq⟩ := unlearn_eq e w why
    show (e.unlearn w why).standing = e.standing
    rw [heq]
    rfl
  | remove w =>
    show (e.removeWord w).standing = e.standing
    rw [removeWord_eq_map h.toNumbered]
    exact standing_of_map rfl fun g _ => ⟨number_removeWord g w, confidence_removeWord g w⟩
  | clearHistory =>
    exact standing_of_map rfl fun g _ => ⟨number_clearedHistory g, confidence_clearedHistory g⟩
  | suggest r =>
    show (e.suggest r).2.standing = e.standing
    rcases suggest_eq e r with heq | heq
    · rw [heq]
    · rw [heq, rememberNextWords_eq]
      rfl
  | predict c block =>
    show (e.rememberNextWords c block).standing = e.standing
    rw [rememberNextWords_eq]
    rfl
  | add place o w f =>
    show (e.addWord place o w f).standing = e.standing
    rcases addWord_cases e place o w f with heq | ⟨g, s, s', -, -, -, heq⟩
    · rw [heq]
    · rw [heq]
      exact standing_of_map rfl fun _ _ => ⟨rfl, rfl⟩
  | work =>
    show e.runNext.standing = e.standing
    obtain ⟨-, heq⟩ | ⟨q, rest, e', -, hran, -, heq⟩ := runNext_cases h.free
    · rw [heq]
    · obtain ⟨f, hgroups, hf⟩ := hran.groups h.toNumbered
      have hstanding : e'.standing = e.standing := by
        refine standing_of_map hgroups fun g hg => ?_
        rw [hf g hg]
        exact ⟨rfl, rfl⟩
      rw [heq]
      exact hstanding

/-! ### A run of words -/

/-- How many single words a run commits. -/
def heard (as : List Action) : Nat := (as.filterMap Action.word?).length

/-- Where the groups stand after `k` words that the group of a number knows, and no other one. -/
def shifted (n k : Nat) (p : Nat × Nat) : Nat × Nat :=
  (p.1, if p.1 = n then p.2 + k else Group.lowered^[k] p.2)

theorem shifted_shifted (n k m : Nat) (p : Nat × Nat) :
    shifted n k (shifted n m p) = shifted n (m + k) p := by
  unfold shifted
  dsimp only
  split_ifs
  · rw [Nat.add_assoc]
  · rw [Nat.add_comm m k, Function.iterate_add_apply]

theorem shifted_zero (n : Nat) (p : Nat × Nat) : shifted n 0 p = p := by
  unfold shifted
  split_ifs <;> rfl

theorem length_standing (e : Engine) : e.standing.length = e.groups.length := List.length_map _

/-- **One action**, of which only the group of a number knows the word. -/
theorem standing_of_hears (h : e.Orderly) (htwo : 2 ≤ e.groups.length) {a : Action}
    (hears : e.Hears n a) : (e.perform a).standing = e.standing.map (shifted n (heard [a])) := by
  obtain ⟨hkeeps, hknows⟩ := hears
  rcases hword : a.word? with _ | v
  · have hnone : heard [a] = 0 := by simp [heard, hword]
    rw [standing_perform h hkeeps hword, hnone]
    exact ((List.map_congr_left fun p _ => shifted_zero n p).trans (List.map_id _)).symm
  · have hone : heard [a] = 1 := by simp [heard, hword]
    rw [hone]
    obtain ⟨text, c, time, block, rfl, hw⟩ := Action.exists_of_word? hword
    show (e.commit text v.2 c time block).standing = _
    rw [standing_commit_word h.toNumbered htwo hw]
    unfold standing
    rw [List.map_map]
    refine List.map_congr_left fun g hg => ?_
    have hiff : g.knows v.1 v.2 = true ↔ g.number = n := hknows v hword g hg
    rw [Function.comp_apply]
    unfold shifted Group.confidenceAfter
    by_cases hn : g.number = n
    · rw [if_pos (hiff.mpr hn), if_pos hn]
    · rw [if_neg fun hk => hn (hiff.mp hk), if_neg hn]
      rfl

/-- **A run** of such words, with whatever else happens between them. -/
theorem standing_of_hearsOnly (as : List Action) : ∀ {e : Engine}, e.Orderly →
    2 ≤ e.groups.length → HearsOnly n e as →
    (e.after as).standing = e.standing.map (shifted n (heard as)) := by
  induction as with
  | nil =>
    intro e _ _ _
    exact ((List.map_congr_left fun p _ => shifted_zero n p).trans (List.map_id _)).symm
  | cons a as ih =>
    intro e h htwo hears
    have hstep := standing_of_hears h htwo hears.1
    have hlength : 2 ≤ (e.perform a).groups.length := by
      rw [← length_standing, hstep, List.length_map, length_standing]
      exact htwo
    have hheard : heard (a :: as) = heard [a] + heard as := by
      unfold heard
      rw [← List.length_append, ← List.filterMap_append]
      rfl
    show ((e.perform a).after as).standing = _
    rw [ih (h.perform a) hlength hears.2, hstep, List.map_map, hheard]
    exact List.map_congr_left fun p _ => shifted_shifted n (heard as) (heard [a]) p

/-- After three words or more, the group that knows them is confident, and no other one has any
confidence. -/
theorem confidence_of_hearsOnly (h : e.Orderly) (htwo : 2 ≤ e.groups.length) {as : List Action}
    (hears : HearsOnly n e as) (hthree : 3 ≤ heard as) {g : Group}
    (hg : g ∈ (e.after as).groups) :
    (g.number = n → Group.confident ≤ g.confidence) ∧ (g.number ≠ n → g.confidence = 0) := by
  have hmem : (g.number, g.confidence) ∈ (e.after as).standing := List.mem_map_of_mem hg
  rw [standing_of_hearsOnly as h htwo hears] at hmem
  obtain ⟨q, -, hq⟩ := List.mem_map.mp hmem
  obtain ⟨hnumber, hconfidence⟩ := Prod.ext_iff.mp hq
  dsimp only [shifted] at hnumber hconfidence
  rw [hnumber] at hconfidence
  constructor
  · intro hn
    rw [if_pos hn] at hconfidence
    unfold Group.confident
    omega
  · intro hn
    rw [if_neg hn, Group.iterate_lowered hthree] at hconfidence
    exact hconfidence.symm

/-- **Three words** that one group knows, and no other one, switch the language, wherever the
confidences were: the group is preferred, and clearly so, no other group has any confidence left, and
the group's candidates have their full weight. -/
theorem three_words_switch (p : Provider) (s : Settings) (d : Disk) (as : List Action)
    {bs : List Action} (htwo : 2 ≤ ((start p s d).after as).groups.length) {g : Group}
    (hg : g ∈ ((start p s d).after as).groups)
    (hears : HearsOnly g.number ((start p s d).after as) bs) (hthree : 3 ≤ heard bs) :
    let e := ((start p s d).after as).after bs
    ∃ k ∈ e.groups, k.number = g.number ∧ e.preferred = k ∧
      clearlyPreferredGroup e.groups = some k ∧
      (∀ j ∈ e.groups, j.number ≠ g.number → j.confidence = 0) ∧
      ∀ gesture, k.weightAmong e.groups gesture = 1 := by
  intro e
  have horderly := orderly_after p s d as
  have hafter : e.Orderly := by
    have hrun := orderly_after p s d (as ++ bs)
    rwa [after, List.foldl_append] at hrun
  have hstanding : e.standing = _ := standing_of_hearsOnly bs horderly htwo hears
  have hlength : 2 ≤ e.groups.length := by
    rw [← length_standing, hstanding, List.length_map, length_standing]
    exact htwo
  obtain ⟨k, hk, hkn⟩ : ∃ k ∈ e.groups, k.number = g.number := by
    have hmem : shifted g.number (heard bs) (g.number, g.confidence) ∈ e.standing := by
      rw [hstanding]
      exact List.mem_map_of_mem (List.mem_map_of_mem hg)
    obtain ⟨k, hk, heq⟩ := List.mem_map.mp hmem
    exact ⟨k, hk, (Prod.ext_iff.mp heq).1⟩
  rw [← hkn] at hears ⊢
  have hconfident : Group.confident ≤ k.confidence :=
    (confidence_of_hearsOnly horderly htwo hears hthree hk).1 rfl
  have hothers (j : Group) (hj : j ∈ e.groups) (hn : j.number ≠ k.number) : j.confidence = 0 :=
    (confidence_of_hearsOnly horderly htwo hears hthree hj).2 hn
  have hpreferred : preferredGroup e.groups = some k := by
    refine preferredGroup_eq hk fun j hj => ?_
    by_cases hn : j.number = k.number
    · exact .inl (List.inj_on_of_nodup_map hafter.distinct hj hk hn)
    · right
      rw [hothers j hj hn]
      unfold Group.confident at hconfident
      omega
  refine ⟨k, hk, rfl, ?_, clearlyPreferredGroup_eq hconfident hothers hlength hpreferred, hothers,
    weightAmong_eq_one hconfident hothers⟩
  rw [preferred, hpreferred, Option.getD_some]

/-- English was typed for long; three German words are enough, one of them at the start of a
sentence, while work is done and a whole text is learned between them. -/
theorem three_words_switch_to_german :
    let en := (({ locale := ⟨"en".toList⟩ } : Draft).addWord "the".toList 100).build
    let de := ((({ locale := ⟨"de".toList⟩ } : Draft).addWord "und".toList 100).addWord
      "das".toList 100).build
    let p := Provider.memory [("en".toList, en.dictionary), ("de".toList, de.dictionary)]
    let say (w : String) (auto : Bool) : Action :=
      .commit w.toList auto (Context.empty 3) 7 false
    let as : List Action :=
      [.reset { primary := ⟨"en".toList⟩, secondary := [⟨"de".toList⟩] }, .work, .work,
        say "the" false, say "the" false, say "the" false]
    let bs : List Action :=
      [say "Und" true, .work, say "das" false, say "the the" false, .work, say "und" false]
    let e := (start p {} default).after as
    (2 ≤ e.groups.length ∧ (∃ g ∈ e.groups, g.number = 9 ∧ HearsOnly g.number e bs) ∧
      3 ≤ heard bs) ∧
      e.standing.map (·.2) = [4, 0] ∧
      ∃ k ∈ (e.after bs).groups, k.number = 9 ∧ (e.after bs).preferred = k ∧
        clearlyPreferredGroup (e.after bs).groups = some k ∧
        (∀ j ∈ (e.after bs).groups, j.number ≠ 9 → j.confidence = 0) ∧
        ∀ gesture, k.weightAmong (e.after bs).groups gesture = 1 := by
  intro en de p say as bs e
  have htwo : 2 ≤ e.groups.length := by decide +kernel
  have hthree : 3 ≤ heard bs := by decide +kernel
  obtain ⟨g, hg, hn, hears⟩ : ∃ g ∈ e.groups, g.number = 9 ∧ HearsOnly g.number e bs := by
    decide +kernel
  have hswitch := three_words_switch p {} default as htwo hg hears hthree
  rw [hn] at hswitch
  exact ⟨⟨htwo, ⟨g, hg, hn, hears⟩, hthree⟩, by decide +kernel, hswitch⟩

end Engine

end Typeahead
