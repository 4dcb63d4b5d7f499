import Typeahead.Lexicon.Draft
import Typeahead.Proofs.Engine.Removal
import Typeahead.Proofs.Text.Pieces

/-! # Typing a removed word again

A single word that is committed changes each group by itself: it adjusts the confidence, and where
the group is then as confident as the preferred one, it takes the word off the blacklist
(`groups_commit_word`). A removal puts the word or its lower-case form on a blacklist, but the form
that was typed is the only one to be taken off again. So of what a removal puts on the blacklists,
typing the word again takes off the word itself where the group is as confident as the preferred
one, and nothing else (`retyped_word_listed_iff`). -/

namespace Typeahead

/-- What is preferred of the best group so far and the next one. -/
def better (best : Option Group) (g : Group) : Option Group :=
  match best with
  | some b => if g.confidence ≤ b.confidence then best else some g
  | none => some g

theorem preferredGroup_eq_foldl (gs : List Group) : preferredGroup gs = gs.foldl better none :=
  rfl

theorem better_map {f : Group → Group} (hf : ∀ g, (f g).confidence = g.confidence) (g : Group) :
    ∀ best, better (best.map f) (f g) = (better best g).map f
  | none => rfl
  | some b => by
    simp only [better, Option.map_some, hf]
    split_ifs <;> rfl

/-- The preferred group is chosen by confidence only. -/
theorem preferredGroup_map {f : Group → Group} (hf : ∀ g, (f g).confidence = g.confidence)
    (gs : List Group) : preferredGroup (gs.map f) = (preferredGroup gs).map f := by
  have hfold : ∀ (gs : List Group) (best : Option Group),
      (gs.map f).foldl better (best.map f) = (gs.foldl better best).map f := by
    intro gs
    induction gs with
    | nil => exact fun best => rfl
    | cons g gs ih =>
      intro best
      rw [List.map_cons, List.foldl_cons, List.foldl_cons, ← ih, better_map hf]
  rw [preferredGroup_eq_foldl, preferredGroup_eq_foldl]
  exact hfold gs none

theorem better_some (b g : Group) : ∃ k, better (some b) g = some k := by
  dsimp only [better]
  split_ifs
  · exact ⟨b, rfl⟩
  · exact ⟨g, rfl⟩

theorem preferredGroup_isSome {gs : List Group} (h : gs ≠ []) : ∃ g, preferredGroup gs = some g := by
  have hfold : ∀ (gs : List Group) (b : Group), ∃ g, gs.foldl better (some b) = some g := by
    intro gs
    induction gs with
    | nil => exact fun b => ⟨b, rfl⟩
    | cons g gs ih =>
      intro b
      obtain ⟨k, hk⟩ := better_some b g
      rw [List.foldl_cons, hk]
      exact ih k
  obtain ⟨g, gs, rfl⟩ := List.exists_cons_of_ne_nil h
  rw [preferredGroup_eq_foldl]
  exact hfold gs g

namespace Engine

variable {e : Engine} {w v : Text} {auto block : Bool} {c : Context} {time : Nat}

/-! ### A single word that is committed -/

/-- What committing a word does to the confidence of a group. -/
def adjustment (e : Engine) (w : Text) (auto : Bool) : Group → Group :=
  if e.groups.length ≤ 1 || w.contains ' ' then id else adjust w auto

/-- The group without the word on its blacklist, if it is as confident as `confidence`. -/
def lift (confidence : Nat) (w : Text) (g : Group) : Group :=
  if g.confidence = confidence then g.unblacklistWord w else g

theorem groups_adjustConfidences (e : Engine) (w : Text) (auto : Bool) :
    (e.adjustConfidences w auto).groups = e.groups.map (e.adjustment w auto) := by
  unfold adjustConfidences adjustment
  split_ifs
  · exact (List.map_id _).symm
  · rfl

theorem groups_promote (e : Engine) (w : Text) (auto : Bool) :
    (e.promote w auto).groups = e.groups := by
  unfold promote
  split_ifs
  · split <;> rfl
  · rfl

theorem groups_learnWord (e : Engine) (g : Group) (c : Context) (w : Text) (auto : Bool)
    (time : Nat) (block : Bool) : (e.learnWord g c w auto time block).1.groups = e.groups := by
  unfold learnWord
  split
  · rfl
  · dsimp only
    split_ifs <;> rfl

theorem groups_unblacklist (h : (e.groups.map (·.number)).Nodup) (confidence : Nat) (w : Text) :
    (e.unblacklist confidence w).groups = e.groups.map (lift confidence w) := by
  have hfold := foldl_putListed_eq (p := fun g => g.confidence = confidence)
    (f := (·.unblacklistWord w)) (fun _ => rfl) e.groups e [] rfl h
  rw [unblacklist, hfold]
  rfl

theorem confidence_lift (confidence : Nat) (w : Text) (g : Group) :
    (lift confidence w g).confidence = g.confidence := by
  unfold lift
  split_ifs <;> rfl

theorem adjustment_eq (e : Engine) (w : Text) (auto : Bool) (g : Group) :
    (e.adjustment w auto g).number = g.number ∧
      (e.adjustment w auto g).blacklist = g.blacklist := by
  unfold adjustment
  split_ifs
  · exact ⟨rfl, rfl⟩
  · unfold adjust
    split_ifs <;> exact ⟨rfl, rfl⟩

/-- **A single word that is committed** changes each group by itself. -/
theorem groups_commit_word (h : e.Numbered) (hw : Text.words w = [w]) (auto : Bool) (c : Context)
    (time : Nat) (block : Bool) :
    (e.commit w auto c time block).groups = e.groups.map fun g =>
      lift (e.commit w auto c time block).preferred.confidence w (e.adjustment w auto g) := by
  -- the engine once confidences are adjusted, and what is learned from there
  obtain ⟨e₁, he₁⟩ : ∃ e₁, (e.adjustConfidences w auto).promote w auto = e₁ := ⟨_, rfl⟩
  have hgroups₁ : e₁.groups = e.groups.map (e.adjustment w auto) := by
    rw [← he₁, groups_promote, groups_adjustConfidences]
  by_cases hne : e.groups = []
  · have hempty : (e.commit w auto c time block).groups.length = 0 := by
      obtain ⟨e', hcommits, heq⟩ := commits_commit h w auto c time block
      obtain ⟨f, hf, -⟩ := hcommits.groups
      rw [heq]
      show e'.groups.length = 0
      rw [hf, hne]
      rfl
    rw [List.length_eq_zero_iff.mp hempty, hne]
    rfl
  · have hnumbers : (e₁.groups.map (·.number)).Nodup := by
      rw [hgroups₁, numbers_map fun g => (adjustment_eq e w auto g).1]
      exact h.distinct
    have hnumbered : ({ e₁ with nextNumber := e.nextNumber } : Engine).Numbered := by
      refine ⟨hnumbers, ?_⟩
      show ∀ n ∈ e₁.groups.map (·.number), n < e.nextNumber
      rw [hgroups₁, numbers_map fun g => (adjustment_eq e w auto g).1]
      exact h.below
    have hsome : e₁.groups ≠ [] := by simp [hgroups₁, hne]
    obtain ⟨p, hp⟩ := preferredGroup_isSome hsome
    have hpreferred : e₁.preferred = p := by rw [preferred, hp, Option.getD_some]
    have hfound : e₁.group? p.number = some p := group?_of_mem hnumbered (mem_of_preferredGroup hp)
    have hcommit : (e.commit w auto c time block).groups = e₁.groups.map (lift p.confidence w) := by
      unfold commit
      rw [hw]
      dsimp only
      rw [he₁, hpreferred]
      unfold learnWords
      rw [hfound, Option.getD_some]
      show ((e₁.learnWord p c w auto time block).1.unblacklist p.confidence w).groups = _
      rw [groups_unblacklist (by rw [groups_learnWord]; exact hnumbers), groups_learnWord]
    have hlast : (e.commit w auto c time block).preferred.confidence = p.confidence := by
      rw [preferred, hcommit, preferredGroup_map (confidence_lift p.confidence w), hp,
        Option.map_some, Option.getD_some, confidence_lift]
    rw [hlast, hcommit, hgroups₁, List.map_map]
    rfl

theorem isBlacklisted_lift (confidence : Nat) (g : Group) (w v : Text) :
    (lift confidence w g).isBlacklisted v = true ↔
      g.isBlacklisted v = true ∧ (v ≠ w ∨ g.confidence ≠ confidence) := by
  unfold lift
  split_ifs with hconf
  · rw [Group.isBlacklisted_unblacklistWord, Bool.and_eq_true, bne_iff_ne]
    simp [hconf]
  · simp [hconf]

/-! ### Removing and typing again -/

/-- **A removed word that is typed again**: what the removal put on a group's blacklist is the word
or its lower-case form, and it stays there exactly if it is not the word as typed or if the group is
not as confident then as the preferred one. -/
theorem retyped_word_listed_iff (p : Provider) (s : Settings) (d : Disk) (as : List Action)
    (hne : w ≠ []) (hword : ∀ a ∈ w, Text.isBlank a = false) (auto : Bool) (c : Context)
    (time : Nat) (block : Bool) {g h k : Group}
    (hg : g ∈ ((start p s d).after as).groups)
    (hh : h ∈ (((start p s d).after as).removeWord w).groups) (hhg : h.number = g.number)
    (hk : k ∈ ((((start p s d).after as).removeWord w).commit w auto c time block).groups)
    (hkg : k.number = g.number)
    (hbefore : g.isBlacklisted v = false) (hafter : h.isBlacklisted v = true) :
    (v = w ∨ v = Text.lower w) ∧
      (k.isBlacklisted v = true ↔ v ≠ w ∨ k.confidence ≠
        ((((start p s d).after as).removeWord w).commit w auto c time
          block).preferred.confidence) := by
  have horderly := orderly_after p s d as
  obtain ⟨e, he⟩ : ∃ e, (start p s d).after as = e := ⟨_, rfl⟩
  rw [he] at hg hh hk horderly ⊢
  have hgroups : (e.removeWord w).groups = e.groups.map (·.removeWord w) := by
    rw [removeWord_eq_map horderly.toNumbered]
  have hremoved := orderly_removeWord horderly w
  -- the numbers tell which group is which
  obtain rfl : h = g.removeWord w := by
    have hmem : g.removeWord w ∈ (e.removeWord w).groups := hgroups ▸ List.mem_map_of_mem hg
    refine List.inj_on_of_nodup_map hremoved.distinct hh hmem ?_
    rw [hhg, number_removeWord]
  have hcommit := groups_commit_word hremoved.toNumbered (Text.words_of_forall hne hword) auto c
    time block
  obtain ⟨confidence, hconf⟩ :
      ∃ n, ((e.removeWord w).commit w auto c time block).preferred.confidence = n := ⟨_, rfl⟩
  rw [hconf] at hcommit ⊢
  have hnumber (g : Group) :
      (lift confidence w ((e.removeWord w).adjustment w auto g)).number = g.number := by
    unfold lift
    split_ifs <;> exact (adjustment_eq _ w auto g).1
  obtain rfl : k = lift confidence w ((e.removeWord w).adjustment w auto (g.removeWord w)) := by
    rw [hcommit] at hk
    obtain ⟨k', hk', rfl⟩ := List.mem_map.mp hk
    rw [hnumber] at hkg
    rw [List.inj_on_of_nodup_map hremoved.distinct hk' hh (hkg.trans hhg.symm)]
  refine ⟨?_, ?_⟩
  · by_contra hnot
    rw [not_or] at hnot
    rw [Group.isBlacklisted_removeWord_of_ne hnot.1 hnot.2, hbefore] at hafter
    exact nomatch hafter
  · have hlisted : ((e.removeWord w).adjustment w auto (g.removeWord w)).isBlacklisted v = true := by
      rw [Group.isBlacklisted, (adjustment_eq _ w auto (g.removeWord w)).2]
      exact hafter
    rw [isBlacklisted_lift, confidence_lift, hlisted]
    exact ⟨fun hstays => hstays.2, fun hstays => ⟨rfl, hstays⟩⟩

/-- A word of two locales is removed and typed again while the second one is preferred: the first
one keeps the ban, the second one lifts it. -/
theorem retyped_word_listed_iff_two_locales :
    let en := (({ locale := ⟨"en".toList⟩ } : Draft).addWord "the".toList 100).build
    let de := ((({ locale := ⟨"de".toList⟩ } : Draft).addWord "the".toList 100).addWord
      "und".toList 100).build
    let p := Provider.memory [("en".toList, en.dictionary), ("de".toList, de.dictionary)]
    let w := "the".toList
    let as : List Action :=
      [.reset { primary := ⟨"en".toList⟩, secondary := [⟨"de".toList⟩] }, .work, .work,
        .commit "und".toList false (Context.empty 3) 7 false, .work]
    let e := (start p {} default).after as
    let e' := (e.removeWord w).commit w false (Context.empty 3) 8 false
    e.groups.all (fun g => !g.isBlacklisted w) = true ∧
      (e.removeWord w).groups.all (·.isBlacklisted w) = true ∧
      e'.groups.map (fun k => (k.confidence, k.isBlacklisted w)) = [(0, true), (1, false)] ∧
      ∀ g ∈ e.groups, ∀ h ∈ (e.removeWord w).groups, h.number = g.number →
        ∀ k ∈ e'.groups, k.number = g.number →
          (k.isBlacklisted w = true ↔ k.confidence ≠ e'.preferred.confidence) := by
  intro en de p w as e e'
  have hne : w ≠ [] := by decide
  have hletters : w.all (fun a => !Text.isBlank a) = true := by decide
  have hword : ∀ a ∈ w, Text.isBlank a = false := fun a ha =>
    (Bool.not_eq_true' _).mp (List.all_eq_true.mp hletters a ha)
  have hbefore : e.groups.all (fun g => !g.isBlacklisted w) = true := by decide +kernel
  have hafter : (e.removeWord w).groups.all (·.isBlacklisted w) = true := by decide +kernel
  refine ⟨hbefore, hafter, by decide +kernel, fun g hg h hh hhg k hk hkg => ?_⟩
  have hfree : g.isBlacklisted w = false :=
    (Bool.not_eq_true' _).mp (List.all_eq_true.mp hbefore g hg)
  have hbanned : h.isBlacklisted w = true := List.all_eq_true.mp hafter h hh
  have hlisted := (retyped_word_listed_iff (v := w) p {} default as hne hword false
    (Context.empty 3) 8 false hg hh hhg hk hkg hfree hbanned).2
  exact hlisted.trans (or_iff_right fun hother => hother rfl)

/-- **Entries that a removal makes outlive the word's being typed again**: where another locale is
more confident, so that the word stays wrong, and where it is the lower-case form that was put on
the blacklist. -/
theorem removal_outlives_retyping :
    let en := (({ locale := ⟨"en".toList⟩ } : Draft).addWord "the".toList 100).build
    let de := ((({ locale := ⟨"de".toList⟩ } : Draft).addWord "the".toList 100).addWord
      "und".toList 100).build
    let p := Provider.memory [("en".toList, en.dictionary), ("de".toList, de.dictionary)]
    let e := (start p {} default).after
      [.reset { primary := ⟨"en".toList⟩, secondary := [⟨"de".toList⟩] }, .work, .work,
        .commit "und".toList false (Context.empty 3) 7 false, .work]
    let e' := (start p {} default).after [.reset { primary := ⟨"en".toList⟩ }, .work]
    (e.groups.map (·.blacklist.words) = [[], []] ∧
      (e.removeWord "the".toList).groups.map (·.blacklist.words) =
        [["the".toList], ["the".toList]] ∧
      ((e.removeWord "the".toList).commit "the".toList false (Context.empty 3) 8
        false).groups.map (·.blacklist.words) = [["the".toList], []] ∧
      e.isSpelledRight "the".toList = true ∧
      ((e.removeWord "the".toList).commit "the".toList false (Context.empty 3) 8
        false).isSpelledRight "the".toList = false) ∧
      e'.groups.map (·.blacklist.words) = [[]] ∧
      (e'.removeWord "The".toList).groups.map (·.blacklist.words) = [["the".toList]] ∧
      ((e'.removeWord "The".toList).commit "The".toList false (Context.empty 3) 8
        false).groups.map (·.blacklist.words) = [["the".toList]] := by
  decide +kernel

end Engine

end Typeahead
