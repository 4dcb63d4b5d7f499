import Typeahead.Proofs.Engine.Spelled

/-! # A removed word is forgotten

Which path a removal takes depends on who knows the word: contacts forget it and it is put on the
blacklist, a word of the main dictionary is put on the blacklist, and so is the lower-case form of
one that the main dictionary knows only so. Whatever the path, the group no longer counts the word
as valid (`isValid_removeWord_self`), and of all words but its lower-case form it says what it said
before. `Forgets` puts this together for one group, and `forgets_removeWord` says it of all groups
of every engine that some actions lead to, along with the answer that was remembered for the
word. -/

namespace Typeahead

variable {w : Text}

namespace Group

variable {g : Group}

/-- What the removal of a word makes of a group. -/
structure Forgets (w : Text) (g g' : Group) : Prop where
  invalid : g'.isValid w = false
  gone : ∀ s ∈ g'.subs, s.contains w = false
  others : ∀ v, v ≠ w → v ≠ Text.lower w → g'.isValid v = g.isValid v

theorem contains_of_mem_removeWord (h : g.Sound) (hg : ∀ s ∈ g.subs, s.Sound) {s : Store}
    (hsound : s.Sound) (hs : s ∈ (g.removeWord w).subs) : s.contains w = false := by
  unfold Store.contains
  rw [hsound.frozen]
  exact has_of_mem_removeWord h hg hs

/-- **A removed word is invalid**: no store vouches for it any more, and if the main dictionary
does, the word is on the blacklist. -/
theorem isValid_removeWord_self (h : g.Sound) (hg : ∀ s ∈ g.subs, s.Sound)
    (hnew : ∀ s ∈ (g.removeWord w).subs, s.Sound) : (g.removeWord w).isValid w = false := by
  have hsubs : (g.removeWord w).subs.any (·.isValid w) = false := by
    rw [List.any_eq_false]
    intro s hs
    rw [Store.isValid_eq (hnew s hs), has_of_mem_removeWord h hg hs, Bool.and_false]
    exact Bool.false_ne_true
  have hmain : (g.removeWord w).main.any (·.isValid w) = g.inMain w := by
    rw [main_removeWord]
    rfl
  unfold isValid
  rw [isBlacklisted_removeWord_iff hg, barsRemoved, hsubs, hmain]
  cases g.inMain w <;> simp

theorem forgets_removeWord (h : g.Sound) (hg : ∀ s ∈ g.subs, s.Sound)
    (hnew : ∀ s ∈ (g.removeWord w).subs, s.Sound) : Forgets w g (g.removeWord w) where
  invalid := isValid_removeWord_self h hg hnew
  gone s hs := contains_of_mem_removeWord h hg (hnew s hs) hs
  others _ hne hsmall := (removeWord_of_ne hg hne hsmall).2

end Group

namespace Engine

variable {e : Engine}

/-- **A removal forgets its word**: the word is spelled right no longer, no group counts it as
valid, no store holds it, and the groups say of other words what they said before, but for its
lower-case form. -/
theorem removed_word_forgotten {p : Provider} {d : Disk} (hp : p.Sound) (hd : d.Sound)
    (s : Settings) (as : List Action) (w : Text) :
    (((start p s d).after as).removeWord w).isSpelledRight w = false ∧
      List.Forall₂ (Group.Forgets w) ((start p s d).after as).groups
        (((start p s d).after as).removeWord w).groups := by
  have h := sound_after hp hd s as
  have hremoved : (((start p s d).after as).removeWord w).Sound := h.perform (.remove w)
  generalize (start p s d).after as = e at h hremoved ⊢
  obtain ⟨ts, -, heq⟩ := removeWord_eq h.toNumbered w
  have hgroups : (e.removeWord w).groups = e.groups.map (·.removeWord w) := by rw [heq]
  have hforgets (g : Group) (hg : g ∈ e.groups) : Group.Forgets w g (g.removeWord w) := by
    refine Group.forgets_removeWord (h.soundGroups g hg) (h.sound_subs hg) fun s hs => ?_
    exact hremoved.sound_subs (hgroups ▸ List.mem_map_of_mem hg) s hs
  constructor
  · have hnone : (e.removeWord w).spelling.get? w = none := by
      rw [get?_removeWord h.toNumbered, if_pos List.mem_cons_self]
    have hinvalid : (e.groups.map (·.removeWord w)).any (·.isValid w) = false := by
      rw [List.any_eq_false]
      intro k hk
      obtain ⟨g, hg, rfl⟩ := List.mem_map.mp hk
      exact Bool.eq_false_iff.mp (hforgets g hg).invalid
    unfold isSpelledRight Typeahead.isSpelledRight
    rw [hnone, Option.getD_none, hgroups, hinvalid, Bool.and_false]
  · rw [hgroups, List.forall₂_map_right_iff, List.forall₂_same]
    exact hforgets

/-- A contact that the user's own words hold too, and that was typed in lower case before. -/
theorem removed_word_forgotten_contact :
    let l := (({ locale := ⟨"en".toList⟩ } : Draft).addWord "hello".toList 100).build
    let p := Provider.memory [("en".toList, l.dictionary)]
    let as : List Action :=
      [.reset { primary := ⟨"en".toList⟩, contacts := true }, .work,
        .add 0 .contacts "Hello".toList 90, .add 0 .user "Hello".toList 80,
        .commit "hello".toList false (.empty 3) 7 false, .work]
    ((start p {} default).after as).spelling.get? "Hello".toList = some true ∧
      ((start p {} default).after as).groups.map (·.isValid "Hello".toList) = [true] ∧
      (((start p {} default).after as).removeWord "Hello".toList).isSpelledRight
        "Hello".toList = false ∧
      List.Forall₂ (Group.Forgets "Hello".toList) ((start p {} default).after as).groups
        (((start p {} default).after as).removeWord "Hello".toList).groups := by
  intro l p as
  have hp : p.Sound := Provider.sound_lexicon _ l
  refine ⟨by decide +kernel, by decide +kernel, ?_⟩
  exact removed_word_forgotten hp Disk.sound_default {} as "Hello".toList

end Engine

end Typeahead
