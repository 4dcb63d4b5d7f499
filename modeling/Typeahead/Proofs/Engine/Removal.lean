import Typeahead.Proofs.Engine.Reachable

/-! # Removing a word from a group

A removed word is forgotten by every store of the group (`has_of_mem_removeWord`), and it is put on
the blacklist if the contacts held it or the main dictionary vouches for it
(`isBlacklisted_removeWord_iff`). Nothing is taken off the blacklist. -/

namespace Typeahead

namespace Group

variable {g : Group} {w v : Text} {os : List Origin}

/-- A removal puts the word on the group's blacklist, or it is there already. -/
def barsRemoved (g : Group) (w : Text) : Bool := g.isBlacklisted w || g.inContacts w || g.inMain w

/-! ### Forgetting -/

theorem mem_forgetIn (hg : ∀ s ∈ g.subs, s.Sound) {u : Store} (hu : u ∈ (g.forgetIn os w).subs) :
    ∃ s ∈ g.subs, u.origin = s.origin ∧
      (u.tables.words.has v = true → s.tables.words.has v = true) ∧
      (os.contains s.origin = true → u.tables.words.has w = false) := by
  obtain ⟨s, hs, rfl⟩ := List.mem_map.mp hu
  refine ⟨s, hs, ?_⟩
  split_ifs with ho
  · rw [Store.remove_eq (hg s hs)]
    refine ⟨rfl, fun hv => ?_, fun _ => ?_⟩
    · replace hv : (s.tables.remove w).words.has v = true := hv
      rw [Tables.has_words_remove (hg s hs).tables, Bool.and_eq_true] at hv
      exact hv.2
    · show (s.tables.remove w).words.has w = false
      rw [Tables.has_words_remove (hg s hs).tables, bne_self_eq_false, Bool.false_and]
  · exact ⟨rfl, fun hv => hv, fun hc => absurd hc ho⟩

theorem inContacts_forgetIn (hg : ∀ s ∈ g.subs, s.Sound) (ho : Origin.contacts ∉ os) :
    (g.forgetIn os w).inContacts v = g.inContacts v := by
  obtain ⟨k, hsubs, horigin, hother⟩ : ∃ k : Store → Store,
      (g.forgetIn os w).subs = g.subs.map k ∧ (∀ s ∈ g.subs, (k s).origin = s.origin) ∧
        ∀ s, os.contains s.origin = false → k s = s := by
    refine ⟨_, rfl, fun s hs => ?_, fun s hs => ?_⟩
    · split_ifs
      · rw [Store.remove_eq (hg s hs)]
        rfl
      · rfl
    · rw [hs]
      rfl
  have hsub : (g.forgetIn os w).sub? .contacts = g.sub? .contacts := by
    rw [sub?_map hsubs horigin]
    rcases hs : g.sub? .contacts with _ | s
    · rfl
    · refine congrArg some (hother s ?_)
      rw [(mem_of_sub? hs).2]
      simpa using ho
  rw [inContacts, hsub, inContacts]

theorem main_removeWord (g : Group) (w : Text) : (g.removeWord w).main = g.main :=
  removeWord_induction (P := fun k => k.main = g.main) rfl (fun _ _ hk => hk)
    fun _ _ _ hk => hk

/-- Only contacts still hold a word that was forgotten by the others. -/
theorem contacts_of_mem_forgetIn (h : g.Sound) (hg : ∀ s ∈ g.subs, s.Sound) {u : Store}
    (hu : u ∈ (g.forgetIn [.history, .user] w).subs) (hheld : u.tables.words.has w = true) :
    u.origin = .contacts ∧ g.inContacts w = true := by
  obtain ⟨s, hs, horigin, hkept, hgone⟩ := mem_forgetIn (v := w) hg hu
  have hlearned := h.learned s hs
  have hnot : [Origin.history, .user].contains s.origin ≠ true := fun hc => by
    rw [hgone hc] at hheld
    exact nomatch hheld
  have hcontacts : s.origin = .contacts := by
    revert hlearned hnot
    cases s.origin <;> decide
  refine ⟨horigin.trans hcontacts, ?_⟩
  have hsub := sub?_of_mem h hs
  rw [hcontacts] at hsub
  rw [inContacts, hsub]
  show s.contains w = true
  unfold Store.contains
  rw [(hg s hs).frozen]
  exact hkept hheld

/-- **After a removal no store of the group holds the word.** -/
theorem has_of_mem_removeWord (h : g.Sound) (hg : ∀ s ∈ g.subs, s.Sound) {u : Store}
    (hu : u ∈ (g.removeWord w).subs) : u.tables.words.has w = false := by
  refine Bool.eq_false_iff.mpr fun hheld => ?_
  unfold removeWord at hu
  dsimp only at hu
  rw [inContacts_forgetIn hg (by decide)] at hu
  by_cases hin : g.inContacts w = true
  · rw [if_pos hin] at hu
    have hsound := (Engine.updates_forgetIn hg [.history, .user] w).sound_subs
    obtain ⟨s, hs, horigin, hkept, hgone⟩ := mem_forgetIn (v := w) hsound hu
    obtain ⟨hcontacts, -⟩ := contacts_of_mem_forgetIn h hg hs (hkept hheld)
    rw [hgone (by rw [hcontacts]; rfl)] at hheld
    exact nomatch hheld
  · have hu' : u ∈ (g.forgetIn [.history, .user] w).subs := by
      rw [if_neg hin] at hu
      split_ifs at hu
      · exact hu
      · exact hu
      · exact hu
    exact hin (contacts_of_mem_forgetIn h hg hu' hheld).2

/-! ### The blacklist -/

theorem isBlacklisted_forgetIn (g : Group) (os : List Origin) (w v : Text) :
    (g.forgetIn os w).isBlacklisted v = g.isBlacklisted v := rfl

theorem isBlacklisted_removeWord_iff (hg : ∀ s ∈ g.subs, s.Sound) :
    (g.removeWord w).isBlacklisted w = g.barsRemoved w := by
  have hmain : (g.forgetIn [.history, .user] w).inMain w = g.inMain w := rfl
  unfold removeWord barsRemoved
  dsimp only
  rw [inContacts_forgetIn hg (by decide), hmain]
  split_ifs with hin hvouched hsmall
  · rw [isBlacklisted_blacklistWord, hin]
    simp
  · rw [isBlacklisted_blacklistWord, hvouched]
    simp
  · have hne : (w == Text.lower w) = false := by
      rw [beq_eq_false_iff_ne]
      exact fun he => hsmall.1 he.symm
    rw [isBlacklisted_blacklistWord, isBlacklisted_forgetIn]
    simp [hne, hin, hvouched]
  · rw [isBlacklisted_forgetIn]
    simp [hin, hvouched]

/-- A removal takes nothing off the blacklist. -/
theorem isBlacklisted_removeWord (h : g.isBlacklisted v = true) :
    (g.removeWord w).isBlacklisted v = true := by
  refine removeWord_induction (P := fun k => k.isBlacklisted v = true) h
    (fun _ _ hk => hk) fun k u _ hk => ?_
  rw [isBlacklisted_blacklistWord, hk, Bool.or_true]

theorem isBlacklisted_removeWord_of_ne (hv : v ≠ w) (hsmall : v ≠ Text.lower w) :
    (g.removeWord w).isBlacklisted v = g.isBlacklisted v := by
  refine removeWord_induction (P := fun k => k.isBlacklisted v = g.isBlacklisted v) rfl
    (fun _ _ hk => hk) fun k u hu hk => ?_
  have hne : v ≠ u := by
    rcases hu with rfl | rfl
    · exact hv
    · exact hsmall
  rw [isBlacklisted_blacklistWord, beq_eq_false_iff_ne.mpr hne, Bool.false_or, hk]

end Group

end Typeahead
