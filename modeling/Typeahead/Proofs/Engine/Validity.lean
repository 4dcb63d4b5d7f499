import Typeahead.Proofs.Engine.Removal
import Typeahead.Proofs.Engine.Shown

/-! # What changes the spelling of a word

Whether a word is spelled right is up to the blacklists, the main dictionaries and the stores of the
groups. Most actions leave it as it is. What is learned or unlearned counts for nothing here, since
histories vouch for no word; a commit matters only if it lifts the last ban of the word, a removal
only if it is about the word or the word is the lower-case form of what it is about, and an addition
only if it is about the word itself. `MayRevise` names all actions that are left, and all others
change nothing (`isSpelledRight_perform`), one after another (`isSpelledRight_after`). -/

namespace Typeahead

variable {v w : Text}

/-- The task may change the spelling of a word: the word is promoted, or a main dictionary is
loaded. -/
def Task.MayRevise (v : Text) : Task → Prop
  | .promote _ w => v = w
  | .loadMain .. => True
  | _ => False

instance (v : Text) : (t : Task) → Decidable (t.MayRevise v)
  | .promote _ w => inferInstanceAs (Decidable (v = w))
  | .loadMain .. => .isTrue trivial
  | .learn .. | .unlearn .. | .writeList _ => .isFalse id

/-! ### What a group says of a word -/

namespace Group

variable {g g' : Group}

theorem isValid_of_eq (hban : g'.isBlacklisted v = g.isBlacklisted v) (hmain : g'.main = g.main)
    (hsubs : g'.subs.any (·.isValid v) = g.subs.any (·.isValid v)) :
    g'.isValid v = g.isValid v := by
  unfold isValid
  rw [hban, hmain, hsubs]

theorem any_isValid_forgetIn (hg : ∀ s ∈ g.subs, s.Sound) (os : List Origin) (hv : v ≠ w) :
    (g.forgetIn os w).subs.any (·.isValid v) = g.subs.any (·.isValid v) := by
  refine any_map_of_forall fun s hs => ?_
  split_ifs
  · have hsound := hg s hs
    rw [Store.remove_eq hsound]
    show (s.withTables (s.tables.remove w)).isValid v = _
    rw [Store.isValid_eq (hsound.withTables (Tables.sound_remove hsound.tables w)),
      Store.isValid_eq hsound]
    show (s.origin != .history && (s.tables.remove w).words.has v) = _
    rw [Tables.has_words_remove hsound.tables, bne_iff_ne.mpr hv, Bool.true_and]
  · rfl

theorem any_isValid_removeWord (hg : ∀ s ∈ g.subs, s.Sound) (hv : v ≠ w) :
    (g.removeWord w).subs.any (·.isValid v) = g.subs.any (·.isValid v) := by
  refine (removeWord_induction (P := fun k => (∀ s ∈ k.subs, s.Sound) ∧
    k.subs.any (·.isValid v) = g.subs.any (·.isValid v)) ⟨hg, rfl⟩ (fun k os hk => ?_)
    fun _ _ _ hk => hk).2
  exact ⟨(Engine.updates_forgetIn hk.1 os w).sound_subs,
    (any_isValid_forgetIn hk.1 os hv).trans hk.2⟩

/-- **A removal** changes nothing of other words, its word in lower case aside. -/
theorem removeWord_of_ne (hg : ∀ s ∈ g.subs, s.Sound) (hv : v ≠ w) (hsmall : v ≠ Text.lower w) :
    (g.removeWord w).isBlacklisted v = g.isBlacklisted v ∧
      (g.removeWord w).isValid v = g.isValid v := by
  have hban : (g.removeWord w).isBlacklisted v = g.isBlacklisted v :=
    isBlacklisted_removeWord_of_ne hv hsmall
  exact ⟨hban, isValid_of_eq hban (main_removeWord g w) (any_isValid_removeWord hg hv)⟩

end Group

theorem isSpelledRight_map {gs : List Group} {f : Group → Group}
    (hf : ∀ g ∈ gs, (f g).isBlacklisted v = g.isBlacklisted v ∧ (f g).isValid v = g.isValid v) :
    isSpelledRight (gs.map f) v = isSpelledRight gs v := by
  unfold isSpelledRight
  rw [any_map_of_forall fun g hg => (hf g hg).1, any_map_of_forall fun g hg => (hf g hg).2]

theorem Store.isValid_of_add {s s' : Store} (h : s.Sound) {f : Nat} (hadd : s.add w f = .ok s')
    (hv : v ≠ w) : s'.isValid v = s.isValid v := by
  have hsound := (updates_add h hadd).sound
  rw [add_eq h] at hadd
  split_ifs at hadd
  obtain rfl := Except.ok.inj hadd
  rw [isValid_eq hsound, isValid_eq h]
  show (s.origin != .history && (s.tables.add w f).words.has v) = _
  rw [Tables.has_words_add h.tables, beq_false_of_ne hv, Bool.false_or]

namespace Engine

variable {e e' : Engine} {s s' : Store}

theorem isSpelledRight_of_bans (h : e.Bans v) : Typeahead.isSpelledRight e.groups v = false := by
  have hban : e.groups.any (·.isBlacklisted v) = true := List.any_eq_true.mpr h
  rw [Typeahead.isSpelledRight, hban]
  rfl

/-! ### Stores -/

/-- Another version of a store that says the same of the word. -/
theorem isSpelledRight_putStore (h : e.Consistent) (hs : s ∈ e.stores)
    (hn : s'.number = s.number) (hvalid : s'.isValid v = s.isValid v) :
    Typeahead.isSpelledRight (e.putStore s').groups v = Typeahead.isSpelledRight e.groups v := by
  refine isSpelledRight_map (f := (·.putStore s')) fun g hg => ⟨rfl, ?_⟩
  refine Group.isValid_of_eq rfl rfl (any_map_of_forall fun u hmem => ?_)
  split_ifs with hnumber
  · rw [h.eq_of_number (mem_stores_of_mem_subs hg hmem) hs (hnumber.trans hn), hvalid]
  · rfl

/-- A history vouches for nothing, whatever becomes of it. -/
theorem isSpelledRight_putStore_history (h : e.Consistent) (hs : s ∈ e.stores) (hu : s.Updates s')
    (ho : s.origin = .history) :
    Typeahead.isSpelledRight (e.putStore s').groups v = Typeahead.isSpelledRight e.groups v := by
  refine isSpelledRight_putStore h hs hu.number ?_
  rw [Store.isValid_history hu.sound (hu.origin.trans ho),
    Store.isValid_history (h.soundStores s hs) ho]

theorem isSpelledRight_clearedHistory (h : e.Consistent) (v : Text) :
    Typeahead.isSpelledRight (e.groups.map clearedHistory) v =
      Typeahead.isSpelledRight e.groups v := by
  refine isSpelledRight_map fun g hg => ?_
  rcases clearedHistory_cases (h.sound_subs hg) with heq | ⟨s, hs, horigin, heq⟩
  · rw [heq]
    exact ⟨rfl, rfl⟩
  · have hsound := h.sound_subs hg s hs
    rw [heq]
    refine ⟨rfl, Group.isValid_of_eq rfl rfl (any_map_of_forall fun u hu => ?_)⟩
    split_ifs with hn
    · rw [h.eq_of_number (mem_stores_of_mem_subs hg hu) (mem_stores_of_mem_subs hg hs) hn,
        Store.isValid_history (hsound.withTables Tables.sound_empty) horigin,
        Store.isValid_history hsound horigin]
    · rfl

theorem isSpelledRight_addWord (h : e.Consistent) {place : Nat} {o : Origin} {f : Nat}
    (hnot : ¬ (o ≠ .history ∧ v = w)) :
    Typeahead.isSpelledRight (e.addWord place o w f).groups v =
      Typeahead.isSpelledRight e.groups v := by
  rcases addWord_cases e place o w f with heq | ⟨g, s, s', hg, hsub, hadd, heq⟩
  · rw [heq]
  · obtain ⟨hmem, horigin⟩ := Group.mem_of_sub? hsub
    have hs : s ∈ e.stores := mem_stores_of_mem_subs hg hmem
    have hupdates := Store.updates_add (h.soundStores s hs) hadd
    rw [heq]
    by_cases ho : o = .history
    · exact isSpelledRight_putStore_history h hs hupdates (horigin.trans ho)
    · refine isSpelledRight_putStore h hs hupdates.number ?_
      exact Store.isValid_of_add (h.soundStores s hs) hadd fun hv => hnot ⟨ho, hv⟩

/-! ### Work in the background -/

theorem isSpelledRight_ran (h : e.Consistent) {q : Queued Task} (hq : q.Rooted e.labels)
    (hnot : ¬ q.task.MayRevise v) (hran : e.Ran q.task e') :
    Typeahead.isSpelledRight e'.groups v = Typeahead.isSpelledRight e.groups v := by
  obtain ⟨t, token⟩ := q
  have horigin (s : Store) (hs : s ∈ e.stores) (hlabel : (s.number, Origin.history) ∈ e.labels) :
      s.origin = .history := by
    obtain ⟨u, hu, hn, ho⟩ := mem_labels_iff.mp hlabel
    rw [h.eq_of_number hs hu hn.symm]
    exact ho
  cases hran with
  | nothing => rfl
  | @store _ s s' forgets hs hwrites =>
    have hupdates := hwrites.updates (h.soundStores s hs)
    cases hwrites with
    | learn => exact isSpelledRight_putStore_history h hs hupdates (horigin s hs hq.1)
    | promote hadd =>
      exact isSpelledRight_putStore h hs hupdates.number
        (Store.isValid_of_add (h.soundStores s hs) hadd hnot)
    | unlearn => exact isSpelledRight_putStore_history h hs hupdates (horigin s hs hq)
  | list => rfl
  | main => exact absurd trivial hnot

theorem isSpelledRight_runNext (h : e.Sound)
    (hnot : ∀ q ∈ e.queue.queued.head?, ¬ q.task.MayRevise v) :
    Typeahead.isSpelledRight e.runNext.groups v = Typeahead.isSpelledRight e.groups v := by
  rcases runNext_cases h.free with ⟨-, heq⟩ | ⟨q, rest, e', hqueue, hran, -, heq⟩
  · rw [heq]
  · have hq : q ∈ e.queue.queued := hqueue ▸ List.mem_cons_self
    have hhead : e.queue.queued.head? = some q := by rw [hqueue, List.head?_cons]
    rw [heq]
    show Typeahead.isSpelledRight e'.groups v = _
    exact isSpelledRight_ran h.toConsistent (h.tasks q hq) (hnot q hhead) hran

/-! ### Commits and removals -/

/-- **A committed text** changes the spelling of a word only by lifting its last ban. -/
theorem isSpelledRight_commit (h : e.Numbered) {text : Text} {auto : Bool} {c : Context}
    {time : Nat} {block : Bool} (hban : e.Bans v → (e.commit text auto c time block).Bans v) :
    Typeahead.isSpelledRight (e.commit text auto c time block).groups v =
      Typeahead.isSpelledRight e.groups v := by
  by_cases hbans : e.Bans v
  · rw [isSpelledRight_of_bans hbans, isSpelledRight_of_bans (hban hbans)]
  · obtain ⟨e', hcommits, heq⟩ := commits_commit h text auto c time block
    obtain ⟨f, hf, hrelisted⟩ := hcommits.groups
    rw [heq]
    show Typeahead.isSpelledRight e'.groups v = _
    rw [hf]
    refine isSpelledRight_map fun g hg => ?_
    have hfree : g.isBlacklisted v = false := Bool.eq_false_iff.mpr fun hb => hbans ⟨g, hg, hb⟩
    have hstays : (f g).isBlacklisted v = g.isBlacklisted v := by
      rw [hfree]
      exact Bool.eq_false_iff.mpr fun hb => Bool.eq_false_iff.mp hfree ((hrelisted g).lifted v hb)
    have hmain : (f g).main = g.main := by rw [(hrelisted g).rest]
    refine ⟨hstays, Group.isValid_of_eq hstays hmain ?_⟩
    rw [subs_of_relisted (hrelisted g)]

/-- No ban is lifted but of a word of the text. -/
theorem mem_words_of_lifted (h : e.Numbered) {text : Text} {auto : Bool} {c : Context} {time : Nat}
    {block : Bool} (hban : e.Bans v) (hlifted : ¬ (e.commit text auto c time block).Bans v) :
    v ∈ Text.words text := by
  by_contra hmem
  obtain ⟨e', hcommits, heq⟩ := commits_commit h text auto c time block
  obtain ⟨f, hf, hrelisted⟩ := hcommits.groups
  obtain ⟨g, hg, hb⟩ := hban
  refine hlifted ⟨f g, ?_, ((hrelisted g).kept v hmem).trans hb⟩
  rw [heq]
  show f g ∈ e'.groups
  exact hf ▸ List.mem_map_of_mem hg

theorem isSpelledRight_removeWord (h : e.Consistent) (hv : v ≠ w) (hsmall : v ≠ Text.lower w) :
    Typeahead.isSpelledRight (e.removeWord w).groups v = Typeahead.isSpelledRight e.groups v := by
  obtain ⟨ts, -, heq⟩ := removeWord_eq h.toNumbered w
  rw [heq]
  exact isSpelledRight_map fun g hg => Group.removeWord_of_ne (h.sound_subs hg) hv hsmall

/-! ### Every action -/

/-- The action may change what the groups say of the spelling of a word. -/
def MayRevise (e : Engine) (v : Text) : Action → Prop
  | .reset _ | .close | .restart => True
  | .work => ∃ q ∈ e.queue.queued.head?, q.task.MayRevise v
  | .add _ o w _ => o ≠ .history ∧ v = w
  | .commit text auto c time block => e.Bans v ∧ ¬ (e.commit text auto c time block).Bans v
  | .remove w => v = w ∨ v = Text.lower w
  | _ => False

instance (e : Engine) (v : Text) : (a : Action) → Decidable (e.MayRevise v a)
  | .reset _ | .close | .restart => .isTrue trivial
  | .work => inferInstanceAs (Decidable (∃ q ∈ e.queue.queued.head?, q.task.MayRevise v))
  | .add _ o w _ => inferInstanceAs (Decidable (o ≠ .history ∧ v = w))
  | .commit text auto c time block =>
    inferInstanceAs (Decidable (e.Bans v ∧ ¬ (e.commit text auto c time block).Bans v))
  | .remove w => inferInstanceAs (Decidable (v = w ∨ v = Text.lower w))
  | .setSettings _ | .clearPredictions | .unlearn .. | .clearHistory | .suggest _
  | .predict .. => .isFalse id

/-- **All other actions** leave the spelling of the word as it is. -/
theorem isSpelledRight_perform (h : e.Sound) {a : Action} (hnot : ¬ e.MayRevise v a) :
    Typeahead.isSpelledRight (e.perform a).groups v = Typeahead.isSpelledRight e.groups v := by
  cases a with
  | reset | close | restart => exact absurd trivial hnot
  | setSettings | clearPredictions => rfl
  | commit text auto c time block =>
    exact isSpelledRight_commit h.toNumbered fun hban => not_not.mp fun hlifted =>
      hnot ⟨hban, hlifted⟩
  | unlearn w why =>
    obtain ⟨ts, -, heq⟩ := unlearn_eq e w why
    rw [perform, heq]
  | remove w =>
    obtain ⟨hv, hsmall⟩ := not_or.mp hnot
    exact isSpelledRight_removeWord h.toConsistent hv hsmall
  | clearHistory => exact isSpelledRight_clearedHistory h.toConsistent v
  | suggest r =>
    rw [perform]
    rcases suggest_eq e r with heq | heq
    · rw [heq]
    · rw [heq, rememberNextWords_eq]
  | predict c block => rw [perform, rememberNextWords_eq]
  | add place o w f => exact isSpelledRight_addWord h.toConsistent hnot
  | work => exact isSpelledRight_runNext h fun q hq hrevise => hnot ⟨q, hq, hrevise⟩

/-- **Along a run** of such actions the spelling of the word stays. -/
theorem isSpelledRight_after (as : List Action) : ∀ {e : Engine}, e.Sound →
    (∀ n a, as[n]? = some a → ¬ (e.after (as.take n)).MayRevise v a) →
    Typeahead.isSpelledRight (e.after as).groups v = Typeahead.isSpelledRight e.groups v := by
  induction as with
  | nil => exact fun _ _ => rfl
  | cons a as ih =>
    intro e h hnot
    have hfirst := isSpelledRight_perform h (hnot 0 a rfl)
    exact (ih (h.perform a) fun n b hb => hnot (n + 1) b hb).trans hfirst

end Engine

end Typeahead
