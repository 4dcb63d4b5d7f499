import Typeahead.Proofs.Store.Order
import Typeahead.Proofs.Store.Teaching
import Typeahead.Proofs.Store.WriteThrough

/-! # What a store is after any changes

The words of a store and the rows of its followers are two maps, and each change has to keep them in
step. Tables are `Counted` if no word is counted more often in a row than it is counted at all; with
`Tables.Sound`, which says that whatever follows is a word, this is kept by every change
(`Counted.after`). Counts stop at the limit on both sides, so that the count of the word has to be
within the limit for the counts of the other rows to stay below it.

Two more properties of a word last as long as no change ends them: a word that was used has at least
the frequency of its count until it is taken away (`Recorded`), and a word that was removed stays
away until it is brought back (`Removed`). -/

namespace Typeahead

open WordMap

namespace Store.Change

/-- The change takes the word away. -/
def Takes (w : Text) : Change → Prop
  | .use .. | .add .. => False
  | .remove v => v = w
  | .clear => True

/-- The change brings the word; the empty one is refused. -/
def Brings (w : Text) : Change → Prop
  | .use _ v .. | .add v _ => v = w ∧ w ≠ []
  | .remove _ | .clear => False

end Store.Change

open Store (Change)

namespace Tables

variable {t : Tables} {c : Context} {w : Text} {valid : Bool} {n time f : Nat}

/-- The tables after a change. -/
def after (t : Tables) : Change → Tables
  | .use c w valid n time => if w.isEmpty then t else t.use c w valid n time
  | .add w f => if w.isEmpty then t else t.add w f
  | .remove w => t.remove w
  | .clear => {}

/-- What a change does to the tables: nothing if it is refused, or it uses, adds or removes a word,
or leaves nothing. -/
theorem after_cases (t : Tables) (d : Change) : t.after d = t ∨
    (∃ c w valid n time, d = .use c w valid n time ∧ w ≠ [] ∧
      t.after d = t.use c w valid n time) ∨
    (∃ w f, d = .add w f ∧ w ≠ [] ∧ t.after d = t.add w f) ∨
    (∃ w, d = .remove w ∧ t.after d = t.remove w) ∨ d = .clear ∧ t.after d = {} := by
  cases d with
  | use c w valid n time =>
    by_cases hw : w.isEmpty = true
    · exact .inl (if_pos hw)
    · exact .inr (.inl ⟨c, w, valid, n, time, rfl, by simpa using hw, if_neg hw⟩)
  | add w f =>
    by_cases hw : w.isEmpty = true
    · exact .inl (if_pos hw)
    · exact .inr (.inr (.inl ⟨w, f, rfl, by simpa using hw, if_neg hw⟩))
  | remove w => exact .inr (.inr (.inr (.inl ⟨w, rfl, rfl⟩)))
  | clear => exact .inr (.inr (.inr (.inr ⟨rfl, rfl⟩)))

theorem Sound.after (h : t.Sound) (d : Change) : (t.after d).Sound := by
  obtain hd | ⟨c, w, valid, n, time, -, -, hd⟩ | ⟨w, f, -, -, hd⟩ | ⟨w, -, hd⟩ | ⟨-, hd⟩ :=
    t.after_cases d
  all_goals rw [hd]
  · exact h
  · exact sound_use h c w valid n time
  · exact sound_add h w f
  · exact sound_remove h w
  · exact sound_empty

/-! ### Entries and counts after a change -/

theorem get?_words_use (h : t.words.Sorted) (v : Text) :
    (t.use c w valid n time).words.get? v =
      if v = w then some (usedEntry ((t.words.get? w).getD {}) valid n time)
      else t.words.get? v := get?_alter h

theorem get?_words_add (h : t.words.Sorted) (v : Text) : (t.add w f).words.get? v =
    if v = w then some (addedEntry ((t.words.get? w).getD {}) f) else t.words.get? v :=
  get?_alter h

theorem count_getD (t : Tables) (w : Text) :
    ((t.words.get? w).getD {}).count = (t.uses w).getD 0 := by
  rw [uses]
  cases t.words.get? w <;> rfl

theorem uses_use (h : t.words.Sorted) (v : Text) : (t.use c w valid n time).uses v =
    if v = w then some (addCounts ((t.uses w).getD 0) n) else t.uses v := by
  rw [uses, get?_words_use h, apply_ite (Option.map _), Option.map_some, usedEntry, count_getD]
  rfl

theorem uses_add (h : t.words.Sorted) (v : Text) : (t.add w f).uses v =
    if v = w then some ((t.uses w).getD 0) else t.uses v := by
  rw [uses, get?_words_add h, apply_ite (Option.map _), Option.map_some, addedEntry, count_getD]
  rfl

theorem uses_remove (h : t.words.Sorted) (v : Text) : (t.remove w).uses v =
    if v = w then none else t.uses v := by
  rw [uses, remove, get?_erase h, apply_ite (Option.map _)]
  rfl

theorem times_use (h : t.AreMaps) (k v : Text) : (t.use c w valid n time).times k v =
    if k ∈ rowKey? c ∧ v = w then some (addCounts ((t.times k w).getD 0) n) else t.times k v := by
  rw [times, row_use h.followers]
  by_cases hk : k ∈ rowKey? c
  · rw [if_pos hk, get?_alter (h.rows k)]
    by_cases hv : v = w
    · rw [if_pos hv, if_pos ⟨hk, hv⟩, times]
    · rw [if_neg hv, if_neg fun hboth => hv hboth.2, times]
  · rw [if_neg hk, if_neg fun hboth => hk hboth.1, times]

theorem times_remove (h : t.AreMaps) (k v : Text) : (t.remove w).times k v =
    if v = w then none else t.times k v := by
  rw [times, row_remove h.followers, get?_erase (h.rows k), times]

/-- No word is counted beyond the limit, nor more often in a row than it is counted at all. -/
structure Counted (t : Tables) : Prop where
  limit : ∀ w, (t.uses w).getD 0 ≤ countLimit
  counts : ∀ k w, (t.times k w).getD 0 ≤ (t.uses w).getD 0

theorem counted_empty : Counted {} := ⟨fun _ => Nat.zero_le _, fun _ _ => Nat.le_refl 0⟩

theorem Counted.use (h : t.AreMaps) (hc : t.Counted) : (t.use c w valid n time).Counted := by
  constructor
  · intro v
    rw [uses_use h.words]
    split_ifs
    · exact Nat.min_le_right _ _
    · exact hc.limit v
  · intro k v
    rw [uses_use h.words, times_use h]
    by_cases hv : v = w
    · have hcount := hc.counts k w
      have hlimit := hc.limit w
      by_cases hk : k ∈ rowKey? c
      · rw [if_pos hv, if_pos ⟨hk, hv⟩]
        simp only [Option.getD_some, addCounts]
        omega
      · -- the count of another row stays, and that of the word does not fall
        rw [if_pos hv, if_neg fun hboth => hk hboth.1, hv]
        exact Nat.le_trans hcount (le_addCounts n hlimit)
    · rw [if_neg hv, if_neg fun hboth => hv hboth.2]
      exact hc.counts k v

theorem Counted.add (h : t.AreMaps) (hc : t.Counted) : (t.add w f).Counted := by
  have huses (v : Text) : ((t.add w f).uses v).getD 0 = (t.uses v).getD 0 := by
    rw [uses_add h.words]
    split_ifs with hv
    · rw [hv, Option.getD_some]
    · rfl
  refine ⟨fun v => ?_, fun k v => ?_⟩
  · rw [huses]
    exact hc.limit v
  · rw [huses]
    exact hc.counts k v

theorem Counted.remove (h : t.AreMaps) (hc : t.Counted) : (t.remove w).Counted := by
  constructor
  · intro v
    rw [uses_remove h.words]
    split_ifs
    · exact Nat.zero_le _
    · exact hc.limit v
  · intro k v
    rw [uses_remove h.words, times_remove h]
    split_ifs
    · exact Nat.le_refl 0
    · exact hc.counts k v

/-- **One change** keeps the rows below the words. -/
theorem Counted.after (h : t.AreMaps) (hc : t.Counted) (d : Change) : (t.after d).Counted := by
  obtain hd | ⟨c, w, valid, n, time, -, -, hd⟩ | ⟨w, f, -, -, hd⟩ | ⟨w, -, hd⟩ | ⟨-, hd⟩ :=
    t.after_cases d
  all_goals rw [hd]
  · exact hc
  · exact hc.use h
  · exact hc.add h
  · exact hc.remove h
  · exact counted_empty

/-- **What is counted in a row** is a word, with at least that count. -/
theorem Counted.exists_word (h : t.Sound) (hc : t.Counted) {k : Text} {row : WordMap Nat}
    (hrow : t.followers.get? k = some row) {m : Nat} (hw : row.get? w = some m) :
    ∃ e, t.words.get? w = some e ∧ m ≤ e.count := by
  have htimes : t.times k w = some m := by
    rw [times, Tables.row, hrow]
    exact hw
  have hheld : t.words.has w = true := (h.rows k row hrow).2.2 w (has_eq ▸ Option.isSome_of_mem hw)
  obtain ⟨e, he⟩ := Option.isSome_iff_exists.mp (has_eq ▸ hheld)
  have hle := hc.counts k w
  rw [htimes, uses, he] at hle
  exact ⟨e, he, hle⟩

/-! ### Words that were used -/

/-- The word is known with at least the frequency of its count. -/
def Earned (t : Tables) (w : Text) : Prop :=
  ∃ e, t.words.get? w = some e ∧ historyFrequency e.count ≤ e.frequency

theorem earned_use (h : t.words.Sorted) : (t.use c w valid n time).Earned w :=
  ⟨_, by rw [get?_words_use h, if_pos rfl], Nat.le_max_right _ _⟩

/-- **A word that earned its frequency** keeps it until it is taken away. -/
theorem Earned.after (h : t.words.Sorted) (he : t.Earned w) {d : Change} (hd : ¬ d.Takes w) :
    (t.after d).Earned w := by
  obtain ⟨e, hget, hle⟩ := he
  obtain hafter | ⟨c, v, valid, n, time, -, -, hafter⟩ | ⟨v, f, -, -, hafter⟩ |
    ⟨v, rfl, hafter⟩ | ⟨rfl, -⟩ := t.after_cases d
  · exact ⟨e, by rw [hafter, hget], hle⟩
  · rw [hafter]
    by_cases hv : w = v
    · exact hv ▸ earned_use h
    · exact ⟨e, by rw [get?_words_use h, if_neg hv, hget], hle⟩
  · rw [hafter]
    by_cases hv : w = v
    · refine ⟨addedEntry e f, ?_, Nat.le_trans hle (Nat.le_max_left _ _)⟩
      rw [get?_words_add h, if_pos hv, ← hv, hget, Option.getD_some]
    · exact ⟨e, by rw [get?_words_add h, if_neg hv, hget], hle⟩
  · have hv : w ≠ v := fun hwv => hd hwv.symm
    exact ⟨e, by rw [hafter, remove, get?_erase h, if_neg hv, hget], hle⟩
  · exact absurd trivial hd

/-! ### Words that were removed -/

/-- **A word that is away** stays away until it is brought back. -/
theorem has_words_after (h : t.Sound) (hw : t.words.has w = false) {d : Change}
    (hd : ¬ d.Brings w) : (t.after d).words.has w = false := by
  have hother {v : Text} (hv : v ≠ []) (hbrings : ¬ (v = w ∧ w ≠ [])) : (w == v) = false :=
    beq_false_of_ne fun hwv => hbrings ⟨hwv.symm, hwv ▸ hv⟩
  obtain hafter | ⟨c, v, valid, n, time, rfl, hv, hafter⟩ | ⟨v, f, rfl, hv, hafter⟩ |
    ⟨v, -, hafter⟩ | ⟨-, hafter⟩ := t.after_cases d
  · rw [hafter, hw]
  · rw [hafter, has_words_use h, hother hv hd, hw, Bool.or_false]
  · rw [hafter, has_words_add h, hother hv hd, hw, Bool.or_false]
  · rw [hafter, has_words_remove h, hw, Bool.and_false]
  · rw [hafter]
    rfl

end Tables

namespace Store

variable {s : Store} {cs : List Change} {w : Text}

/-- A change of the tables does not depend on the file. -/
theorem tables_change (hfrozen : s.frozen = none) (c : Change) :
    (s.change c).frozen = none ∧ (s.change c).tables = s.tables.after c := by
  obtain ⟨number, origin, locale, tables, file, frozen⟩ := s
  obtain rfl : frozen = none := hfrozen
  cases c with
  | use c w valid n time =>
    unfold change use Tables.after
    dsimp only
    split_ifs
    · exact ⟨rfl, rfl⟩
    · exact ⟨rfl, rfl⟩
  | add w f =>
    unfold change add Tables.after
    dsimp only
    split_ifs
    · exact ⟨rfl, rfl⟩
    · exact ⟨rfl, rfl⟩
  | remove w => exact ⟨rfl, rfl⟩
  | clear => exact ⟨rfl, rfl⟩

theorem tables_changes (cs : List Change) : ∀ {s : Store}, s.frozen = none →
    (s.changes cs).frozen = none ∧ (s.changes cs).tables = cs.foldl Tables.after s.tables := by
  induction cs with
  | nil => exact fun h => ⟨h, rfl⟩
  | cons c cs ih =>
    intro s h
    obtain ⟨hfrozen, htables⟩ := tables_change h c
    have hrest := ih hfrozen
    rw [htables] at hrest
    exact hrest

/-- **Any changes** of sound tables keep the rows in step with the words. -/
theorem sound_changes (cs : List Change) : ∀ {t : Tables}, t.Sound → t.Counted →
    (cs.foldl Tables.after t).Sound ∧ (cs.foldl Tables.after t).Counted := by
  induction cs with
  | nil => exact fun h hc => ⟨h, hc⟩
  | cons c cs ih => exact fun h hc => ih (h.after c) (hc.after h.areMaps c)

theorem earned_changes {cs : List Change} (hcs : ∀ c ∈ cs, ¬ c.Takes w) : ∀ {t : Tables},
    t.Sound → t.Earned w → (cs.foldl Tables.after t).Earned w := by
  induction cs with
  | nil => exact fun _ he => he
  | cons c cs ih =>
    intro t h he
    have hc := hcs c List.mem_cons_self
    exact ih (fun d hd => hcs d (List.mem_cons_of_mem c hd)) (h.after c) (he.after h.words hc)

theorem away_changes {cs : List Change} (hcs : ∀ c ∈ cs, ¬ c.Brings w) : ∀ {t : Tables},
    t.Sound → t.words.has w = false → (cs.foldl Tables.after t).words.has w = false := by
  induction cs with
  | nil => exact fun _ hw => hw
  | cons c cs ih =>
    intro t h hw
    have hc := hcs c List.mem_cons_self
    exact ih (fun d hd => hcs d (List.mem_cons_of_mem c hd)) (h.after c)
      (Tables.has_words_after h hw hc)

/-- The changes use a word that is not empty, and do not take it away later. -/
def Recorded (w : Text) (cs : List Change) : Prop :=
  w ≠ [] ∧ ∃ before c valid n time later,
    cs = before ++ .use c w valid n time :: later ∧ ∀ d ∈ later, ¬ d.Takes w

/-- The changes remove a word, and do not bring it back later. -/
def Removed (w : Text) (cs : List Change) : Prop :=
  ∃ before later, cs = before ++ .remove w :: later ∧ ∀ d ∈ later, ¬ d.Brings w

theorem earned_of_recorded (h : Recorded w cs) : (cs.foldl Tables.after {}).Earned w := by
  obtain ⟨hne, before, c, valid, n, time, later, rfl, hlater⟩ := h
  obtain ⟨hbefore, -⟩ := sound_changes before Tables.sound_empty Tables.counted_empty
  have hempty : w.isEmpty = false := by simpa using hne
  have hused : ((before.foldl Tables.after {}).after (.use c w valid n time)).Earned w := by
    rw [Tables.after, hempty]
    exact Tables.earned_use hbefore.words
  rw [List.foldl_append, List.foldl_cons]
  exact earned_changes hlater (hbefore.after _) hused

theorem away_of_removed (h : Removed w cs) :
    (cs.foldl Tables.after {}).words.has w = false := by
  obtain ⟨before, later, rfl, hlater⟩ := h
  obtain ⟨hbefore, -⟩ := sound_changes before Tables.sound_empty Tables.counted_empty
  have hgone : ((before.foldl Tables.after {}).after (.remove w)).words.has w = false := by
    rw [Tables.after, Tables.has_words_remove hbefore, bne_self_eq_false, Bool.false_and]
  rw [List.foldl_append, List.foldl_cons]
  exact away_changes hlater (hbefore.after _) hgone

/-- A store with sound tables offers the words that it holds, whatever its file says. -/
theorem has_of_mem_suggestions_of_tables (hfrozen : s.frozen = none) (h : s.tables.Sound)
    {q : Query} {c : Candidate} (hc : c ∈ s.suggestions q) :
    s.tables.words.has c.word = true := by
  have hsound : Sound { s with file := none } := ⟨hfrozen, h, fun f hf => nomatch hf⟩
  exact has_of_mem_suggestions hsound hc

/-- **A store after any changes**, if it was empty at first: no row is empty, what is in a row is a
word, and is counted there at most as often as it is counted at all. A word that was used and not
taken away since has at least the frequency of its count, and a word that was removed and not
brought back since is not offered for anything typed in any context. -/
theorem changes_of_empty (hfrozen : s.frozen = none) (hempty : s.tables = {})
    (cs : List Change) :
    (∀ k row, (s.changes cs).tables.followers.get? k = some row → row ≠ [] ∧
      ∀ w n, row.get? w = some n →
        ∃ e, (s.changes cs).tables.words.get? w = some e ∧ n ≤ e.count) ∧
    (∀ w, Recorded w cs → ∃ e, (s.changes cs).tables.words.get? w = some e ∧
      Tables.historyFrequency e.count ≤ e.frequency) ∧
    ∀ w, Removed w cs → ∀ q, ∀ c ∈ (s.changes cs).suggestions q, c.word ≠ w := by
  obtain ⟨hfrozen', htables⟩ := tables_changes cs hfrozen
  rw [hempty] at htables
  obtain ⟨hsound, hcounted⟩ := sound_changes cs Tables.sound_empty Tables.counted_empty
  rw [htables]
  refine ⟨fun k row hrow => ⟨(hsound.rows k row hrow).2.1, fun w n hw => ?_⟩, fun w hw => ?_,
    fun w hw q c hc hcw => ?_⟩
  · exact hcounted.exists_word hsound hrow hw
  · exact earned_of_recorded hw
  · have haway := away_of_removed hw
    have hheld := has_of_mem_suggestions_of_tables hfrozen' (htables ▸ hsound) hc
    rw [htables, hcw, haway] at hheld
    exact nomatch hheld

/-- A word is used at the start of a sentence and after another one, cleared, used twice again, and
then another word is removed that followed it. -/
theorem changes_of_empty_twice :
    let s : Store := { number := 0, origin := .history, locale := ⟨"en".toList⟩ }
    let good : Text := "good".toList
    let day : Text := "day".toList
    let after : Context := (Context.empty 3).next (.word good)
    let cs : List Change := [.add good 40, .use Context.start day true 1 10, .clear,
      .use Context.start good true 1 20, .use after day true 4294967295 30, .add good 9,
      .use after good false 1 40, .remove day]
    (s.frozen = none ∧ s.tables = {}) ∧
      (∃ e, (s.changes cs).tables.words.get? good = some e ∧ e.count = 2 ∧ e.frequency = 110 ∧
        Tables.historyFrequency e.count ≤ e.frequency) ∧
      (s.changes cs).tables.times good good = some 1 ∧
      ∀ q, ∀ c ∈ (s.changes cs).suggestions q, c.word ≠ day := by
  intro s good day after cs
  have hfrozen : s.frozen = none := rfl
  have hempty : s.tables = {} := rfl
  obtain ⟨-, hrecorded, hremoved⟩ := changes_of_empty hfrozen hempty cs
  have hkept : ¬ (Change.remove day).Takes good := by
    show ¬ day = good
    decide
  have hgood : Recorded good cs :=
    ⟨by decide, cs.take 6, after, false, 1, 40, [.remove day], rfl,
      List.forall_mem_singleton.mpr hkept⟩
  have hday : Removed day cs := ⟨cs.take 7, [], rfl, fun _ hd => nomatch hd⟩
  obtain ⟨e, he, hle⟩ := hrecorded good hgood
  have hvalue : (s.changes cs).tables.words.get? good = some ⟨110, 2, true, 40⟩ := by
    decide +kernel
  obtain rfl := Option.some.inj (he.symm.trans hvalue)
  exact ⟨⟨hfrozen, hempty⟩, ⟨_, he, rfl, rfl, hle⟩, by decide +kernel, hremoved day hday⟩

end Store

end Typeahead
