import Typeahead.Proofs.Tables

/-! # Stores

The tables of a store are `Tables.Sound`: they are sorted, no row of followers is empty, and
whatever follows a word is a word of the store itself. The file of a store always holds the same
tables (`Store.Sound`), since each change copies to it just the rows that it touched
(`copyRows_eq`). So every change of a sound store is a change of its tables, as `use_eq`, `add_eq`,
`remove_eq` and `clear_eq` say. -/

namespace Typeahead

open WordMap

namespace Tables

/-- The tables are sorted, no row is empty, and every follower is a word. -/
structure Sound (t : Tables) : Prop where
  words : t.words.Sorted
  followers : t.followers.Sorted
  rows : ∀ k row, t.followers.get? k = some row →
    row.Sorted ∧ row ≠ [] ∧ ∀ v, row.has v = true → t.words.has v = true

theorem sound_empty : Sound {} := ⟨sorted_nil, sorted_nil, fun _ _ h => nomatch h⟩

variable {t u : Tables} {w : Text}

/-! ### What soundness is -/

theorem Sound.full (h : t.Sound) : t.Full := fun k hk => (h.rows k [] hk).2.1 rfl

theorem Sound.areMaps (h : t.Sound) : t.AreMaps := by
  refine ⟨h.words, h.followers, fun k => ?_⟩
  unfold row
  rcases hk : t.followers.get? k with _ | r
  · exact sorted_nil
  · exact (h.rows k r hk).1

theorem Sound.held (h : t.Sound) {k v : Text} (hv : (t.row k).has v = true) :
    t.words.has v = true := by
  unfold row at hv
  rcases hk : t.followers.get? k with _ | r
  · rw [hk] at hv
    exact nomatch hv
  · rw [hk] at hv
    exact (h.rows k r hk).2.2 v hv

/-- Maps without empty rows are sound if every follower is a word. -/
theorem AreMaps.sound (hmaps : t.AreMaps) (hfull : t.Full)
    (hheld : ∀ k v, (t.row k).has v = true → t.words.has v = true) : t.Sound := by
  refine ⟨hmaps.words, hmaps.followers, fun k r hk => ?_⟩
  have hrow : t.row k = r := by
    unfold row
    rw [hk]
    rfl
  exact ⟨hrow ▸ hmaps.rows k, fun hr => hfull k (hr ▸ hk), fun v hv => hheld k v (hrow ▸ hv)⟩

/-! ### Changes of the tables -/

theorem has_words_use (h : t.Sound) (c : Context) (valid : Bool) (n time : Nat) (v : Text) :
    (t.use c w valid n time).words.has v = (v == w || t.words.has v) := by
  show (t.words.alter w _).has v = _
  rw [has_alter h.words]
  split_ifs with hv
  · simp [hv]
  · simp [hv]

theorem has_words_add (h : t.Sound) (f : Nat) (v : Text) :
    (t.add w f).words.has v = (v == w || t.words.has v) := by
  show (t.words.alter w _).has v = _
  rw [has_alter h.words]
  split_ifs with hv
  · simp [hv]
  · simp [hv]

theorem has_words_remove (h : t.Sound) (v : Text) :
    (t.remove w).words.has v = (v != w && t.words.has v) := by
  show (t.words.erase w).has v = _
  rw [erase, has_alter h.words]
  split_ifs with hv
  · simp [hv]
  · simp [hv]

theorem sound_use (h : t.Sound) (c : Context) (w : Text) (valid : Bool) (n time : Nat) :
    (t.use c w valid n time).Sound := by
  have hmaps := h.areMaps
  refine hmaps.use.sound (h.full.use hmaps) fun k v hv => ?_
  rw [has_words_use h, Bool.or_eq_true, beq_iff_eq]
  rw [row_use h.followers] at hv
  split_ifs at hv
  · rw [has_alter (hmaps.rows k)] at hv
    split_ifs at hv with hvw
    · exact .inl hvw
    · exact .inr (h.held hv)
  · exact .inr (h.held hv)

theorem sound_add (h : t.Sound) (w : Text) (f : Nat) : (t.add w f).Sound := by
  refine (h.areMaps.add w f).sound h.full fun k v hv => ?_
  rw [has_words_add h, Sound.held h hv, Bool.or_true]

theorem sound_remove (h : t.Sound) (w : Text) : (t.remove w).Sound := by
  have hmaps := h.areMaps
  refine (hmaps.remove w).sound (full_remove hmaps w) fun k v hv => ?_
  rw [row_remove h.followers, erase, has_alter (hmaps.rows k)] at hv
  split_ifs at hv with hvw
  · exact nomatch hv
  · rw [has_words_remove h, h.held hv, bne_iff_ne.mpr hvw, Bool.true_and]

/-- A word that the store does not hold leaves the rows as they are. -/
theorem followers_remove (h : t.Sound) (hw : t.words.has w = false) :
    (t.remove w).followers = t.followers := by
  have hafter := sound_remove h w
  refine hafter.followers.ext h.followers fun k => ?_
  have hfree : (t.row k).has w = false := by
    rcases hb : (t.row k).has w with _ | _
    · rfl
    · rw [h.held hb] at hw
      exact nomatch hw
  rw [hafter.full.get?_eq, h.full.get?_eq, row_remove h.followers,
    erase_eq_self (h.areMaps.rows k) hfree]

/-! ### The file's tables -/

/-- **Copying what has changed** makes the file's tables the same again. -/
theorem copyRows_eq (ht : t.Sound) (hu : u.Sound) {ws ks : List Text}
    (h : (t.copyRows u ws ks).Alike t) : t.copyRows u ws ks = t :=
  eq_of_alike (ht.areMaps.copyRows hu.areMaps ws ks) ht.areMaps (hu.full.copyRows hu.areMaps)
    ht.full h

theorem copyRows_use (h : t.Sound) (c : Context) (w : Text) (valid : Bool) (n time : Nat) :
    (t.use c w valid n time).copyRows t [w] (rowKey? c).toList = t.use c w valid n time :=
  copyRows_eq (sound_use h c w valid n time) h
    (alike_copyRows_use h.areMaps h.areMaps (Alike.refl t))

theorem copyRows_add (h : t.Sound) (w : Text) (f : Nat) :
    (t.add w f).copyRows t [w] [] = t.add w f :=
  copyRows_eq (sound_add h w f) h (alike_copyRows_add h.areMaps h.areMaps (Alike.refl t))

theorem copyRows_remove (h : t.Sound) (w : Text) :
    (t.remove w).copyRows t [w] (t.rowsOf w) = t.remove w :=
  copyRows_eq (sound_remove h w) h (alike_copyRows_remove h.areMaps h.areMaps (Alike.refl t))

end Tables

namespace Store

/-- The store can be changed, its tables are sound, and its file holds the same ones. -/
structure Sound (s : Store) : Prop where
  frozen : s.frozen = none
  tables : s.tables.Sound
  file : ∀ f, s.file = some f → f.tables = s.tables

/-- The store with other tables, in its file too. -/
def withTables (s : Store) (t : Tables) : Store :=
  { s with tables := t, file := s.file.map fun f => { f with tables := t } }

variable {s : Store} {t : Tables} {w : Text}

theorem Sound.withTables (h : s.Sound) (ht : t.Sound) : (s.withTables t).Sound := by
  refine ⟨h.frozen, ht, fun f hf => ?_⟩
  obtain ⟨g, -, rfl⟩ := Option.map_eq_some_iff.mp hf
  rfl

theorem commit_eq (h : s.Sound) {ws ks : List Text} (hcopy : t.copyRows s.tables ws ks = t) :
    s.commit t ws ks = s.withTables t := by
  have hfile : s.file.map (fun f => { f with tables := t.copyRows f.tables ws ks }) =
      s.file.map fun f => { f with tables := t } := by
    refine Option.map_congr fun f hf => ?_
    rw [h.file f hf, hcopy]
  rw [commit, hfile]
  rfl

/-! ### Changes of a sound store -/

theorem use_eq (h : s.Sound) (c : Context) (w : Text) (valid : Bool) (n time : Nat) :
    s.use c w valid n time = if w.isEmpty then .error (.invalidWord w)
      else .ok (s.withTables (s.tables.use c w valid n time)) := by
  unfold use
  rw [h.frozen]
  dsimp only
  rw [commit_eq h (Tables.copyRows_use h.tables c w valid n time)]

theorem add_eq (h : s.Sound) (w : Text) (f : Nat) : s.add w f =
    if w.isEmpty then .error (.invalidWord w) else .ok (s.withTables (s.tables.add w f)) := by
  unfold add
  rw [h.frozen]
  dsimp only
  rw [commit_eq h (Tables.copyRows_add h.tables w f)]

theorem remove_eq (h : s.Sound) (w : Text) :
    s.remove w = .ok (s.tables.words.has w, s.withTables (s.tables.remove w)) := by
  unfold remove contains
  rw [h.frozen]
  dsimp only
  rw [commit_eq h (Tables.copyRows_remove h.tables w)]

theorem clear_eq (h : s.Sound) : s.clear = .ok (s.withTables {}) := by
  unfold clear
  split
  · next f hf => exact absurd (h.frozen.symm.trans hf) (by simp)
  · rfl

/-! ### What a sound store says -/

theorem contains_eq (h : s.Sound) (w : Text) : s.contains w = s.tables.words.has w := by
  unfold contains
  rw [h.frozen]

theorem frequency_eq (h : s.Sound) (w : Text) : s.frequency w =
    ((s.tables.words.get? w).map fun e => (e.frequency : Int)).getD (-1) := by
  unfold frequency
  rw [h.frozen]

theorem isValid_eq (h : s.Sound) (w : Text) :
    s.isValid w = (s.origin != .history && s.tables.words.has w) := by
  unfold isValid contains
  rw [h.frozen]
  rfl

/-- The history vouches for nothing. -/
theorem isValid_history (h : s.Sound) (ho : s.origin = .history) (w : Text) :
    s.isValid w = false := by
  rw [isValid_eq h, ho]
  rfl

/-- **A store offers what it holds.** -/
theorem has_of_mem_suggestions (h : s.Sound) {q : Query} {c : Candidate}
    (hc : c ∈ s.suggestions q) : s.tables.words.has c.word = true := by
  unfold suggestions at hc
  split_ifs at hc
  · obtain ⟨⟨w, n⟩, hmem, rfl⟩ := List.mem_map.mp hc
    rcases hrow : (Tables.rowKey? q.context).bind s.tables.followers.get? with _ | row
    · rw [hrow] at hmem
      exact absurd hmem List.not_mem_nil
    · rw [hrow] at hmem
      obtain ⟨k, -, hget⟩ := Option.bind_eq_some_iff.mp hrow
      exact (h.tables.rows k row hget).2.2 w (List.any_eq_true.mpr ⟨_, hmem, beq_self_eq_true w⟩)
  · obtain ⟨⟨w, e⟩, hmem, hcand⟩ := List.mem_filterMap.mp hc
    unfold candidate? at hcand
    dsimp only at hcand
    split_ifs at hcand
    obtain ⟨m, -, rfl⟩ := Option.map_eq_some_iff.mp hcand
    exact List.any_eq_true.mpr ⟨_, hmem, beq_self_eq_true w⟩

end Store

end Typeahead
