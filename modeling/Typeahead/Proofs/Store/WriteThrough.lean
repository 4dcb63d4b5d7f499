import Typeahead.Engine.Report
import Typeahead.Proofs.Disk.Opening
import Typeahead.Proofs.Store

/-! # Stores that are written through

A store copies to its file only the rows that a change touched. So the file says the same as the
store after any changes (`Store.Through.changes`), whatever it held when it was opened. No change
leaves a row without followers behind, so that only a file that came with such rows may hold them
longer than the store does (`Store.Full.changes`). A store that is closed and opened again answers
as it did (`Store.reopened_alike`). -/

namespace Typeahead

namespace Store

variable {s s' : Store} {t : Tables}

/-! ### Stores that say the same -/

theorem suggestions_eq_of_alike (hsource : s'.source = s.source) (h : s'.tables.Alike s.tables)
    (q : Query) : s'.suggestions q = s.suggestions q := by
  unfold suggestions
  split_ifs with htyped
  · unfold predictions
    rw [hsource]
    rcases hkey : Tables.rowKey? q.context with _ | k
    · rfl
    · have hrow : (s'.tables.followers.get? k).getD [] = (s.tables.followers.get? k).getD [] :=
        h.rows k
      rw [Option.bind_some, Option.bind_some, hrow]
  · unfold candidate?
    rw [h.words, hsource]

/-- **Stores that say the same** answer every question in the same way. -/
theorem dictionary_eq_of_alike (horigin : s'.origin = s.origin) (hlocale : s'.locale = s.locale)
    (hfrozen : s.frozen = none) (hfrozen' : s'.frozen = none) (h : s'.tables.Alike s.tables) :
    s'.dictionary = s.dictionary := by
  have hsource : s'.source = s.source := by
    unfold source
    rw [horigin, hlocale]
  have hsuggestions : s'.suggestions = s.suggestions :=
    funext (suggestions_eq_of_alike hsource h)
  have hcontains : s'.contains = s.contains := by
    funext w
    unfold contains
    rw [hfrozen, hfrozen', h.words]
  have hvalid : s'.isValid = s.isValid := by
    funext w
    unfold isValid
    rw [hcontains, horigin, hfrozen, hfrozen']
  have hfrequency : s'.frequency = s.frequency := by
    funext w
    unfold frequency
    rw [hfrozen, hfrozen', h.words]
  unfold dictionary
  rw [hsource, hsuggestions, hcontains, hvalid, hfrequency]

theorem report_eq_of_alike (horigin : s'.origin = s.origin) (hlocale : s'.locale = s.locale)
    (hpath : s'.path = s.path) (hmaps : s.tables.AreMaps) (hmaps' : s'.tables.AreMaps)
    (h : s'.tables.Alike s.tables) : s'.report = s.report := by
  unfold report
  rw [horigin, hlocale, hpath, h.words, h.pairCount_eq hmaps' hmaps]

/-! ### Changes -/

/-- What can be asked to be changed in a store. -/
inductive Change where
  | use (c : Context) (w : Text) (valid : Bool) (n time : Nat)
  | add (w : Text) (f : Nat)
  | remove (w : Text)
  | clear

/-- The store after a change; one that is refused changes nothing. -/
def change (s : Store) : Change → Store
  | .use c w valid n time => (s.use c w valid n time).toOption.getD s
  | .add w f => (s.add w f).toOption.getD s
  | .remove w => ((s.remove w).toOption.map (·.2)).getD s
  | .clear => s.clear.toOption.getD s

/-- The store after changes. -/
def changes (s : Store) (cs : List Change) : Store := cs.foldl change s

/-- What a change does: nothing, or it leaves no tables at all, or it leaves other tables and copies
to the file what differs. -/
theorem change_cases (hfrozen : s.frozen = none) (hmaps : s.tables.AreMaps) (c : Change) :
    s.change c = s ∨ s.change c = s.withTables {} ∨
      ∃ t ws ks, s.change c = s.commit t ws ks ∧ t.AreMaps ∧ (s.tables.Full → t.Full) ∧
        ∀ u : Tables, u.AreMaps → u.Alike s.tables → (t.copyRows u ws ks).Alike t := by
  cases c with
  | use c w valid n time =>
    unfold change use
    rw [hfrozen]
    dsimp only
    split_ifs
    · exact .inl rfl
    · exact .inr (.inr ⟨_, _, _, rfl, hmaps.use, Tables.Full.use hmaps,
        fun u hu halike => Tables.alike_copyRows_use hmaps hu halike⟩)
  | add w f =>
    unfold change add
    rw [hfrozen]
    dsimp only
    split_ifs
    · exact .inl rfl
    · exact .inr (.inr ⟨_, _, _, rfl, hmaps.add w f, fun hfull => hfull,
        fun u hu halike => Tables.alike_copyRows_add hmaps hu halike⟩)
  | remove w =>
    unfold change remove
    rw [hfrozen]
    exact .inr (.inr ⟨_, _, _, rfl, hmaps.remove w, fun _ => Tables.full_remove hmaps w,
      fun u hu halike => Tables.alike_copyRows_remove hmaps hu halike⟩)
  | clear =>
    have hclear : s.clear = .ok (s.withTables {}) := by
      unfold clear
      split
      · next f hf => exact nomatch hfrozen.symm.trans hf
      · rfl
    unfold change
    dsimp only
    rw [hclear]
    exact .inr (.inl rfl)

/-- **A store that is written through**: it can be changed, and its file at the path and the place
says what it says. -/
structure Through (o : Origin) (l : Locale) (path place : Text) (s : Store) : Prop where
  origin : s.origin = o
  locale : s.locale = l
  frozen : s.frozen = none
  maps : s.tables.AreMaps
  file : ∃ t, s.file = some ⟨path, place, t⟩ ∧ t.AreMaps ∧ t.Alike s.tables

/-- No row of the store is without followers, and none of its file. -/
structure Full (s : Store) : Prop where
  tables : s.tables.Full
  file : ∀ f, s.file = some f → f.tables.Full

variable {o : Origin} {l : Locale} {path place : Text}

/-- **One change** is written through. -/
theorem Through.change (h : s.Through o l path place) (c : Change) :
    (s.change c).Through o l path place := by
  obtain ⟨u, hfile, hu, halike⟩ := h.file
  obtain hc | hc | ⟨t, ws, ks, hc, ht, -, hcopy⟩ := change_cases h.frozen h.maps c
  · rw [hc]
    exact h
  · rw [hc]
    refine ⟨h.origin, h.locale, h.frozen, Tables.areMaps_empty, {}, ?_, Tables.areMaps_empty,
      Tables.Alike.refl {}⟩
    unfold withTables
    rw [hfile]
    rfl
  · rw [hc]
    refine ⟨h.origin, h.locale, h.frozen, ht, t.copyRows u ws ks, ?_, ht.copyRows hu ws ks,
      hcopy u hu halike⟩
    unfold commit
    rw [hfile]
    rfl

/-- No change leaves a row without followers. -/
theorem Full.change (h : s.Through o l path place) (hfull : s.Full) (c : Change) :
    (s.change c).Full := by
  obtain ⟨u, hfile, hu, -⟩ := h.file
  obtain hc | hc | ⟨t, ws, ks, hc, -, ht, -⟩ := change_cases h.frozen h.maps c
  · rw [hc]
    exact hfull
  · rw [hc]
    refine ⟨Tables.full_empty, fun f hf => ?_⟩
    obtain ⟨g, -, rfl⟩ := Option.map_eq_some_iff.mp hf
    exact Tables.full_empty
  · rw [hc]
    refine ⟨ht hfull.tables, fun f hf => ?_⟩
    unfold commit at hf
    rw [hfile] at hf
    obtain rfl := Option.some.inj hf
    exact Tables.Full.copyRows hu (hfull.file _ hfile)

/-- **Any changes** are written through. -/
theorem Through.changes (cs : List Change) : ∀ {s : Store}, s.Through o l path place →
    (s.changes cs).Through o l path place := by
  induction cs with
  | nil => exact fun h => h
  | cons c cs ih => exact fun h => ih (h.change c)

theorem Full.changes (cs : List Change) : ∀ {s : Store}, s.Through o l path place → s.Full →
    (s.changes cs).Full := by
  induction cs with
  | nil => exact fun _ h => h
  | cons c cs ih => exact fun h hfull => ih (h.change c) (hfull.change h c)

/-! ### Closing and opening again -/

/-- A store that was just opened is written through. -/
theorem through_of_openStore {d d₁ : Disk} {inUse : List Text} {n : Nat}
    (h : d.openStore inUse n o l path = (.ok s, d₁)) (hmaps : s.tables.AreMaps) :
    ∃ place, d₁.HostsAt path place ∧ s.Through o l path place ∧ (s.tables.Full → s.Full) := by
  obtain ⟨d₀, place, t, -, hhosts, -, -, rfl, rfl⟩ := Disk.exists_of_openStore h
  refine ⟨place, hhosts.put_tables t, ⟨rfl, rfl, rfl, hmaps, t, rfl, hmaps, Tables.Alike.refl t⟩,
    fun hfull => ⟨hfull, fun f hf => ?_⟩⟩
  obtain rfl := Option.some.inj hf
  exact hfull

/-- **A store survives**: after any changes its file holds the same words and the same followers of
every word, and the very same tables if it was opened with no empty rows; and when it is closed, and
opened again by its path, it gives the same answers to all questions and the same report. -/
theorem reopened_alike {d d₁ : Disk} {inUse inUse' : List Text} {n : Nat}
    (h : d.openStore inUse n o l path = (.ok s, d₁)) (hmaps : s.tables.AreMaps)
    (cs : List Change) (hfree : ∀ place ∈ (s.changes cs).place, place ∉ inUse') (m : Nat) :
    (∃ f, (s.changes cs).file = some f ∧ f.tables.Alike (s.changes cs).tables ∧
      (s.tables.Full → f.tables = (s.changes cs).tables)) ∧
    ∃ s', ((d₁.closeStore (s.changes cs)).openStore inUse' m o l path).1 = .ok s' ∧
      s'.dictionary = (s.changes cs).dictionary ∧ s'.report = (s.changes cs).report ∧
      s'.tables.AreMaps ∧ (s.tables.Full → s'.tables.Full) := by
  obtain ⟨place, hhosts, hthrough, hfull⟩ := through_of_openStore h hmaps
  have hafter := hthrough.changes cs
  have hfull' (htf : s.tables.Full) : (s.changes cs).Full := Full.changes cs hthrough (hfull htf)
  obtain ⟨t, hfile, ht, halike⟩ := hafter.file
  have hplace : (s.changes cs).place = some place := by
    rw [Store.place, hfile]
    rfl
  have hpath : (s.changes cs).path = some path := by
    rw [Store.path, hfile]
    rfl
  constructor
  · refine ⟨⟨path, place, t⟩, hfile, halike, fun htf => ?_⟩
    exact Tables.eq_of_alike ht hafter.maps ((hfull' htf).file _ hfile) (hfull' htf).tables halike
  · refine ⟨_, hhosts.reopen_eq hfile (hfree place hplace) m o l, ?_, ?_, ht,
      fun htf => (hfull' htf).file _ hfile⟩
    · exact dictionary_eq_of_alike hafter.origin.symm hafter.locale.symm hafter.frozen rfl halike
    · exact report_eq_of_alike hafter.origin.symm hafter.locale.symm hpath.symm hafter.maps ht
        halike

/-- A word is learned twice and removed, so that its row goes, and another one is left in a row. -/
theorem reopened_alike_without_row :
    let path := "/d/history-en.redb".toList
    let d : Disk := { files := [("/d".toList, .directory)] }
    let l : Locale := ⟨"en".toList⟩
    let s : Store := { number := 0, origin := .history, locale := l, file := some ⟨path, path, {}⟩ }
    let c (w : String) := (Context.empty 3).next (.word w.toList)
    let cs : List Change := [.use (c "good") "morning".toList true 1 10,
      .use (c "good") "morning".toList true 1 20, .use (c "no") "one".toList false 1 30,
      .use (c "good") [] false 1 40, .remove "morning".toList, .add "else".toList 9]
    let d₁ := (d.openStore [] 0 .history l path).2
    (d.openStore [] 0 .history l path = (.ok s, d₁) ∧ s.tables.AreMaps ∧ s.tables.Full ∧
      ∀ place ∈ (s.changes cs).place, place ∉ ([] : List Text)) ∧
      (s.changes cs).report = ⟨.history, l, 2, 1, some path⟩ ∧
      (∃ f, (s.changes cs).file = some f ∧ f.tables = (s.changes cs).tables) ∧
      ∃ s', ((d₁.closeStore (s.changes cs)).openStore [] 1 .history l path).1 = .ok s' ∧
        s'.dictionary = (s.changes cs).dictionary ∧ s'.report = (s.changes cs).report := by
  intro path d l s c cs d₁
  have h : d.openStore [] 0 .history l path = (.ok s, d₁) := by decide +kernel
  have hmaps : s.tables.AreMaps := Tables.areMaps_empty
  have hfull : s.tables.Full := Tables.full_empty
  have hfree : ∀ place ∈ (s.changes cs).place, place ∉ ([] : List Text) :=
    fun _ _ => List.not_mem_nil
  obtain ⟨⟨f, hf, -, hsame⟩, s', hs', hdictionary, hreport, -⟩ :=
    reopened_alike h hmaps cs hfree 1
  exact ⟨⟨h, hmaps, hfull, hfree⟩, by decide +kernel, ⟨f, hf, hsame hfull⟩, s', hs', hdictionary,
    hreport⟩

end Store

end Typeahead
