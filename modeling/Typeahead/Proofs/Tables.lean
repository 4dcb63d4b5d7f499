import Mathlib.Data.Option.Basic
import Typeahead.Proofs.WordMap
import Typeahead.Store

/-! # The tables of stores

Tables say which words there are and which words follow each (`Tables.row`). A row without followers
says the same as no row: tables are `Alike` if they hold the same words and the same followers of
every word, and then they are the same if none of them holds such a row (`eq_of_alike`). Each change
is described by its rows (`row_use`, `row_remove`). Whatever a change does, copying to other tables
just the words and rows that it touched keeps these alike (`alike_copyRows`). -/

namespace Typeahead

namespace WordMap

variable {α : Type} {m : WordMap α} {k j : Text}

theorem has_alter {f : Option α → Option α} (hm : Sorted m) :
    has (alter k f m) j = if j = k then (f (get? m k)).isSome else has m j := by
  rw [has_eq, get?_alter hm, apply_ite Option.isSome, ← has_eq]

theorem sorted_foldl_alter (g : Text → Option α) (ks : List Text) : ∀ {m : WordMap α}, Sorted m →
    Sorted (ks.foldl (fun m k => m.alter k fun _ => g k) m) := by
  induction ks with
  | nil => exact fun h => h
  | cons k ks ih => exact fun h => ih (sorted_alter h)

/-- Entries that are set one after another by one function. -/
theorem get?_foldl_alter (g : Text → Option α) (ks : List Text) : ∀ {m : WordMap α}, Sorted m →
    get? (ks.foldl (fun m k => m.alter k fun _ => g k) m) j =
      if j ∈ ks then g j else get? m j := by
  induction ks with
  | nil =>
    intro m _
    rw [if_neg List.not_mem_nil]
    rfl
  | cons k ks ih =>
    intro m hm
    rw [List.foldl_cons, ih (sorted_alter hm), get?_alter hm]
    by_cases hjk : j = k
    · rw [hjk, if_pos rfl, if_pos List.mem_cons_self, ite_self]
    · simp only [if_neg hjk, List.mem_cons, or_iff_right hjk]

variable {β : Type} {p : β → Bool} {f : α → β}

theorem sorted_filter_map (hm : Sorted m) :
    Sorted ((m.map fun e => (e.1, f e.2)).filter fun e => p e.2) := by
  have hmap : Sorted (m.map fun e => (e.1, f e.2)) := List.pairwise_map.mpr hm
  exact List.Pairwise.filter _ hmap

theorem get?_filter_map (hm : Sorted m) :
    get? ((m.map fun e => (e.1, f e.2)).filter fun e => p e.2) k =
      ((get? m k).map f).filter p := by
  induction m with
  | nil => rfl
  | cons e m ih =>
    obtain ⟨he, hm'⟩ := sorted_cons.mp hm
    rw [List.map_cons, List.filter_cons, get?_cons]
    by_cases hek : e.1 = k
    · have hrest : get? m k = none := get?_eq_none_of_lt (hek ▸ he)
      rw [if_pos hek, Option.map_some, Option.filter_some]
      split_ifs with hp
      · rw [get?_cons, if_pos hek]
      · rw [ih hm', hrest]
        rfl
    · rw [if_neg hek]
      split_ifs with hp
      · rw [get?_cons, if_neg hek, ih hm']
      · exact ih hm'

end WordMap

open WordMap

namespace Tables

variable {t u : Tables} {c : Context} {w k : Text} {valid : Bool} {n time : Nat}

/-! ### Tables that say the same -/

/-- The followers of a word; without a row there are none. -/
def row (t : Tables) (k : Text) : WordMap Nat := (t.followers.get? k).getD []

/-- The tables are maps: all their keys increase. -/
structure AreMaps (t : Tables) : Prop where
  words : t.words.Sorted
  followers : t.followers.Sorted
  rows : ∀ k, (t.row k).Sorted

/-- No row is without followers. -/
def Full (t : Tables) : Prop := ∀ k, t.followers.get? k ≠ some []

/-- The tables hold the same words, and the same followers of every word. -/
structure Alike (t u : Tables) : Prop where
  words : t.words = u.words
  rows : ∀ k, t.row k = u.row k

theorem Alike.refl (t : Tables) : t.Alike t := ⟨rfl, fun _ => rfl⟩

theorem areMaps_empty : AreMaps {} := ⟨sorted_nil, sorted_nil, fun _ => sorted_nil⟩

theorem full_empty : Full {} := fun _ h => nomatch h

/-- The row of a word as it stands in a file: there is none without followers. -/
theorem filter_row (t : Tables) (k : Text) : (t.followers.get? k).filter (!·.isEmpty) =
    (some (t.row k)).filter (!·.isEmpty) := by
  unfold row
  rcases t.followers.get? k with _ | r <;> rfl

theorem Full.get?_eq (h : t.Full) (k : Text) :
    t.followers.get? k = (some (t.row k)).filter (!·.isEmpty) := by
  rw [← filter_row]
  rcases hk : t.followers.get? k with _ | r
  · rfl
  · have hne : r ≠ [] := fun hr => h k (hr ▸ hk)
    rw [Option.filter_some, if_pos (by simpa using hne)]

/-- **Tables without empty rows** that say the same are the same. -/
theorem eq_of_alike (ht : t.AreMaps) (hu : u.AreMaps) (htf : t.Full) (huf : u.Full)
    (h : t.Alike u) : t = u := by
  have hfollowers : t.followers = u.followers := by
    refine ht.followers.ext hu.followers fun k => ?_
    rw [htf.get?_eq, huf.get?_eq, h.rows]
  have hwords := h.words
  cases t
  cases u
  dsimp only at hwords hfollowers
  rw [hwords, hfollowers]

/-! ### Changes -/

theorem get?_followers_use (ht : t.followers.Sorted) (k : Text) :
    (t.use c w valid n time).followers.get? k =
      if k ∈ rowKey? c then
        some ((t.row k).alter w fun old => some (addCounts (old.getD 0) n))
      else t.followers.get? k := by
  rcases hkey : rowKey? c with _ | j
  · simp [use, hkey]
  · simp only [use, hkey, Option.mem_some_iff]
    rw [get?_alter ht]
    by_cases hjk : k = j
    · rw [if_pos hjk, if_pos hjk.symm, hjk]
      rfl
    · rw [if_neg hjk, if_neg fun h => hjk h.symm]

/-- **The rows after a word was used**: the one of its context counts it. -/
theorem row_use (ht : t.followers.Sorted) (k : Text) : (t.use c w valid n time).row k =
    if k ∈ rowKey? c then (t.row k).alter w fun old => some (addCounts (old.getD 0) n)
    else t.row k := by
  rw [row, get?_followers_use ht]
  split_ifs <;> rfl

theorem get?_followers_remove (ht : t.followers.Sorted) (k : Text) :
    (t.remove w).followers.get? k =
      ((t.followers.get? k).map (·.erase w)).filter fun row => !row.isEmpty :=
  get?_filter_map (f := erase w) (p := fun row : WordMap Nat => !row.isEmpty) ht

/-- **The rows after a word was removed** are without it. -/
theorem row_remove (ht : t.followers.Sorted) (w k : Text) :
    (t.remove w).row k = (t.row k).erase w := by
  unfold row
  rw [get?_followers_remove ht]
  rcases t.followers.get? k with _ | r
  · rfl
  · rw [Option.map_some, Option.getD_some, Option.filter_some]
    split_ifs with hne
    · rfl
    · have hempty : erase w r = [] := by simpa using hne
      rw [hempty]
      rfl

theorem AreMaps.use (ht : t.AreMaps) : (t.use c w valid n time).AreMaps := by
  refine ⟨sorted_alter ht.words, ?_, fun k => ?_⟩
  · unfold Tables.use
    dsimp only
    split
    · exact ht.followers
    · exact sorted_alter ht.followers
  · rw [row_use ht.followers]
    split_ifs
    · exact sorted_alter (ht.rows k)
    · exact ht.rows k

theorem AreMaps.add (ht : t.AreMaps) (w : Text) (f : Nat) : (t.add w f).AreMaps :=
  ⟨sorted_alter ht.words, ht.followers, ht.rows⟩

theorem AreMaps.remove (ht : t.AreMaps) (w : Text) : (t.remove w).AreMaps := by
  have hfollowers : (t.remove w).followers.Sorted :=
    sorted_filter_map (f := erase w) (p := fun row : WordMap Nat => !row.isEmpty) ht.followers
  refine ⟨sorted_erase ht.words, hfollowers, fun k => ?_⟩
  rw [row_remove ht.followers]
  exact sorted_erase (ht.rows k)

theorem Full.use (ht : t.AreMaps) (h : t.Full) : (t.use c w valid n time).Full := by
  intro k hk
  rw [get?_followers_use ht.followers] at hk
  split_ifs at hk
  · refine absurd (Option.some.inj hk) (ne_nil_iff.mpr ⟨w, ?_⟩)
    rw [get?_alter (ht.rows k), if_pos rfl]
    rfl
  · exact h k hk

theorem full_remove (ht : t.AreMaps) (w : Text) : (t.remove w).Full := by
  intro k hk
  rw [get?_followers_remove ht.followers] at hk
  exact absurd (Option.filter_eq_some_iff.mp hk).2 (by decide)

/-! ### What is copied to a file -/

theorem erase_eq_self {row : WordMap Nat} (hs : row.Sorted) (hw : row.has w = false) :
    row.erase w = row := by
  refine (sorted_erase hs).ext hs fun v => ?_
  rw [get?_erase hs]
  split_ifs with hv
  · rw [has_eq] at hw
    rw [hv]
    exact (Option.not_isSome_iff_eq_none.mp (by simp [hw])).symm
  · rfl

section
variable {ws ks : List Text}

theorem get?_followers_copyRows (hu : u.followers.Sorted) (k : Text) :
    (t.copyRows u ws ks).followers.get? k =
      if k ∈ ks then (some (t.row k)).filter (!·.isEmpty) else u.followers.get? k := by
  have hcopy := get?_foldl_alter (j := k)
    (fun k => (t.followers.get? k).filter fun r : WordMap Nat => !r.isEmpty) ks hu
  rw [filter_row] at hcopy
  exact hcopy

theorem row_copyRows (hu : u.followers.Sorted) (k : Text) :
    (t.copyRows u ws ks).row k = if k ∈ ks then t.row k else u.row k := by
  rw [row, get?_followers_copyRows hu]
  split_ifs
  · rw [Option.filter_some]
    split_ifs with hne
    · rfl
    · have hempty : t.row k = [] := by simpa using hne
      rw [hempty]
      rfl
  · rfl

theorem AreMaps.copyRows (ht : t.AreMaps) (hu : u.AreMaps) (ws ks : List Text) :
    (t.copyRows u ws ks).AreMaps := by
  refine ⟨sorted_foldl_alter _ ws hu.words, sorted_foldl_alter _ ks hu.followers, fun k => ?_⟩
  rw [row_copyRows hu.followers]
  split_ifs
  · exact ht.rows k
  · exact hu.rows k

theorem Full.copyRows (hu : u.AreMaps) (h : u.Full) : (t.copyRows u ws ks).Full := by
  intro k hk
  rw [get?_followers_copyRows hu.followers] at hk
  split_ifs at hk
  · exact absurd (Option.filter_eq_some_iff.mp hk).2 (by decide)
  · exact h k hk

/-- **Copying what has changed** is enough: if the file said the same as the tables before, and
nothing has changed but some words and some rows, then with these it says the same as the tables
after. -/
theorem alike_copyRows {t' : Tables} (ht' : t'.AreMaps) (hu : u.AreMaps) (h : u.Alike t)
    (hwords : ∀ v, v ∉ ws → t.words.get? v = t'.words.get? v)
    (hrows : ∀ k, k ∉ ks → t.row k = t'.row k) : (t'.copyRows u ws ks).Alike t' := by
  constructor
  · refine (sorted_foldl_alter _ ws hu.words).ext ht'.words fun v => ?_
    rw [get?_foldl_alter _ ws hu.words]
    split_ifs with hv
    · rfl
    · rw [h.words, hwords v hv]
  · intro k
    rw [row_copyRows hu.followers]
    split_ifs with hk
    · rfl
    · rw [h.rows, hrows k hk]

end

section
variable (ht : t.AreMaps) (hu : u.AreMaps) (h : u.Alike t)
include ht hu h

theorem alike_copyRows_use : ((t.use c w valid n time).copyRows u [w] (rowKey? c).toList).Alike
    (t.use c w valid n time) := by
  refine alike_copyRows ht.use hu h (fun v hv => ?_) fun k hk => ?_
  · show t.words.get? v = (t.words.alter w _).get? v
    rw [get?_alter ht.words, if_neg fun hvw => hv (List.mem_singleton.mpr hvw)]
  · have hkey : k ∉ rowKey? c := fun hmem => hk (Option.mem_toList.mpr hmem)
    rw [row_use ht.followers, if_neg hkey]

theorem alike_copyRows_add {f : Nat} : ((t.add w f).copyRows u [w] []).Alike (t.add w f) := by
  refine alike_copyRows (ht.add w f) hu h (fun v hv => ?_) fun k _ => rfl
  show t.words.get? v = (t.words.alter w _).get? v
  rw [get?_alter ht.words, if_neg fun hvw => hv (List.mem_singleton.mpr hvw)]

theorem alike_copyRows_remove :
    ((t.remove w).copyRows u [w] (t.rowsOf w)).Alike (t.remove w) := by
  refine alike_copyRows (ht.remove w) hu h (fun v hv => ?_) fun k hk => ?_
  · show t.words.get? v = (t.words.erase w).get? v
    rw [get?_erase ht.words, if_neg fun hvw => hv (List.mem_singleton.mpr hvw)]
  · -- a row that is not copied does not hold the word
    rw [row_remove ht.followers]
    refine (erase_eq_self (ht.rows k) ?_).symm
    unfold row
    rcases hrow : t.followers.get? k with _ | r
    · rfl
    · rcases hb : r.has w with _ | _
      · exact hb
      · refine absurd (List.mem_map.mpr ⟨(k, r), List.mem_filter.mpr ⟨?_, hb⟩, rfl⟩) hk
        exact mem_of_get? hrow

end

/-! ### Numbers of pairs -/

/-- The rows that have followers. -/
def fullRows (t : Tables) : WordMap (WordMap Nat) := t.followers.filter fun e => !e.2.isEmpty

theorem sorted_fullRows (ht : t.AreMaps) : t.fullRows.Sorted := List.Pairwise.filter _ ht.followers

theorem get?_fullRows (ht : t.AreMaps) (k : Text) :
    t.fullRows.get? k = (some (t.row k)).filter (!·.isEmpty) := by
  have hfilter := get?_filter_map (k := k) (f := id) (p := fun r : WordMap Nat => !r.isEmpty)
    ht.followers
  have hid : (t.followers.map fun e => (e.1, id e.2)) = t.followers := List.map_id _
  rw [hid, Option.map_id_fun, id_eq, filter_row] at hfilter
  exact hfilter

theorem pairCount_eq_fullRows (t : Tables) :
    t.pairCount = t.fullRows.foldl (fun n e => n + e.2.length) 0 := by
  have hcount : ∀ (m : WordMap (WordMap Nat)) (n : Nat), m.foldl (fun n e => n + e.2.length) n =
      (m.filter fun e => !e.2.isEmpty).foldl (fun n e => n + e.2.length) n := by
    intro m
    induction m with
    | nil => exact fun _ => rfl
    | cons e m ih =>
      intro n
      rw [List.filter_cons, List.foldl_cons]
      split_ifs with hne
      · rw [List.foldl_cons, ih]
      · have hempty : e.2 = [] := by simpa using hne
        rw [← ih, hempty]
        rfl
  exact hcount t.followers 0

/-- **Tables that say the same** have the same number of pairs. -/
theorem Alike.pairCount_eq (ht : t.AreMaps) (hu : u.AreMaps) (h : t.Alike u) :
    t.pairCount = u.pairCount := by
  have hrows : t.fullRows = u.fullRows := by
    refine (sorted_fullRows ht).ext (sorted_fullRows hu) fun k => ?_
    rw [get?_fullRows ht, get?_fullRows hu, h.rows]
  rw [pairCount_eq_fullRows, pairCount_eq_fullRows, hrows]

end Tables

end Typeahead
