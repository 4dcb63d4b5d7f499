import Mathlib.Data.List.Induction
import Mathlib.Logic.Function.Iterate
import Typeahead.Proofs.Store

/-! # Lessons

A `Lesson` is one use of a word that is to be counted: the row of followers that it belongs to, and
the form of the word. It is what a use in a context comes to (`use_eq_teach`, `exists_use`).

Lessons that are taught one after another add to two counts, how often a word was used
(`Tables.uses`) and how often in a row (`Tables.times`), each by one for each lesson about it
(`uses_taught`, `times_taught`). A count that is at the limit stays there, and no other one does
(`iterate_bump_eq_iff`). So it matters in which row a word is counted, unless both counts are at the
limit (`taught_eq_iff_of_rows`). -/

namespace Typeahead

open WordMap

/-- A use of a word that is to be counted: the row that it belongs to, its form, whether the main
dictionary vouches for the word, and the time. -/
structure Lesson where
  row : Option Text
  form : Text
  valid : Bool
  time : Nat
  deriving DecidableEq, Repr

namespace Tables

variable {t : Tables} {l : Lesson} {ls : List Lesson} {w k : Text}

/-- The tables after a lesson. -/
def teach (t : Tables) (l : Lesson) : Tables where
  words := t.words.alter l.form fun old => some (usedEntry (old.getD {}) l.valid 1 l.time)
  followers :=
    match l.row with
    | none => t.followers
    | some k => t.followers.alter k fun row =>
        some ((row.getD []).alter l.form fun old => some (addCounts (old.getD 0) 1))

/-- The tables after some lessons. -/
def taught (t : Tables) (ls : List Lesson) : Tables := ls.foldl teach t

theorem taught_append (t : Tables) (ls ls' : List Lesson) :
    t.taught (ls ++ ls') = (t.taught ls).taught ls' := List.foldl_append

theorem taught_concat (t : Tables) (ls : List Lesson) (l : Lesson) :
    t.taught (ls ++ [l]) = (t.taught ls).teach l := t.taught_append ls [l]

theorem use_eq_teach (t : Tables) (c : Context) (w : Text) (valid : Bool) (time : Nat) :
    t.use c w valid 1 time = t.teach ⟨rowKey? c, w, valid, time⟩ := rfl

/-- The row of a context is never that of the empty word. -/
theorem rowKey?_ne (c : Context) : rowKey? c ≠ some [] := by
  unfold rowKey?
  split_ifs
  · decide
  · intro hrow
    exact absurd (Option.filter_eq_some_iff.mp hrow).2 (by decide)

/-- **A lesson is a use** in some context. -/
theorem exists_use (hrow : l.row ≠ some []) :
    ∃ c, rowKey? c = l.row ∧ ∀ t : Tables, t.teach l = t.use c l.form l.valid 1 l.time := by
  obtain ⟨c, hc⟩ : ∃ c, rowKey? c = l.row := by
    rcases hk : l.row with _ | k
    · exact ⟨Context.empty 0, rfl⟩
    · have hne : k ≠ [] := fun hnil => hrow (hnil ▸ hk)
      refine ⟨⟨1, [.word k]⟩, ?_⟩
      show (some k).filter (fun w : Text => !w.isEmpty) = some k
      rw [Option.filter_some, if_pos (by simpa using hne)]
  refine ⟨c, hc, fun t => ?_⟩
  rw [use_eq_teach, hc]

theorem Sound.teach (h : t.Sound) (hrow : l.row ≠ some []) : (t.teach l).Sound := by
  obtain ⟨c, -, huse⟩ := exists_use hrow
  rw [huse]
  exact sound_use h c l.form l.valid 1 l.time

theorem Sound.taught (hls : ∀ l ∈ ls, l.row ≠ some []) : ∀ {t : Tables}, t.Sound →
    (t.taught ls).Sound := by
  induction ls with
  | nil => exact fun h => h
  | cons l ls ih =>
    intro t h
    exact ih (fun l' hl' => hls l' (List.mem_cons_of_mem l hl'))
      (h.teach (hls l List.mem_cons_self))

theorem has_words_teach (h : t.Sound) (v : Text) :
    (t.teach l).words.has v = (v == l.form || t.words.has v) :=
  has_words_use h (Context.empty 0) l.valid 1 l.time v

/-! ### Counts -/

/-- How often a word was used, if it is known. -/
def uses (t : Tables) (w : Text) : Option Nat := (t.words.get? w).map (·.count)

/-- How often a word was used in a row, if it was. -/
def times (t : Tables) (k w : Text) : Option Nat := (t.row k).get? w

/-- A count after one more use. -/
def bump (count : Option Nat) : Option Nat := some (addCounts (count.getD 0) 1)

theorem iterate_bump (n : Nat) (count : Option Nat) :
    bump^[n + 1] count = some (min (count.getD 0 + n + 1) countLimit) := by
  induction n with
  | zero => rfl
  | succ n ih =>
    rw [Function.iterate_succ_apply', ih, bump, addCounts, Option.getD_some]
    congr 1
    omega

/-- **A count stays** where nothing is counted, and at the limit. -/
theorem iterate_bump_eq_iff {n : Nat} {count : Option Nat} :
    bump^[n] count = count ↔ n = 0 ∨ count = some countLimit := by
  cases n with
  | zero => exact ⟨fun _ => .inl rfl, fun _ => rfl⟩
  | succ n =>
    rw [iterate_bump]
    rcases count with _ | m
    · simp
    · rw [Option.getD_some, Option.some.injEq, Option.some.injEq]
      omega

theorem bump_eq_iff {count : Option Nat} : bump count = count ↔ count = some countLimit :=
  (iterate_bump_eq_iff (n := 1)).trans (or_iff_right Nat.one_ne_zero)

theorem uses_teach (h : t.words.Sorted) (w : Text) :
    (t.teach l).uses w = if w = l.form then bump (t.uses w) else t.uses w := by
  show ((t.words.alter l.form _).get? w).map (·.count) = _
  rw [get?_alter h]
  by_cases hw : w = l.form
  · rw [if_pos hw, if_pos hw, hw, uses]
    cases t.words.get? l.form <;> rfl
  · rw [if_neg hw, if_neg hw, uses]

theorem times_teach (h : t.AreMaps) (hrow : l.row ≠ some []) (k w : Text) :
    (t.teach l).times k w =
      if k ∈ l.row ∧ w = l.form then bump (t.times k w) else t.times k w := by
  obtain ⟨c, hc, huse⟩ := exists_use hrow
  rw [times, huse, row_use h.followers, hc]
  by_cases hk : k ∈ l.row
  · rw [if_pos hk, get?_alter (h.rows k)]
    by_cases hw : w = l.form
    · rw [if_pos hw, if_pos ⟨hk, hw⟩, hw]
      rfl
    · rw [if_neg hw, if_neg fun hboth => hw hboth.2]
      rfl
  · rw [if_neg hk, if_neg fun hboth => hk hboth.1]
    rfl

/-- **How often a word was used** after some lessons. -/
theorem uses_taught (hls : ∀ l ∈ ls, l.row ≠ some []) (h : t.Sound) (w : Text) :
    (t.taught ls).uses w = bump^[ls.countP (·.form = w)] (t.uses w) := by
  induction ls using List.reverseRecOn with
  | nil => rfl
  | append_singleton ls l ih =>
    have hinit : ∀ l ∈ ls, l.row ≠ some [] := fun l hl => hls l (List.mem_append_left _ hl)
    rw [taught_concat, uses_teach (Sound.taught hinit h).words, ih hinit, List.countP_append,
      List.countP_singleton]
    by_cases hw : w = l.form
    · rw [if_pos hw, if_pos (by simp [hw]), Function.iterate_succ_apply']
    · rw [if_neg hw, if_neg (by simp [Ne.symm hw]), Nat.add_zero]

/-- **How often a word was used in a row** after some lessons. -/
theorem times_taught (hls : ∀ l ∈ ls, l.row ≠ some []) (h : t.Sound) (k w : Text) :
    (t.taught ls).times k w =
      bump^[ls.countP fun l => l.row = some k ∧ l.form = w] (t.times k w) := by
  induction ls using List.reverseRecOn with
  | nil => rfl
  | append_singleton ls l ih =>
    have hinit : ∀ l ∈ ls, l.row ≠ some [] := fun l hl => hls l (List.mem_append_left _ hl)
    rw [taught_concat, times_teach (Sound.taught hinit h).areMaps
      (hls l (List.mem_append_right _ (List.mem_singleton_self l))), ih hinit, List.countP_append,
      List.countP_singleton]
    by_cases hboth : k ∈ l.row ∧ w = l.form
    · rw [if_pos hboth, if_pos (by simpa using ⟨hboth.1, hboth.2.symm⟩),
        Function.iterate_succ_apply']
    · rw [if_neg hboth, if_neg, Nat.add_zero]
      simpa [eq_comm (a := w)] using hboth

/-- **The counts of the rows** and the words tell tables apart. -/
theorem eq_of_times {u : Tables} (ht : t.Sound) (hu : u.Sound) (hwords : t.words = u.words)
    (htimes : ∀ k w, t.times k w = u.times k w) : t = u :=
  eq_of_alike ht.areMaps hu.areMaps ht.full hu.full
    ⟨hwords, fun k => (ht.areMaps.rows k).ext (hu.areMaps.rows k) (htimes k)⟩

/-! ### The row of one lesson -/

theorem words_taught_congr : ∀ (ls : List Lesson) {t u : Tables}, t.words = u.words →
    (t.taught ls).words = (u.taught ls).words
  | [], _, _, h => h
  | l :: ls, t, u, h => by
    have hwords : (t.teach l).words = (u.teach l).words := by
      show t.words.alter _ _ = u.words.alter _ _
      rw [h]
    exact words_taught_congr ls hwords

/-- **One lesson more** in a row. -/
theorem times_taught_insert {rs : List Lesson} {k f : Text} {valid : Bool} {time : Nat}
    (hls : ∀ l ∈ ls ++ ⟨some k, f, valid, time⟩ :: rs, l.row ≠ some []) (h : t.Sound)
    (k' w : Text) : (t.taught (ls ++ ⟨some k, f, valid, time⟩ :: rs)).times k' w =
      if k' = k ∧ w = f then bump ((t.taught (ls ++ rs)).times k' w)
      else (t.taught (ls ++ rs)).times k' w := by
  have hrest : ∀ l ∈ ls ++ rs, l.row ≠ some [] := fun l hl => hls l <| by
    rw [List.mem_append, List.mem_cons]
    exact (List.mem_append.mp hl).imp_right .inr
  rw [times_taught hls h, times_taught hrest h, List.countP_append, List.countP_cons,
    List.countP_append, ← Nat.add_assoc]
  by_cases hboth : k' = k ∧ w = f
  · obtain ⟨rfl, rfl⟩ := hboth
    rw [if_pos (by simp), if_pos ⟨rfl, rfl⟩, Function.iterate_succ_apply']
  · have hnot : ¬ (some k = some k' ∧ f = w) := fun hsame =>
      hboth ⟨(Option.some.inj hsame.1).symm, hsame.2.symm⟩
    rw [if_neg hboth, if_neg (mt of_decide_eq_true hnot), Nat.add_zero]

/-- **The row of a lesson** matters, unless the counts of the word in both rows are at the limit. -/
theorem taught_eq_iff_of_rows {rs : List Lesson} {k k' f : Text} {valid : Bool} {time : Nat}
    (hk : k ≠ k') (hls : ∀ l ∈ ls ++ ⟨some k, f, valid, time⟩ :: rs, l.row ≠ some [])
    (hls' : ∀ l ∈ ls ++ ⟨some k', f, valid, time⟩ :: rs, l.row ≠ some []) (h : t.Sound) :
    t.taught (ls ++ ⟨some k, f, valid, time⟩ :: rs) =
        t.taught (ls ++ ⟨some k', f, valid, time⟩ :: rs) ↔
      (t.taught (ls ++ ⟨some k, f, valid, time⟩ :: rs)).times k' f = some countLimit ∧
        (t.taught (ls ++ ⟨some k', f, valid, time⟩ :: rs)).times k f = some countLimit := by
  have htimes := times_taught_insert hls h
  have htimes' := times_taught_insert hls' h
  have hfirst := htimes k f
  have hsecond := htimes' k' f
  rw [if_pos ⟨rfl, rfl⟩] at hfirst hsecond
  have hfirst' := htimes' k f
  rw [if_neg fun hboth => hk hboth.1] at hfirst'
  have hsecond' := htimes k' f
  rw [if_neg fun hboth => hk hboth.1.symm] at hsecond'
  have hwords : (t.taught (ls ++ ⟨some k, f, valid, time⟩ :: rs)).words =
      (t.taught (ls ++ ⟨some k', f, valid, time⟩ :: rs)).words := by
    rw [taught_append, taught_append]
    exact words_taught_congr rs rfl
  have hsound := Sound.taught hls h
  have hsound' := Sound.taught hls' h
  generalize t.taught (ls ++ ⟨some k, f, valid, time⟩ :: rs) = a at *
  generalize t.taught (ls ++ ⟨some k', f, valid, time⟩ :: rs) = b at *
  constructor
  · rintro rfl
    exact ⟨hsecond'.trans (bump_eq_iff.mp (hsecond.symm.trans hsecond')),
      hfirst'.trans (bump_eq_iff.mp (hfirst.symm.trans hfirst'))⟩
  · rintro ⟨hlimit, hlimit'⟩
    refine eq_of_times hsound hsound' hwords fun k₀ w => ?_
    by_cases hk₀ : k₀ = k ∧ w = f
    · obtain ⟨rfl, rfl⟩ := hk₀
      rw [hfirst, hfirst', bump_eq_iff.mpr (hfirst'.symm.trans hlimit')]
    · by_cases hk₀' : k₀ = k' ∧ w = f
      · obtain ⟨rfl, rfl⟩ := hk₀'
        rw [hsecond, hsecond', bump_eq_iff.mpr (hsecond'.symm.trans hlimit)]
      · rw [htimes, if_neg hk₀, htimes', if_neg hk₀']

end Tables

end Typeahead
