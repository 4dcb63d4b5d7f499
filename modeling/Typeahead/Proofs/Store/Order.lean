import Typeahead.Proofs.Store

/-! # Learning in any order

A store learns by `Learning`s: uses of words in contexts, and words that are added with a frequency.
Each of them changes the entry of one word and a count in one row, or in none (`Tables.learn`).

The counts of two learnings add up to the limit in either order (`addCounts_right_comm`). The
frequency follows the count, but it is raised at each step and only ever raised: since the frequency
of a use grows with the count, what is left is that of the last count, the greatest
(`usedEntry_comm`). So two learnings can be exchanged (`Tables.learn_comm`), also in the file, to
which each copies what it has touched (`Store.learned_comm`), and any number of them can be taken in
any order (`Store.learnAll_perm`). -/

namespace Typeahead

namespace WordMap

variable {α : Type} {m : WordMap α} {k j : Text}

/-- **Two changes of a map** can be exchanged, if they can at their key when it is the same. -/
theorem alter_comm {f g : Option α → Option α} (hm : Sorted m)
    (h : k = j → f (g (get? m k)) = g (f (get? m k))) :
    alter k f (alter j g m) = alter j g (alter k f m) := by
  refine (sorted_alter (sorted_alter hm)).ext (sorted_alter (sorted_alter hm)) fun l => ?_
  rw [get?_alter (sorted_alter hm), get?_alter (sorted_alter hm), get?_alter hm, get?_alter hm,
    get?_alter hm, get?_alter hm]
  by_cases hkj : k = j
  · have hfg := h hkj
    subst hkj
    by_cases hl : l = k
    · simp only [if_pos hl, if_true, hfg]
    · simp only [if_neg hl]
  · have hjk : j ≠ k := fun heq => hkj heq.symm
    by_cases hl : l = k
    · have hlj : l ≠ j := hl ▸ hkj
      simp only [if_pos hl, if_neg hkj, if_neg hlj]
    · simp only [if_neg hl, if_neg hjk]

/-- **Two copies** of values to a map can be exchanged, if each value that only one of them copies
is the one that is copied in the end. -/
theorem foldl_alter_comm {g g' v : Text → Option α} {ks ks' : List Text} (hm : Sorted m)
    (h : ∀ k, k ∉ ks' → g k = v k) (h' : ∀ k, k ∉ ks → g' k = v k) :
    ks'.foldl (fun m k => m.alter k fun _ => v k) (ks.foldl (fun m k => m.alter k fun _ => g k) m) =
      ks.foldl (fun m k => m.alter k fun _ => v k)
        (ks'.foldl (fun m k => m.alter k fun _ => g' k) m) := by
  have hs := sorted_foldl_alter g ks hm
  have hs' := sorted_foldl_alter g' ks' hm
  refine (sorted_foldl_alter v ks' hs).ext (sorted_foldl_alter v ks hs') fun k => ?_
  rw [get?_foldl_alter v ks' hs, get?_foldl_alter v ks hs', get?_foldl_alter g ks hm,
    get?_foldl_alter g' ks' hm]
  by_cases hk : k ∈ ks
  · by_cases hk' : k ∈ ks'
    · rw [if_pos hk', if_pos hk]
    · rw [if_neg hk', if_pos hk, if_pos hk, h k hk']
  · by_cases hk' : k ∈ ks'
    · rw [if_pos hk', if_neg hk, if_pos hk', h' k hk]
    · rw [if_neg hk', if_neg hk, if_neg hk, if_neg hk']

end WordMap

open WordMap

namespace Tables

/-! ### Counts and frequencies -/

theorem addCounts_right_comm (a m n : Nat) :
    addCounts (addCounts a m) n = addCounts (addCounts a n) m := by
  unfold addCounts
  omega

theorem le_addCounts {a : Nat} (n : Nat) (h : a ≤ countLimit) : a ≤ addCounts a n := by
  unfold addCounts
  omega

theorem historyFrequency_mono {m n : Nat} (h : m ≤ n) :
    historyFrequency m ≤ historyFrequency n := by
  unfold historyFrequency
  omega

/-- A use leaves the frequency of the count before it behind. -/
theorem historyFrequency_addCounts_le (a m n : Nat) :
    historyFrequency (addCounts a m) ≤ historyFrequency (addCounts (addCounts a m) n) :=
  historyFrequency_mono (le_addCounts n (Nat.min_le_right _ _))

theorem usedEntry_comm (e : StoreEntry) (b b' : Bool) (m n x y : Nat) :
    usedEntry (usedEntry e b m x) b' n y = usedEntry (usedEntry e b' n y) b m x := by
  have hcount := addCounts_right_comm e.count m n
  have hm := historyFrequency_addCounts_le e.count m n
  have hn := historyFrequency_addCounts_le e.count n m
  rw [← hcount] at hn
  have hfrequency : ∀ p q r : Nat, p ≤ r → q ≤ r →
      max (max e.frequency p) r = max (max e.frequency q) r := by omega
  unfold usedEntry
  simp only [← hcount, hfrequency _ _ _ hm hn, Bool.or_right_comm, Nat.max_right_comm]

theorem usedEntry_addedEntry (e : StoreEntry) (b : Bool) (n x f : Nat) :
    usedEntry (addedEntry e f) b n x = addedEntry (usedEntry e b n x) f := by
  unfold usedEntry addedEntry
  simp only [Nat.max_right_comm, Bool.true_or]

theorem addedEntry_comm (e : StoreEntry) (f f' : Nat) :
    addedEntry (addedEntry e f) f' = addedEntry (addedEntry e f') f := by
  unfold addedEntry
  simp only [Nat.max_right_comm]

end Tables

/-! ### Learnings -/

/-- What a store can be taught: uses of a word in a context, or a word with a frequency. -/
inductive Learning where
  | use (c : Context) (w : Text) (valid : Bool) (n time : Nat)
  | add (w : Text) (f : Nat)
  deriving Repr

namespace Learning

/-- The word that is learned. -/
def word : Learning → Text
  | use _ w .. | add w _ => w

/-- The row that the word is counted in. -/
def row : Learning → Option Text
  | use c .. => Tables.rowKey? c
  | add .. => none

/-- How often the word is counted. -/
def count : Learning → Nat
  | use _ _ _ n _ => n
  | add .. => 0

/-- What is known of the word afterwards. -/
def entry : Learning → StoreEntry → StoreEntry
  | use _ _ valid n time, e => Tables.usedEntry e valid n time
  | add _ f, e => Tables.addedEntry e f

/-- **What is known of a word** after two learnings does not depend on their order. -/
theorem entry_comm (l l' : Learning) (e : StoreEntry) :
    l.entry (l'.entry e) = l'.entry (l.entry e) := by
  cases l with
  | use =>
    cases l' with
    | use => exact Tables.usedEntry_comm ..
    | add => exact Tables.usedEntry_addedEntry ..
  | add =>
    cases l' with
    | use => exact (Tables.usedEntry_addedEntry ..).symm
    | add => exact Tables.addedEntry_comm ..

end Learning

namespace Tables

variable {t t' u v : Tables} {ws ws' ks ks' : List Text}

/-- The tables after a learning. -/
def learn (t : Tables) (l : Learning) : Tables where
  words := t.words.alter l.word fun old => some (l.entry (old.getD {}))
  followers :=
    match l.row with
    | none => t.followers
    | some k => t.followers.alter k fun row =>
        some ((row.getD []).alter l.word fun old => some (addCounts (old.getD 0) l.count))

theorem learn_use (t : Tables) (c : Context) (w : Text) (valid : Bool) (n time : Nat) :
    t.learn (.use c w valid n time) = t.use c w valid n time := rfl

theorem learn_add (t : Tables) (w : Text) (f : Nat) : t.learn (.add w f) = t.add w f := rfl

theorem AreMaps.learn (h : t.AreMaps) (l : Learning) : (t.learn l).AreMaps := by
  cases l with
  | use c w valid n time =>
    rw [learn_use]
    exact h.use
  | add w f =>
    rw [learn_add]
    exact h.add w f

/-- **A learning touches one word**: the entries of all others stay. -/
theorem get?_words_learn (h : t.AreMaps) {l : Learning} {w : Text} (hw : w ∉ [l.word]) :
    (t.learn l).words.get? w = t.words.get? w := by
  show (t.words.alter l.word _).get? w = _
  rw [get?_alter h.words, if_neg fun heq => hw (List.mem_singleton.mpr heq)]

/-- **A learning touches one row**, or none. -/
theorem get?_followers_learn (h : t.AreMaps) {l : Learning} {k : Text} (hk : k ∉ l.row.toList) :
    (t.learn l).followers.get? k = t.followers.get? k := by
  cases l with
  | use c w valid n time =>
    have hkey : k ∉ rowKey? c := fun hmem => hk (Option.mem_toList.mpr hmem)
    rw [learn_use, get?_followers_use h.followers, if_neg hkey]
  | add w f => rfl

/-- The counts of a row after two learnings. -/
theorem alter_row_comm (h : t.AreMaps) (k : Text) (l l' : Learning) :
    ((t.row k).alter l'.word fun old => some (addCounts (old.getD 0) l'.count)).alter l.word
        (fun old => some (addCounts (old.getD 0) l.count)) =
      ((t.row k).alter l.word fun old => some (addCounts (old.getD 0) l.count)).alter l'.word
        fun old => some (addCounts (old.getD 0) l'.count) :=
  alter_comm (h.rows k) fun _ => congrArg some (addCounts_right_comm _ _ _)

/-- **Two learnings** can be exchanged. -/
theorem learn_comm (h : t.AreMaps) (l l' : Learning) :
    (t.learn l).learn l' = (t.learn l').learn l := by
  have hwords : ((t.learn l).learn l').words = ((t.learn l').learn l).words :=
    alter_comm h.words fun _ => congrArg some (l'.entry_comm l _)
  have hfollowers : ((t.learn l).learn l').followers = ((t.learn l').learn l).followers := by
    unfold learn
    dsimp only
    rcases hl : l.row with _ | k
    · rfl
    · rcases hl' : l'.row with _ | k'
      · rfl
      · dsimp only
        refine alter_comm h.followers fun hk => ?_
        subst hk
        exact congrArg some (alter_row_comm h k' l' l)
  generalize (t.learn l).learn l' = a at *
  generalize (t.learn l').learn l = b at *
  cases a
  cases b
  cases hwords
  cases hfollowers
  rfl

/-! ### Copies for the file -/

/-- **Two copies to a file** can be exchanged, if what only one of them copies is what it is in the
end. -/
theorem copyRows_comm (hu : u.AreMaps)
    (hwords : ∀ w, w ∉ ws' → t.words.get? w = v.words.get? w)
    (hwords' : ∀ w, w ∉ ws → t'.words.get? w = v.words.get? w)
    (hrows : ∀ k, k ∉ ks' → t.followers.get? k = v.followers.get? k)
    (hrows' : ∀ k, k ∉ ks → t'.followers.get? k = v.followers.get? k) :
    v.copyRows (t.copyRows u ws ks) ws' ks' = v.copyRows (t'.copyRows u ws' ks') ws ks := by
  unfold copyRows
  congr 1
  · exact foldl_alter_comm hu.words hwords hwords'
  · refine foldl_alter_comm hu.followers (fun k hk => ?_) fun k hk => ?_
    · rw [hrows k hk]
    · rw [hrows' k hk]

end Tables

namespace Store

variable {s s' : Store} {l l' : Learning} {ls ls' : List Learning}

/-- What a store does with a learning. -/
def learn (s : Store) : Learning → Except Failure Store
  | .use c w valid n time => s.use c w valid n time
  | .add w f => s.add w f

/-- The store after learnings, of which each has to succeed. -/
def learnAll (s : Store) (ls : List Learning) : Except Failure Store := ls.foldlM learn s

/-- The store after a learning of a word that is not empty. -/
def learned (s : Store) (l : Learning) : Store :=
  s.commit (s.tables.learn l) [l.word] l.row.toList

/-- The store can be changed, and its tables are maps, as are those of its file. -/
structure Teachable (s : Store) : Prop where
  frozen : s.frozen = none
  tables : s.tables.AreMaps
  file : ∀ f, s.file = some f → f.tables.AreMaps

/-- **A word that is not empty** is learned by every store that can be changed. -/
theorem learn_eq (h : s.Teachable) (hl : l.word ≠ []) : s.learn l = .ok (s.learned l) := by
  have hempty : l.word.isEmpty = false := by simpa using hl
  cases l with
  | use c w valid n time =>
    have hw : w.isEmpty = false := hempty
    unfold learn use
    simp only [h.frozen, hw, Bool.false_eq_true, if_false]
    rfl
  | add w f =>
    have hw : w.isEmpty = false := hempty
    unfold learn add
    simp only [h.frozen, hw, Bool.false_eq_true, if_false]
    rfl

/-- **One learning** leaves maps. -/
theorem Teachable.learned (h : s.Teachable) (l : Learning) : (s.learned l).Teachable := by
  refine ⟨h.frozen, h.tables.learn l, fun f hf => ?_⟩
  obtain ⟨g, hg, rfl⟩ := Option.map_eq_some_iff.mp hf
  exact (h.tables.learn l).copyRows (h.file g hg) _ _

/-- **Two learnings** can be exchanged, in the store and in its file. -/
theorem learned_comm (h : s.Teachable) (l l' : Learning) :
    (s.learned l).learned l' = (s.learned l').learned l := by
  have htables := Tables.learn_comm h.tables l l'
  have hcopies (f : StoreFile) (hf : s.file = some f) :
      ((s.tables.learn l).learn l').copyRows
          ((s.tables.learn l).copyRows f.tables [l.word] l.row.toList) [l'.word] l'.row.toList =
        ((s.tables.learn l').learn l).copyRows
          ((s.tables.learn l').copyRows f.tables [l'.word] l'.row.toList) [l.word]
          l.row.toList := by
    rw [← htables]
    refine Tables.copyRows_comm (h.file f hf) (fun w hw => ?_) (fun w hw => ?_) (fun k hk => ?_)
      fun k hk => ?_
    · exact (Tables.get?_words_learn (h.tables.learn l) hw).symm
    · rw [htables]
      exact (Tables.get?_words_learn (h.tables.learn l') hw).symm
    · exact (Tables.get?_followers_learn (h.tables.learn l) hk).symm
    · rw [htables]
      exact (Tables.get?_followers_learn (h.tables.learn l') hk).symm
  have hfile : ((s.learned l).learned l').file = ((s.learned l').learned l).file := by
    unfold learned commit
    dsimp only
    rw [Option.map_map, Option.map_map]
    exact Option.map_congr fun f hf =>
      congrArg (fun t : Tables => { f with tables := t }) (hcopies f hf)
  calc (s.learned l).learned l'
      = { s with
          tables := (s.tables.learn l).learn l'
          file := ((s.learned l).learned l').file } := rfl
    _ = { s with
          tables := (s.tables.learn l').learn l
          file := ((s.learned l').learned l).file } := by rw [htables, hfile]
    _ = (s.learned l').learned l := rfl

theorem learnAll_eq (h : s.Teachable) (hls : ∀ l ∈ ls, l.word ≠ []) :
    s.learnAll ls = .ok (ls.foldl learned s) := by
  induction ls generalizing s with
  | nil => rfl
  | cons l ls ih =>
    have hl := hls l List.mem_cons_self
    have hrest : ∀ l' ∈ ls, l'.word ≠ [] := fun l' hl' => hls l' (List.mem_cons_of_mem l hl')
    calc s.learnAll (l :: ls) = (s.learn l).bind (learnAll · ls) := rfl
      _ = (s.learned l).learnAll ls := by
        rw [learn_eq h hl]
        rfl
      _ = .ok ((l :: ls).foldl learned s) := ih (h.learned l) hrest

/-- The learnings of a list in another order, by exchanges of neighbours. -/
theorem foldl_learned_perm (hperm : ls'.Perm ls) (h : s.Teachable) :
    ls'.foldl learned s = ls.foldl learned s := by
  induction hperm generalizing s with
  | nil => rfl
  | cons l _ ih => exact ih (h.learned l)
  | swap l l' ls =>
    rw [List.foldl_cons, List.foldl_cons, List.foldl_cons, List.foldl_cons, learned_comm h l' l]
  | trans _ _ ih ih' => exact (ih h).trans (ih' h)

/-- **A store learns in any order**: a list of uses and additions of words that are not empty
succeeds in every order, and leaves the same entries and the same rows, in the file too. -/
theorem learnAll_perm (h : s.Teachable) (hls : ∀ l ∈ ls, l.word ≠ []) (hperm : ls'.Perm ls) :
    ∃ s', s.learnAll ls = .ok s' ∧ s.learnAll ls' = .ok s' := by
  have hls' : ∀ l ∈ ls', l.word ≠ [] := fun l hl => hls l (hperm.mem_iff.mp hl)
  refine ⟨ls.foldl learned s, learnAll_eq h hls, ?_⟩
  rw [learnAll_eq h hls', foldl_learned_perm hperm h]

/-- Two uses bring the count of a word from just below the limit to the limit, before and after the
word is added with a frequency, while another word is counted in the same row. -/
theorem learnAll_perm_limit :
    let en : Locale := ⟨"en".toList⟩
    let c : Context := (Context.empty 3).next (.word "good".toList)
    let t := ({} : Tables).use c "day".toList false 4294967290 7
    let s : Store := { number := 0, origin := .history, locale := en, tables := t,
                       file := some ⟨"/d/h".toList, "/d/h".toList, t⟩ }
    let ls : List Learning := [.use c "day".toList true 4 9, .add "day".toList 200,
      .use c "night".toList false 2 8, .use Context.start "day".toList false 4 6]
    let ls' : List Learning := [.use Context.start "day".toList false 4 6,
      .use c "night".toList false 2 8, .add "day".toList 200, .use c "day".toList true 4 9]
    (s.Teachable ∧ (∀ l ∈ ls, l.word ≠ []) ∧ ls'.Perm ls) ∧
      ∃ s', s.learnAll ls = .ok s' ∧ s.learnAll ls' = .ok s' ∧
        s'.tables.words.get? "day".toList = some ⟨255, Tables.countLimit, true, 9⟩ ∧
        (s'.tables.row "good".toList).get? "day".toList = some 4294967294 := by
  intro en c t s ls ls'
  have hmaps : t.AreMaps := Tables.areMaps_empty.use
  have h : s.Teachable := by
    refine ⟨rfl, hmaps, fun f hf => ?_⟩
    obtain rfl := Option.some.inj hf
    exact hmaps
  have hls : ∀ l ∈ ls, l.word ≠ [] := by decide
  have hperm : ls'.Perm ls := List.reverse_perm ls
  obtain ⟨s', hs, hs'⟩ := learnAll_perm h hls hperm
  have hvalue : s.learnAll ls = .ok (ls.foldl learned s) := learnAll_eq h hls
  obtain rfl := Except.ok.inj (hs.symm.trans hvalue)
  exact ⟨⟨h, hls, hperm⟩, _, hs, hs', by decide +kernel, by decide +kernel⟩

end Store

end Typeahead
