import Typeahead.Dictionary
import Typeahead.Proofs.Context

/-! # What dictionaries have in common

A `Regular` dictionary answers alike in contexts that say the same, and the weight of its locale
bears on the scores that it gives but not on the words. Lexicons and stores are regular
(`regular_lexicon`, `regular_store`), and so is what is made of regular dictionaries
(`Regular.normalized`, `regular_collection`).

A `Coherent` dictionary vouches for the words that it holds, and has a frequency for no others.
Lexicons are coherent, and so is what is made of coherent dictionaries; a history is not. -/

namespace Typeahead

/-- The words of an answer; none where a dictionary broke off. -/
def Answer.words : Answer → Option (List Text)
  | .found cs => some (cs.map (·.word))
  | .silent => some []
  | .failed => none

theorem Answer.exists_found {a : Answer} {ws : List Text} {w : Text} (h : a.words = some ws)
    (hw : w ∈ ws) : ∃ cs, a = .found cs ∧ w ∈ cs.map (·.word) := by
  cases a with
  | found cs => exact ⟨cs, rfl, Option.some.inj h ▸ hw⟩
  | silent =>
    rw [← Option.some.inj h] at hw
    exact absurd hw List.not_mem_nil
  | failed => exact nomatch h

/-- What the engine relies on in the answers of a dictionary. -/
structure Dictionary.Regular (d : Dictionary) : Prop where
  context : ∀ (q : Query) (c : Context), q.context.same c = true →
    d.suggestions { q with context := c } = d.suggestions q
  weight : ∀ (q : Query) (x : Rat),
    (d.suggestions { q with weight := x }).words = (d.suggestions q).words

variable {q : Query} {c : Context} {x : Rat}

theorem map_word_filterMap {α : Type} {f g : α → Option Candidate} {l : List α}
    (h : ∀ a ∈ l, (f a).map (·.word) = (g a).map (·.word)) :
    (l.filterMap f).map (·.word) = (l.filterMap g).map (·.word) := by
  rw [List.map_filterMap, List.map_filterMap]
  exact List.filterMap_congr h

namespace Lexicon

variable {l : Lexicon}

theorem suggestions_context (l : Lexicon) (h : q.context.same c = true) :
    l.suggestions { q with context := c } = l.suggestions q := by
  have hreads := Context.readsLike_of_same h
  have hnext : l.nextWordsIn c = l.nextWordsIn q.context := by
    unfold nextWordsIn
    rw [hreads.isStart, hreads.word?]
  have hcand : l.candidate? { q with context := c } = l.candidate? q := by
    funext e
    unfold candidate?
    dsimp only
    rw [hreads.flatten]
  unfold suggestions predictions replacement?
  dsimp only
  rw [hnext, hcand, hreads.flatten]

theorem suggestions_weight (l : Lexicon) (q : Query) (x : Rat) :
    (l.suggestions { q with weight := x }).map (·.word) = (l.suggestions q).map (·.word) := by
  unfold suggestions
  dsimp only
  split_ifs
  · unfold predictions
    rw [List.map_map, List.map_map]
    rfl
  · rw [List.map_append, List.map_append]
    congr 1
    refine map_word_filterMap fun e _ => ?_
    unfold candidate?
    by_cases hblock : (e.offensive && q.block) = true
    · rw [if_pos hblock, if_pos hblock]
    · rw [if_neg hblock, if_neg hblock, Option.map_map, Option.map_map]
      rfl

theorem regular_lexicon (l : Lexicon) : l.dictionary.Regular where
  context _ _ h := congrArg Answer.found (l.suggestions_context h)
  weight q x := congrArg some (l.suggestions_weight q x)

end Lexicon

namespace Store

theorem suggestions_context (s : Store) (h : q.context.same c = true) :
    s.suggestions { q with context := c } = s.suggestions q := by
  have hreads := Context.readsLike_of_same h
  have hrow : Tables.rowKey? c = Tables.rowKey? q.context := by
    unfold Tables.rowKey?
    rw [hreads.isStart, hreads.word?]
  have hcand : s.candidate? { q with context := c } = s.candidate? q := by
    funext w e
    unfold candidate?
    dsimp only
    rw [hreads.flatten]
  unfold suggestions predictions
  dsimp only
  rw [hrow, hcand, hreads.flatten]

theorem suggestions_weight (s : Store) (q : Query) (x : Rat) :
    (s.suggestions { q with weight := x }).map (·.word) = (s.suggestions q).map (·.word) := by
  unfold suggestions
  dsimp only
  split_ifs
  · unfold predictions
    rw [List.map_map, List.map_map]
    rfl
  · refine map_word_filterMap fun e _ => ?_
    unfold candidate?
    dsimp only
    split_ifs
    · rfl
    · rw [Option.map_map, Option.map_map]
      rfl

theorem regular_store (s : Store) : s.dictionary.Regular where
  context _ _ h := congrArg Answer.found (s.suggestions_context h)
  weight q x := congrArg some (s.suggestions_weight q x)

end Store

namespace Dictionary

/-- A text in normal form is its own, so that the query is the same on either way. -/
theorem suggestions_normalized (form : NormalForm) (d : Dictionary) (q : Query) :
    (d.normalized form).suggestions q = d.suggestions { q with typed := form.apply q.typed } := by
  show (if form.apply q.typed = q.typed then _ else _) = _
  split_ifs with hfolded
  · rw [hfolded]
  · rfl

theorem Regular.normalized {d : Dictionary} (h : d.Regular) (form : NormalForm) :
    (d.normalized form).Regular where
  context q c hsame := by
    rw [suggestions_normalized, suggestions_normalized]
    exact h.context { q with typed := form.apply q.typed } c hsame
  weight q x := by
    rw [suggestions_normalized, suggestions_normalized]
    exact h.weight { q with typed := form.apply q.typed } x

/-- The words of joined answers are joined; one that broke off leaves none. -/
theorem words_joinAnswers (a b : Answer) : (joinAnswers a b).words =
    a.words.bind fun ws => b.words.map (ws ++ ·) := by
  cases a <;> cases b <;> simp [joinAnswers, Answer.words]

theorem regular_collection (source : Source) {members : List Dictionary}
    (h : ∀ d ∈ members, d.Regular) : (collection source members).Regular where
  context q c hsame := by
    have hfold : ∀ (ds : List Dictionary) (a : Answer), (∀ d ∈ ds, d.Regular) →
        ds.foldl (fun a d => joinAnswers a (d.suggestions { q with context := c })) a =
          ds.foldl (fun a d => joinAnswers a (d.suggestions q)) a := by
      intro ds
      induction ds with
      | nil => exact fun a _ => rfl
      | cons d ds ih =>
        intro a hds
        rw [List.foldl_cons, List.foldl_cons, (hds d List.mem_cons_self).context q c hsame]
        exact ih _ fun d' hd' => hds d' (List.mem_cons_of_mem _ hd')
    exact hfold members .silent h
  weight q x := by
    have hfold : ∀ (ds : List Dictionary) (a b : Answer), (∀ d ∈ ds, d.Regular) →
        a.words = b.words →
        (ds.foldl (fun a d => joinAnswers a (d.suggestions { q with weight := x })) a).words =
          (ds.foldl (fun a d => joinAnswers a (d.suggestions q)) b).words := by
      intro ds
      induction ds with
      | nil => exact fun a b _ hab => hab
      | cons d ds ih =>
        intro a b hds hab
        refine ih _ _ (fun d' hd' => hds d' (List.mem_cons_of_mem _ hd')) ?_
        rw [words_joinAnswers, words_joinAnswers, hab, (hds d List.mem_cons_self).weight q x]
    exact hfold members .silent .silent h rfl

/-! ### What is said of a word -/

/-- The dictionary vouches for the words that it holds, and has a frequency for no others. -/
structure Coherent (d : Dictionary) : Prop where
  isValid : ∀ w, d.isValid w = d.contains w
  frequency : ∀ w, d.contains w = false → d.frequency w = -1

theorem coherent_lexicon (l : Lexicon) : l.dictionary.Coherent where
  isValid _ := rfl
  frequency w hw := by
    have hnone : l.entry? w = none := Option.not_isSome_iff_eq_none.mp (Bool.eq_false_iff.mp hw)
    show ((l.entry? w).map _).getD (-1) = -1
    rw [hnone]
    rfl

theorem Coherent.normalized {d : Dictionary} (h : d.Coherent) (form : NormalForm) :
    (d.normalized form).Coherent where
  isValid w := h.isValid (form.apply w)
  frequency w := h.frequency (form.apply w)

/-- Members that all give -1 give no more together. -/
theorem greatest_eq {f : Dictionary → Int} : ∀ {ds : List Dictionary}, (∀ d ∈ ds, f d = -1) →
    greatest f ds = -1
  | [], _ => rfl
  | d :: ds, h => by
    have hrest : ∀ (ds : List Dictionary), (∀ d ∈ ds, f d = -1) →
        ds.foldl (fun m d => max m (f d)) (-1) = -1 := by
      intro ds
      induction ds with
      | nil => exact fun _ => rfl
      | cons d ds ih =>
        intro hds
        rw [List.foldl_cons, hds d List.mem_cons_self]
        exact ih fun d' hd' => hds d' (List.mem_cons_of_mem _ hd')
    rw [greatest, h d List.mem_cons_self]
    exact hrest ds fun d' hd' => h d' (List.mem_cons_of_mem _ hd')

theorem coherent_collection (source : Source) {members : List Dictionary}
    (h : ∀ d ∈ members, d.Coherent) : (collection source members).Coherent where
  isValid w := by
    show members.any (·.isValid w) = members.any (·.contains w)
    rw [Bool.eq_iff_iff, List.any_eq_true, List.any_eq_true]
    exact exists_congr fun d => and_congr_right fun hd => by rw [(h d hd).isValid w]
  frequency w hw := greatest_eq fun d hd =>
    (h d hd).frequency w (Bool.eq_false_iff.mpr (List.any_eq_false.mp hw d hd))

end Dictionary

end Typeahead
