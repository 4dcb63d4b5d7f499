import Typeahead.Engine.Suggest
import Typeahead.Lexicon.Draft
import Typeahead.Proofs.Candidate.Repeats
import Typeahead.Proofs.Number.Rounding
import Typeahead.Proofs.Ranking.Borrowing

/-! # The strip of a gesture

The candidates of a gesture are rearranged five times on the way to the strip. A single letter is
demoted, a rejected candidate steps back, repeated words go, the word of the composer is put in, and
one candidate may be brought to the front. Each of these is a permutation but for what goes and what
is put in (`demoteSingleLetter_perm`, `moved_perm`, `firstOf_firstOccurrences`, `withTyped_perm`,
`preferred_perm`), and none of them makes a candidate noise: a demoted letter keeps a score above
the floor, because rounding does not pass it (`noiseFloor_le_demoted`). So the words of the strip
are the words of the candidates as they are shown, each once, and the word of the composer, which
may stand there twice. `GestureCase.Shows` says so of one strip. -/

namespace Typeahead

variable {cs shown : List Candidate} {c : Candidate} {w : Text}

theorem insertAt_perm (i : Nat) (c : Candidate) (cs : List Candidate) :
    (insertAt i c cs).Perm (c :: cs) := by
  rw [insertAt]
  refine List.perm_middle.trans ?_
  rw [List.take_append_drop]

/-- Words are kept where only repeated ones go. -/
theorem FirstOf.mem_words_iff (h : FirstOf cs shown) :
    w ∈ shown.map (·.word) ↔ w ∈ cs.map (·.word) := by
  constructor
  · exact fun hw => (h.sublist.map _).subset hw
  · intro hw
    obtain ⟨c, hc, hcw⟩ := List.mem_map.mp hw
    have hsome : (cs.find? (·.word == w)).isSome :=
      List.find?_isSome.mpr ⟨c, hc, by simpa using hcw⟩
    obtain ⟨d, hd⟩ := Option.isSome_iff_exists.mp hsome
    obtain rfl : d.word = w := by simpa using List.find?_some hd
    exact List.mem_map_of_mem ((h.mem_iff d).mpr hd)

theorem ShownCase.word_transform_zero (s : ShownCase) (c : Candidate) :
    (s.transform 0 c).word = s.apply c.word := by
  show s.apply c.word ++ List.replicate (0 - _) '\'' = s.apply c.word
  rw [Nat.zero_sub, List.replicate_zero, List.append_nil]

namespace GestureCase

variable {g : GestureCase} {r : Ranking}

/-! ### The demoted letter -/

/-- The candidate with the score that it keeps when it is demoted. -/
def demoted (c : Candidate) : Candidate :=
  { c with score := truncate (toDouble (c.score * demotion)) }

theorem abs_mul_demotion_le (x : Rat) : |x * demotion| ≤ |x| := by
  have hlow : 0 ≤ demotion := by decide +kernel
  have hhigh : demotion ≤ 1 := by decide +kernel
  rw [abs_mul, abs_of_nonneg hlow]
  exact mul_le_of_le_one_right (abs_nonneg x) hhigh

/-- **A demoted candidate is no noise** if it was none before. -/
theorem noiseFloor_le_demoted (h : noiseFloor ≤ c.score) : noiseFloor ≤ (demoted c).score := by
  rcases le_or_gt 0 c.score with hpos | hneg
  · have hdemotion : 0 ≤ demotion := by decide +kernel
    have hproduct : 0 ≤ (c.score : Rat) * demotion := mul_nonneg (Int.cast_nonneg hpos) hdemotion
    have hscore := truncate_nonneg (BinaryFormat.double.round_nonneg hproduct)
    exact le_trans (by decide) hscore
  · have hscore : |(c.score : Rat)| ≤ (2000000000 : Nat) := by
      have hneg' : (c.score : Rat) ≤ 0 := by exact_mod_cast hneg.le
      have hfloor : -2000000000 ≤ (c.score : Rat) := by exact_mod_cast h
      rw [abs_of_nonpos hneg']
      exact neg_le.mp (by exact_mod_cast hfloor)
    have hround := BinaryFormat.double.abs_round_le (k := 52) (by decide) (by decide) (by decide)
      ((abs_mul_demotion_le c.score).trans hscore)
    have habs : ((demoted c).score).natAbs ≤ 2000000000 := natAbs_truncate_le hround
    unfold noiseFloor
    omega

/-- **What a demotion does**: nothing, or one candidate gives way to itself with a lower score. -/
theorem demoteSingleLetter_cases (h : r.Ordered) : demoteSingleLetter r = r ∨
    ∃ c ∈ r.items, (c :: (demoteSingleLetter r).items).Perm (demoted c :: r.items) := by
  unfold demoteSingleLetter
  split
  · next first second rest hitems =>
    split_ifs
    · have hfirst : first ∈ r.items := by rw [hitems]; exact List.mem_cons_self
      exact .inr ⟨first, hfirst, h.swap_perm_of_new hfirst (h.contains_remove hfirst)⟩
    · exact .inl rfl
  · exact .inl rfl

theorem demoteSingleLetter_perm (h : r.Ordered) :
    ((demoteSingleLetter r).items.map (·.word)).Perm (r.items.map (·.word)) := by
  rcases demoteSingleLetter_cases h with heq | ⟨c, -, hperm⟩
  · rw [heq]
  · have hwords := hperm.map (·.word)
    rw [List.map_cons, List.map_cons] at hwords
    exact List.Perm.cons_inv hwords

theorem noiseFloor_le_of_mem_demoteSingleLetter (h : r.Ordered)
    (hfloor : ∀ c ∈ r.items, noiseFloor ≤ c.score) :
    ∀ c ∈ (demoteSingleLetter r).items, noiseFloor ≤ c.score := by
  rcases demoteSingleLetter_cases h with heq | ⟨first, hfirst, hperm⟩
  · rwa [heq]
  · intro c hc
    rcases List.mem_cons.mp (hperm.subset (List.mem_cons_of_mem first hc)) with rfl | hc
    · exact noiseFloor_le_demoted (hfloor first hfirst)
    · exact hfloor c hc

/-! ### The candidates as they are shown -/

/-- The case in which the candidates are shown. -/
def shownCase (g : GestureCase) : ShownCase :=
  .of (g.composer.isAllUpper || g.caps == .manualLocked)
    (g.composer.wasShifted || g.caps == .manualShifted)

theorem transformed_eq (g : GestureCase) :
    g.transformed = (demoteSingleLetter g.results).items.map (g.shownCase.transform 0) := rfl

theorem transformed_perm (h : g.results.Ordered) : (g.transformed.map (·.word)).Perm
    (g.results.items.map fun c => g.shownCase.apply c.word) := by
  have hwords : g.transformed.map (·.word) =
      ((demoteSingleLetter g.results).items.map (·.word)).map g.shownCase.apply := by
    rw [transformed_eq, List.map_map, List.map_map]
    exact List.map_congr_left fun c _ => ShownCase.word_transform_zero _ c
  rw [hwords]
  refine ((demoteSingleLetter_perm h).map _).trans ?_
  rw [List.map_map]
  exact List.Perm.refl _

theorem noiseFloor_le_of_mem_transformed (h : g.results.Ordered)
    (hfloor : ∀ c ∈ g.results.items, noiseFloor ≤ c.score) :
    ∀ c ∈ g.transformed, noiseFloor ≤ c.score := by
  intro c hc
  rw [transformed_eq] at hc
  obtain ⟨d, hd, rfl⟩ := List.mem_map.mp hc
  exact noiseFloor_le_of_mem_demoteSingleLetter h hfloor d hd

/-! ### The rejected candidate -/

/-- The candidates with a rejected one put behind the next. -/
def moved (g : GestureCase) : List Candidate :=
  match g.rejected, g.transformed with
  | some r, _ :: rest => insertAt 1 r rest
  | _, cs => cs

/-- What is rejected leads the candidates, and is not alone. -/
theorem exists_of_rejected (h : g.rejected = some c) :
    g.composer.rejected = some c.word ∧ ∃ second rest, g.transformed = c :: second :: rest := by
  unfold rejected at h
  split at h
  · next w first second rest hw hcs =>
    split_ifs at h with hfirst
    obtain rfl := Option.some.inj h
    exact ⟨hw.trans (congrArg some (beq_iff_eq.mp hfirst).symm), second, rest, hcs⟩
  · exact nomatch h

theorem moved_of_rejected (h : g.rejected = some c) {second : Candidate} {rest : List Candidate}
    (hcs : g.transformed = c :: second :: rest) : g.moved = second :: c :: rest := by
  unfold moved
  rw [h, hcs]
  rfl

theorem moved_of_not_rejected (h : g.rejected = none) : g.moved = g.transformed := by
  unfold moved
  rw [h]

theorem moved_perm (g : GestureCase) : g.moved.Perm g.transformed := by
  rcases h : g.rejected with _ | c
  · rw [moved_of_not_rejected h]
  · obtain ⟨-, second, rest, hcs⟩ := exists_of_rejected h
    rw [moved_of_rejected h hcs, hcs]
    exact List.Perm.swap c second rest

/-- Without noise, only what repeats goes. -/
theorem cleaned_eq (hfloor : ∀ c ∈ g.transformed, noiseFloor ≤ c.score) :
    g.cleaned = firstOccurrences g.moved := by
  have hcleaned : g.cleaned =
      (removeTypedAndRepeated none g.moved).2.filter (noiseFloor ≤ ·.score) := rfl
  rw [hcleaned, removeTypedAndRepeated_none]
  refine List.filter_eq_self.mpr fun c hc => decide_eq_true ?_
  exact hfloor c (g.moved_perm.subset ((firstOf_firstOccurrences g.moved).sublist.subset hc))

/-! ### The word of the composer -/

/-- The entry that shows the word of the composer. -/
def typedEntry (g : GestureCase) : Candidate := ⟨g.typed, [], 0, ⟨Kind.typed⟩, .userTyped⟩

/-- The word of the composer is put in. -/
def ShowsTyped (g : GestureCase) : Prop :=
  g.typed ≠ g.composer.word ∧ ∀ c ∈ g.cleaned.drop 1, c.word ≠ g.typed

theorem withTyped_of_shown (h : g.ShowsTyped) :
    g.withTyped = insertAt (min g.cleaned.length 1) g.typedEntry g.cleaned := by
  have hany : (g.cleaned.drop 1).any (·.word == g.typed) = false :=
    List.any_eq_false.mpr fun c hc => by simpa using h.2 c hc
  unfold withTyped
  dsimp only
  rw [bne_iff_ne.mpr h.1, hany]
  rfl

theorem withTyped_of_not_shown (h : ¬ g.ShowsTyped) : g.withTyped = g.cleaned := by
  unfold withTyped
  dsimp only
  rw [if_neg]
  intro hshown
  simp only [Bool.and_eq_true, bne_iff_ne, Bool.not_eq_true', List.any_eq_false, beq_iff_eq]
    at hshown
  exact h hshown

theorem withTyped_perm (h : g.ShowsTyped) : g.withTyped.Perm (g.typedEntry :: g.cleaned) := by
  rw [withTyped_of_shown h]
  exact insertAt_perm _ _ _

/-! ### The preferred candidate -/

/-- The candidate that is brought to the front, and its place. -/
def promoted (g : GestureCase) : Option (Nat × Candidate) :=
  match g.withTyped with
  | best :: _ :: _ =>
    if g.settings.usesPersonalized && best.source.origin == .main then
      (g.preferredPlace best).bind fun i => g.withTyped[i]?.map fun c => (i, c)
    else none
  | _ => none

theorem preferred_eq (g : GestureCase) : g.preferred =
    match g.promoted with
    | some (i, c) => (c :: g.withTyped.eraseIdx i, some c)
    | none => (g.withTyped, g.withTyped.head?) := by
  unfold preferred promoted
  dsimp only
  rcases g.withTyped with _ | ⟨best, _ | ⟨second, rest⟩⟩
  · rfl
  · rfl
  · dsimp only
    split_ifs
    · rfl
    · rfl

theorem getElem?_of_promoted {i : Nat} (h : g.promoted = some (i, c)) :
    g.withTyped[i]? = some c := by
  unfold promoted at h
  split at h
  · next best second rest hcs =>
    split_ifs at h
    obtain ⟨j, -, hj⟩ := Option.bind_eq_some_iff.mp h
    obtain ⟨d, hd, heq⟩ := Option.map_eq_some_iff.mp hj
    obtain ⟨rfl, rfl⟩ := Prod.mk.inj heq
    exact hd
  · exact nomatch h

theorem preferred_perm (g : GestureCase) : g.preferred.1.Perm g.withTyped := by
  rw [preferred_eq]
  split
  · next i c h =>
    obtain ⟨hi, rfl⟩ := List.getElem?_eq_some_iff.mp (getElem?_of_promoted h)
    exact List.getElem_cons_eraseIdx_perm hi
  · exact List.Perm.refl _

/-- What stands for the typed word is what leads the strip. -/
theorem snd_preferred (g : GestureCase) : g.preferred.2 = g.preferred.1.head? := by
  rw [preferred_eq]
  split
  · rfl
  · rfl

/-! ### What is shown -/

/-- **What a strip shows** for a gesture. -/
structure Shows (g : GestureCase) (s : Strip) : Prop where
  noCorrection : s.corrects = false
  leads : s.typedInfo = s.words.head?
  mem_iff : ∀ w, w ∈ s.words.map (·.word) ↔
    w ∈ g.results.items.map (fun c => g.shownCase.apply c.word) ∨
      g.typed ≠ g.composer.word ∧ w = g.typed
  count_le : ∀ w, (s.words.map (·.word)).count w ≤
    if g.typed ≠ g.composer.word ∧ w = g.typed then 2 else 1

theorem mem_words_cleaned_iff (h : g.results.Ordered)
    (hfloor : ∀ c ∈ g.results.items, noiseFloor ≤ c.score) : w ∈ g.cleaned.map (·.word) ↔
      w ∈ g.results.items.map fun c => g.shownCase.apply c.word := by
  rw [cleaned_eq (noiseFloor_le_of_mem_transformed h hfloor),
    (firstOf_firstOccurrences g.moved).mem_words_iff, (g.moved_perm.map _).mem_iff,
    (transformed_perm h).mem_iff]

theorem nodup_words_cleaned (g : GestureCase) : (g.cleaned.map (·.word)).Nodup := by
  have hcleaned : g.cleaned =
      (removeTypedAndRepeated none g.moved).2.filter (noiseFloor ≤ ·.score) := rfl
  rw [hcleaned, removeTypedAndRepeated_none]
  exact (firstOf_firstOccurrences g.moved).nodup.sublist (List.filter_sublist.map _)

/-- Where the word of the composer differs as it is shown, it is among the words. -/
theorem typed_mem_words (htyped : g.typed ≠ g.composer.word) :
    g.typed ∈ g.withTyped.map (·.word) := by
  by_cases hshown : g.ShowsTyped
  · rw [((withTyped_perm hshown).map _).mem_iff]
    exact List.mem_cons_self
  · rw [withTyped_of_not_shown hshown]
    simp only [ShowsTyped, not_and, not_forall, not_not] at hshown
    obtain ⟨c, hc, hword⟩ := hshown htyped
    exact List.mem_map.mpr ⟨c, List.mem_of_mem_drop hc, hword⟩

/-- No word stands twice among the words but the composer's, where it differs as it is shown. -/
theorem count_words_withTyped_le (g : GestureCase) (w : Text) : (g.withTyped.map (·.word)).count w ≤
    if g.typed ≠ g.composer.word ∧ w = g.typed then 2 else 1 := by
  have honce : (g.cleaned.map (·.word)).count w ≤ 1 :=
    List.nodup_iff_count_le_one.mp g.nodup_words_cleaned w
  by_cases hshown : g.ShowsTyped
  · rw [((withTyped_perm hshown).map _).count_eq]
    show (g.typed :: g.cleaned.map (·.word)).count w ≤ _
    by_cases hw : w = g.typed
    · rw [if_pos ⟨hshown.1, hw⟩, ← hw, List.count_cons_self]
      exact Nat.add_le_add_right honce 1
    · rw [if_neg (not_and_of_not_right _ hw), List.count_cons_of_ne (Ne.symm hw)]
      exact honce
  · rw [withTyped_of_not_shown hshown]
    refine honce.trans ?_
    split_ifs
    · exact Nat.le_succ 1
    · exact le_refl 1

theorem shows_strip (h : g.results.Ordered)
    (hfloor : ∀ c ∈ g.results.items, noiseFloor ≤ c.score) : g.Shows g.strip where
  noCorrection := rfl
  leads := g.snd_preferred
  mem_iff w := by
    show w ∈ g.preferred.1.map (·.word) ↔ _
    rw [(g.preferred_perm.map _).mem_iff, ← mem_words_cleaned_iff h hfloor]
    by_cases hshown : g.ShowsTyped
    · rw [((withTyped_perm hshown).map _).mem_iff, List.map_cons, List.mem_cons, or_comm]
      exact or_congr_right (and_iff_right hshown.1).symm
    · rw [withTyped_of_not_shown hshown]
      refine (or_iff_left_of_imp ?_).symm
      rintro ⟨htyped, rfl⟩
      exact withTyped_of_not_shown hshown ▸ typed_mem_words htyped
  count_le w := by
    show (g.preferred.1.map (·.word)).count w ≤ _
    rw [(g.preferred_perm.map _).count_eq]
    exact g.count_words_withTyped_le w

end GestureCase

namespace Engine

/-- **Every strip for a gesture** shows what it should, whatever the candidates without noise, the
composer, the keyboard and the settings. -/
theorem shows_gesture (e : Engine) (r : SuggestRequest) (hr : r.composer.batch = true)
    (hfloor : ∀ c ∈ (e.candidates r.lookup).items, GestureCase.noiseFloor ≤ c.score) :
    (e.gestureCase r).Shows (e.suggest r).1 := by
  have hstrip : (e.suggest r).1 = (e.gestureCase r).strip := by
    rw [suggest, strip, hr]
    rfl
  rw [hstrip]
  exact GestureCase.shows_strip (Ranking.ordered_mergedRanking e.groups r.lookup) hfloor

/-- A shifted gesture whose best candidate was rejected before. -/
theorem shows_gesture_rejected :
    let d : Draft := { locale := ⟨"en".toList⟩ }
    let l := ((d.addWord "help".toList 210).addWord "hello".toList 200).build
    let e : Engine := { start (.memory []) {} default with
      groups := [{ number := 0, locale := ⟨"en".toList⟩, main := some l.dictionary }] }
    let composer := { Composer.setBatchWord {} "helo".toList with rejected := some "Help".toList }
    let r : SuggestRequest :=
      { composer, context := .empty 3, caps := .manualShifted, settings := {}, style := .tailBatch }
    r.composer.batch = true ∧
      (∀ c ∈ (e.candidates r.lookup).items, GestureCase.noiseFloor ≤ c.score) ∧
      (e.gestureCase r).Shows (e.suggest r).1 ∧
      (e.suggest r).1.words.map (·.word) = ["Hello".toList, "Helo".toList, "Help".toList] := by
  intro d l e composer r
  have hfloor : ∀ c ∈ (e.candidates r.lookup).items, GestureCase.noiseFloor ≤ c.score := by
    decide +kernel
  exact ⟨rfl, hfloor, shows_gesture e r rfl hfloor, by decide +kernel⟩

end Engine

end Typeahead
