import Typeahead.Proofs.Strip.Gesture

/-! # Rejected gestures

A candidate that was rejected leads the strip again in two cases (`rejected_leads_iff`). Either the
next candidate shows the same word, so that the two change places and nothing else happens; or
another candidate stood first, so that nothing counts as rejected, and the context brings the
rejected word to the front. What the context prefers is said by `GestureCase.Prefers` without the
search that finds it. -/

namespace Typeahead

/-- A search among the elements up to the first that `q` does not accept. -/
theorem findIdx?_takeWhile_eq_some_iff {α : Type} {p q : α → Bool} {l : List α} {i : Nat} :
    (l.takeWhile q).findIdx? p = some i ↔ ∃ a, l[i]? = some a ∧ p a = true ∧
      (∀ b ∈ l.take i, p b = false) ∧ ∀ b ∈ l.take (i + 1), q b = true := by
  induction l generalizing i with
  | nil => simp
  | cons a l ih =>
    rcases hq : q a with _ | _
    · rw [List.takeWhile_cons_of_neg (by simp [hq])]
      refine iff_of_false (by simp) ?_
      rintro ⟨-, -, -, -, hall⟩
      exact Bool.false_ne_true (hq.symm.trans (hall a (by simp)))
    · rw [List.takeWhile_cons_of_pos hq, List.findIdx?_cons]
      rcases hp : p a with _ | _
      · cases i with
        | zero => simp [hp]
        | succ i =>
          rw [if_neg Bool.false_ne_true, Option.map_eq_some_iff]
          simp [ih, hp, hq]
      · cases i with
        | zero => simp [hp, hq]
        | succ i => simp [hp]

namespace GestureCase

variable {g : GestureCase} {c first second : Candidate} {rest : List Candidate} {w : Text}

/-- The context lets expect the word of a candidate, and it does not count as rejected. -/
structure Trusts (g : GestureCase) (c : Candidate) : Prop where
  kept : ∀ r, g.rejected = some r → r.word ≠ c.word
  expected : ∃ n ∈ g.nextWords.items, n.word = c.word ∧ trustedScore ≤ n.score

/-- **The context brings the word `w` to the front**: of the candidates that are nearly as good as
the best one, which is of a main dictionary and not alone, it is the first that is trusted. -/
def Prefers (g : GestureCase) (w : Text) : Prop :=
  ∃ best second rest i c, g.withTyped = best :: second :: rest ∧
    g.settings.usesPersonalized = true ∧ best.source.origin = .main ∧
    g.withTyped[i]? = some c ∧ c.word = w ∧ g.Trusts c ∧ (∀ d ∈ g.withTyped.take i, ¬ g.Trusts d) ∧
    ∀ d ∈ g.withTyped.take (i + 1), toDouble (best.score * preferenceRatio) ≤ d.score

/-! ### What the context prefers -/

theorem trusts_iff : g.Trusts c ↔ (!g.rejected.any (·.word == c.word) &&
    (g.nextWords.retain (trustedScore ≤ ·.score)).contains c.word) = true := by
  have hkept : (∀ r, g.rejected = some r → r.word ≠ c.word) ↔
      g.rejected.any (·.word == c.word) = false := by
    cases g.rejected <;> simp
  have hexpected : (∃ n ∈ g.nextWords.items, n.word = c.word ∧ trustedScore ≤ n.score) ↔
      (g.nextWords.retain (trustedScore ≤ ·.score)).contains c.word = true := by
    rw [Ranking.contains_eq_true]
    unfold Ranking.retain
    simp only [List.mem_filter, decide_eq_true_eq]
    exact exists_congr fun n => by tauto
  rw [Bool.and_eq_true, Bool.not_eq_true', ← hkept, ← hexpected]
  exact ⟨fun h => ⟨h.kept, h.expected⟩, fun h => ⟨h.1, h.2⟩⟩

theorem not_trusts_iff : ¬ g.Trusts c ↔ (!g.rejected.any (·.word == c.word) &&
    (g.nextWords.retain (trustedScore ≤ ·.score)).contains c.word) = false := by
  rw [trusts_iff, Bool.not_eq_true]

theorem preferredPlace_eq_some_iff {best : Candidate} {i : Nat} :
    g.preferredPlace best = some i ↔ ∃ c, g.withTyped[i]? = some c ∧ g.Trusts c ∧
      (∀ d ∈ g.withTyped.take i, ¬ g.Trusts d) ∧
      ∀ d ∈ g.withTyped.take (i + 1), toDouble (best.score * preferenceRatio) ≤ d.score := by
  unfold preferredPlace
  dsimp only
  rw [findIdx?_takeWhile_eq_some_iff]
  simp only [← trusts_iff, ← not_trusts_iff, Bool.not_eq_true', decide_eq_false_iff_not, not_lt]

theorem prefers_iff : g.Prefers w ↔ ∃ i c, g.promoted = some (i, c) ∧ c.word = w := by
  constructor
  · rintro ⟨best, second, rest, i, c, hcs, hpersonal, hmain, hc, hw, htrusts⟩
    refine ⟨i, c, ?_, hw⟩
    have hplace : g.preferredPlace best = some i := preferredPlace_eq_some_iff.mpr ⟨c, hc, htrusts⟩
    have hallowed : (g.settings.usesPersonalized && best.source.origin == .main) = true := by
      rw [hpersonal, hmain]
      rfl
    unfold promoted
    split
    · next best' second' rest' hcs' =>
      obtain ⟨rfl, -⟩ := List.cons_eq_cons.mp (hcs.symm.trans hcs')
      rw [if_pos hallowed, hplace, Option.bind_some, hc, Option.map_some]
    · next hshort => exact absurd hcs (hshort best second rest)
  · rintro ⟨i, c, h, hw⟩
    have hc := getElem?_of_promoted h
    unfold promoted at h
    split at h
    · next best second rest hcs =>
      split_ifs at h with hallowed
      obtain ⟨hpersonal, hmain⟩ := Bool.and_eq_true_iff.mp hallowed
      obtain ⟨j, hj, hmap⟩ := Option.bind_eq_some_iff.mp h
      obtain ⟨d, -, heq⟩ := Option.map_eq_some_iff.mp hmap
      obtain ⟨rfl, -⟩ := Prod.mk.inj heq
      obtain ⟨d, hd, htrusts⟩ := preferredPlace_eq_some_iff.mp hj
      obtain rfl := Option.some.inj (hd.symm.trans hc)
      exact ⟨best, second, rest, j, d, hcs, hpersonal, beq_iff_eq.mp hmain, hc, hw, htrusts⟩
    · exact nomatch h

/-! ### What leads the strip -/

theorem head?_words (g : GestureCase) : g.strip.words.head? =
    match g.promoted with
    | some (_, c) => some c
    | none => g.withTyped.head? := by
  show g.preferred.1.head? = _
  rw [preferred_eq]
  rcases g.promoted with _ | ⟨i, c⟩
  · rfl
  · rfl

/-- The word of the composer is put in behind the first candidate. -/
theorem head?_withTyped {cs : List Candidate} (h : g.cleaned = c :: cs) :
    g.withTyped.head? = some c := by
  by_cases hshown : g.ShowsTyped
  · rw [withTyped_of_shown hshown, h, List.length_cons, Nat.min_eq_right (Nat.le_add_left 1 _)]
    rfl
  · rw [withTyped_of_not_shown hshown, h]
    rfl

theorem head?_withTyped_of_moved {cs : List Candidate}
    (hfloor : ∀ c ∈ g.transformed, noiseFloor ≤ c.score) (h : g.moved = c :: cs) :
    g.withTyped.head? = some c := by
  have hcleaned : g.cleaned = c :: withoutWord c.word (firstOccurrences cs) := by
    rw [cleaned_eq hfloor, h, firstOccurrences]
  exact head?_withTyped hcleaned

theorem rejected_of_leads (hcs : g.transformed = first :: second :: rest)
    (hw : g.composer.rejected = some first.word) : g.rejected = some first := by
  unfold rejected
  rw [hw, hcs]
  exact if_pos (beq_self_eq_true first.word)

theorem rejected_of_ne (hcs : g.transformed = first :: second :: rest)
    (hw : g.composer.rejected = some w) (hne : first.word ≠ w) : g.rejected = none := by
  unfold rejected
  rw [hw, hcs]
  exact if_neg (by simpa using hne)

theorem head?_words_eq_iff (hfloor : ∀ c ∈ g.transformed, noiseFloor ≤ c.score)
    (hcs : g.transformed = first :: second :: rest) (hw : g.composer.rejected = some w) :
    g.strip.words.head?.map (·.word) = some w ↔
      (first.word = w ∧ second.word = w ∧ ∀ v, ¬ g.Prefers v) ∨ (first.word ≠ w ∧ g.Prefers w) := by
  rw [head?_words]
  by_cases hfirst : first.word = w
  · have hrejected := rejected_of_leads hcs (hw.trans (congrArg some hfirst.symm))
    have hhead := head?_withTyped_of_moved hfloor (moved_of_rejected hrejected hcs)
    rcases hpromoted : g.promoted with _ | ⟨i, c⟩
    · have hnone : ∀ v, ¬ g.Prefers v := fun v hv => by
        obtain ⟨i, c, hsome, -⟩ := prefers_iff.mp hv
        exact nomatch hpromoted.symm.trans hsome
      simp [hhead, hfirst, hnone]
    · have hprefers : g.Prefers c.word := prefers_iff.mpr ⟨i, c, hpromoted, rfl⟩
      obtain ⟨-, -, -, -, d, -, -, -, -, hd, htrusts, -⟩ := hprefers
      have hne : c.word ≠ w := fun heq =>
        htrusts.kept first hrejected (hfirst.trans (heq.symm.trans hd.symm))
      refine iff_of_false (fun heq => hne (Option.some.inj heq)) ?_
      rintro (⟨-, -, hnone⟩ | ⟨hother, -⟩)
      · exact hnone c.word (prefers_iff.mpr ⟨i, c, hpromoted, rfl⟩)
      · exact hother hfirst
  · have hrejected := rejected_of_ne hcs hw hfirst
    have hhead := head?_withTyped_of_moved hfloor ((moved_of_not_rejected hrejected).trans hcs)
    rcases hpromoted : g.promoted with _ | ⟨i, c⟩
    · have hnone : ¬ g.Prefers w := fun hv => by
        obtain ⟨i, c, hsome, -⟩ := prefers_iff.mp hv
        exact nomatch hpromoted.symm.trans hsome
      simp [hhead, hfirst, hnone]
    · have hprefers : g.Prefers w ↔ c.word = w := by
        rw [prefers_iff, hpromoted]
        simp
      simp [hfirst, hprefers]

/-- **When a rejected word is offered first again** although there is another one: it stands twice
in front and the context brings no candidate to the front, or another word stands in front and the
context brings the rejected one there. -/
theorem rejected_leads_iff (hw : g.composer.rejected = some w)
    (hfloor : ∀ c ∈ g.transformed, noiseFloor ≤ c.score)
    (hdistinct : ∃ c ∈ g.transformed, ∃ d ∈ g.transformed, c.word ≠ d.word) :
    g.strip.words.head?.map (·.word) = some w ↔
      ((g.transformed.take 2).map (·.word) = [w, w] ∧ ∀ v, ¬ g.Prefers v) ∨
        (g.transformed.head?.map (·.word) ≠ some w ∧ g.Prefers w) := by
  obtain ⟨first, second, rest, hcs⟩ :
      ∃ first second rest, g.transformed = first :: second :: rest := by
    obtain ⟨c, hc, d, hd, hne⟩ := hdistinct
    rcases hcs : g.transformed with _ | ⟨first, _ | ⟨second, rest⟩⟩
    · rw [hcs] at hc
      exact absurd hc List.not_mem_nil
    · rw [hcs, List.mem_singleton] at hc hd
      exact absurd (congrArg Candidate.word (hc.trans hd.symm)) hne
    · exact ⟨first, second, rest, rfl⟩
  rw [head?_words_eq_iff hfloor hcs hw, hcs]
  simp [and_assoc]

/-- A gesture whose best two candidates show the same word, which was rejected before. -/
theorem rejected_leads_iff_alike :
    let d : Draft := { locale := ⟨"en".toList⟩ }
    let l := (((d.addWord "help".toList 210).addWord "Help".toList 205).addWord "hello".toList
      200).build
    let e : Engine := { Engine.start (.memory []) {} default with
      groups := [{ number := 0, locale := ⟨"en".toList⟩, main := some l.dictionary }] }
    let composer := { Composer.setBatchWord {} "helo".toList with rejected := some "Help".toList }
    let g := e.gestureCase
      { composer, context := .empty 3, caps := .manualShifted, settings := {}, style := .tailBatch }
    g.composer.rejected = some "Help".toList ∧ (∀ c ∈ g.transformed, noiseFloor ≤ c.score) ∧
      (∃ c ∈ g.transformed, ∃ d ∈ g.transformed, c.word ≠ d.word) ∧
      (g.strip.words.head?.map (·.word) = some "Help".toList ↔
        ((g.transformed.take 2).map (·.word) = ["Help".toList, "Help".toList] ∧
          ∀ v, ¬ g.Prefers v) ∨
        (g.transformed.head?.map (·.word) ≠ some "Help".toList ∧ g.Prefers "Help".toList)) := by
  intro d l e composer g
  have hfloor : ∀ c ∈ g.transformed, noiseFloor ≤ c.score := by decide +kernel
  have hdistinct : ∃ c ∈ g.transformed, ∃ d ∈ g.transformed, c.word ≠ d.word := by decide +kernel
  exact ⟨rfl, hfloor, hdistinct, rejected_leads_iff rfl hfloor hdistinct⟩

/-- **A rejected word is offered first again**: shown with a capital, it has changed places with a
candidate of the same word; or the context lets expect it, and another candidate stood first. -/
theorem rejected_word_leads_again :
    let d : Draft := { locale := ⟨"en".toList⟩ }
    let alike := (((d.addWord "help".toList 210).addWord "Help".toList 205).addWord "hello".toList
      200).build
    let foretelling := (((d.addWord "help".toList 210).addWord "hello".toList 200).addPair
      "please".toList "hello".toList 200).build
    let e (l : Lexicon) : Engine := { Engine.start (.memory []) {} default with
      groups := [{ number := 0, locale := ⟨"en".toList⟩, main := some l.dictionary }] }
    let r (w : Text) (context : Context) (caps : CapsMode) : SuggestRequest :=
      { composer := { Composer.setBatchWord {} "helo".toList with rejected := some w }, context,
        caps, settings := {}, style := .tailBatch }
    let g := (e alike).gestureCase (r "Help".toList (.empty 3) .manualShifted)
    let g' := (e foretelling).gestureCase
      (r "hello".toList ((Context.empty 3).next (.word "please".toList)) .off)
    g.composer.rejected = some "Help".toList ∧ (∀ c ∈ g.transformed, noiseFloor ≤ c.score) ∧
      (∃ c ∈ g.transformed, ∃ d ∈ g.transformed, c.word ≠ d.word) ∧
      g.strip.words.map (·.word) = ["Help".toList, "Helo".toList, "Hello".toList] ∧
      g'.composer.rejected = some "hello".toList ∧ (∀ c ∈ g'.transformed, noiseFloor ≤ c.score) ∧
      (∃ c ∈ g'.transformed, ∃ d ∈ g'.transformed, c.word ≠ d.word) ∧
      g'.strip.words.map (·.word) = ["hello".toList, "help".toList] := by
  decide +kernel

end GestureCase

end Typeahead
