import Typeahead.Proofs.Dictionary
import Typeahead.Proofs.Lexicon.Reading

/-! # Spellings of a word

Texts with one normal form are spellings of the same word. A dictionary that is asked about normal
forms answers about a text what the dictionary behind it answers about the normal form
(`answersAs_normalized`), so it tells no spellings apart; and spellings are all that it takes for the
same (`normalized_alike_iff`). -/

namespace Typeahead.Dictionary

variable {d e f : Dictionary} {u v w : Text}

/-- What one dictionary answers about `v` is what another one answers about `w`. -/
structure AnswersAs (d : Dictionary) (v : Text) (e : Dictionary) (w : Text) : Prop where
  suggestions : ∀ q : Query, d.suggestions { q with typed := v } = e.suggestions { q with typed := w }
  contains : d.contains v = e.contains w
  isValid : d.isValid v = e.isValid w
  frequency : d.frequency v = e.frequency w
  maxFrequency : d.maxFrequency v = e.maxFrequency w

theorem AnswersAs.symm (h : d.AnswersAs v e w) : e.AnswersAs w d v :=
  ⟨fun q => (h.suggestions q).symm, h.contains.symm, h.isValid.symm, h.frequency.symm,
    h.maxFrequency.symm⟩

theorem AnswersAs.trans (h : d.AnswersAs u e v) (h' : e.AnswersAs v f w) : d.AnswersAs u f w :=
  ⟨fun q => (h.suggestions q).trans (h'.suggestions q), h.contains.trans h'.contains,
    h.isValid.trans h'.isValid, h.frequency.trans h'.frequency,
    h.maxFrequency.trans h'.maxFrequency⟩

/-- **The dictionary behind** is asked about the normal form. -/
theorem answersAs_normalized (form : NormalForm) (d : Dictionary) (v : Text) :
    (d.normalized form).AnswersAs v d (form.apply v) where
  suggestions q := d.suggestions_normalized form { q with typed := v }
  contains := rfl
  isValid := rfl
  frequency := rfl
  maxFrequency := rfl

/-- Spellings of one word are answered alike. -/
theorem AnswersAs.of_apply_eq {form : NormalForm} (h : form.apply v = form.apply w)
    (d : Dictionary) : (d.normalized form).AnswersAs v (d.normalized form) w := by
  have hv := answersAs_normalized form d v
  rw [h] at hv
  exact hv.trans (answersAs_normalized form d w).symm

/-- A lexicon of one word contains no other. -/
theorem contains_single (locale : Locale) (u w : Text) (n : Nat) :
    (Draft.ofLines locale [.word u n]).build.contains w = true ↔ w = u := by
  rw [(Draft.reads_build _).contains]
  simp

/-- **What a dictionary of normal forms tells apart**: about a text it answers what the dictionary
behind it answers about the normal form. So all these dictionaries answer alike about two texts
exactly if these have the same normal form. -/
theorem normalized_alike_iff (form : NormalForm) (v w : Text) :
    (∀ d : Dictionary, (d.normalized form).AnswersAs v d (form.apply v)) ∧
      (form.apply v = form.apply w ↔
        ∀ d : Dictionary, (d.normalized form).AnswersAs v (d.normalized form) w) := by
  refine ⟨fun d => answersAs_normalized form d v, AnswersAs.of_apply_eq, fun h => ?_⟩
  -- asked of the lexicon that has the normal form of `v` as its only word
  have hcontains := (h (Draft.ofLines ⟨[]⟩ [.word (form.apply v) 0]).build.dictionary).contains
  have hv : (Draft.ofLines ⟨[]⟩ [.word (form.apply v) 0]).build.contains (form.apply v) = true :=
    (contains_single _ _ _ _).mpr rfl
  exact ((contains_single _ _ _ _).mp (hcontains.symm.trans hv)).symm

/-- A letter with an accent, in one character and in two. -/
theorem normalized_alike_iff_accent :
    let d := (Draft.ofLines ⟨"fr".toList⟩ [.word "né".toList 200]).build.dictionary
    d.contains "ne\u0301".toList = false ∧ (d.normalized .nfc).contains "ne\u0301".toList = true ∧
      (d.normalized .nfc).AnswersAs "ne\u0301".toList (d.normalized .nfc) "né".toList := by
  intro d
  have hspelled : NormalForm.nfc.apply "ne\u0301".toList = NormalForm.nfc.apply "né".toList := by
    decide +kernel
  have h := (normalized_alike_iff .nfc "ne\u0301".toList "né".toList).2.mp hspelled d
  exact ⟨by decide +kernel, h.contains.trans (by decide +kernel), h⟩

end Typeahead.Dictionary
