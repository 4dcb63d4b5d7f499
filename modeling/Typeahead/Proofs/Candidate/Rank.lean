import Typeahead.Candidate

/-! # The order of candidates

`Candidate.rank` compares four keys one after another. It is a transitive comparison, and two
candidates tie only if they are of one word; hence candidates of different words are strictly
ordered by `Precedes`. -/

namespace Typeahead.Candidate

/-- **Precedence**: `a` has a better rank than `b`. -/
def Precedes (a b : Candidate) : Prop := a.rank b = .lt

instance (a b : Candidate) : Decidable (a.Precedes b) := by
  unfold Precedes; infer_instance

/-- The rank with its keys as comparisons. -/
theorem rank_eq_compareLex :
    rank = compareLex (fun a b => compareOn Candidate.score b a)
      (compareLex (compareOn fun c => c.source.origin.priority)
        (compareLex (compareOn fun c => c.word.length) (compareOn Candidate.word))) := rfl

instance : Std.TransCmp rank := by
  have : Std.TransCmp fun a b : Candidate => compareOn Candidate.score b a :=
    Std.TransCmp.opposite
  rw [rank_eq_compareLex]
  infer_instance

/-- Candidates that tie are of one word. -/
theorem word_eq_of_rank_eq {a b : Candidate} (h : a.rank b = .eq) : a.word = b.word := by
  simp only [rank, Ordering.then_eq_eq, Std.LawfulEqOrd.compare_eq_iff_eq] at h
  exact h.2.2.2

namespace Precedes

variable {a b c : Candidate}

theorem trans (hab : a.Precedes b) (hbc : b.Precedes c) : a.Precedes c :=
  Std.TransCmp.lt_trans hab hbc

theorem irrefl (a : Candidate) : ¬ a.Precedes a := by
  simp [Precedes, Std.ReflCmp.compare_self]

theorem asymm (hab : a.Precedes b) : ¬ b.Precedes a := fun hba => irrefl a (hab.trans hba)

/-- Of two candidates of different words one precedes the other. -/
theorem total (h : a.word ≠ b.word) : a.Precedes b ∨ b.Precedes a := by
  rcases hr : a.rank b with _ | _ | _
  · exact Or.inl hr
  · exact absurd (word_eq_of_rank_eq hr) h
  · exact Or.inr (Std.OrientedCmp.lt_of_gt hr)

end Precedes

theorem rank_eq_gt_iff {a b : Candidate} : a.rank b = .gt ↔ b.Precedes a :=
  Std.OrientedCmp.gt_iff_lt

/-- The order of the ranks as a total preorder, by which lists can be sorted. -/
def comesFirst (a b : Candidate) : Bool := (a.rank b).isLE

theorem comesFirst_trans (a b c : Candidate) (hab : a.comesFirst b = true)
    (hbc : b.comesFirst c = true) : a.comesFirst c = true :=
  Std.TransCmp.isLE_trans hab hbc

theorem comesFirst_total (a b : Candidate) : (a.comesFirst b || b.comesFirst a) = true := by
  unfold comesFirst
  have hs : b.rank a = (a.rank b).swap := Std.OrientedCmp.eq_swap
  rw [hs]
  cases a.rank b <;> rfl

/-- Of candidates of different words, the one that comes first precedes the other. -/
theorem precedes_of_comesFirst {a b : Candidate} (h : a.comesFirst b = true)
    (hne : a.word ≠ b.word) : a.Precedes b := by
  rcases hr : a.rank b with _ | _ | _
  · exact hr
  · exact absurd (word_eq_of_rank_eq hr) hne
  · simp [comesFirst, hr] at h

end Typeahead.Candidate
