import Mathlib.Tactic.SplitIfs
import Typeahead.Scoring

/-! # Scores by likeness

A word answers what was typed in one of five ways, whatever its frequency is: `likeness?` says in
which one. Its score is that of the likeness at the frequency (`score?_eq`), so that a fact about
scores is a fact about the five ways. Three of them are close, and their scores differ by a fixed
step; the others, completions and corrections, stay far below (`score_of_close`, `score_le_of_far`).
So scores are within bounds, and of two words of one frequency the closer one scores higher
(`Likeness.score_lt`). -/

namespace Typeahead.Scoring

/-- What the frequency adds to a score. -/
def weight (f : Nat) : Nat := f * frequencyUnit

theorem weight_le {f : Nat} (h : f ≤ 255) : weight f ≤ 1020000 := Nat.mul_le_mul_right _ h

theorem weight_mono {f g : Nat} (h : f ≤ g) : weight f ≤ weight g := Nat.mul_le_mul_right _ h

/-- How a word answers what was typed: it is the same, it has another case or other accents, it is
longer by `rest` characters than the `part` that was typed, or it is `d` slips away. -/
inductive Likeness where
  | exact
  | otherCase
  | otherAccents
  | longer (part rest : Nat)
  | slips (d : Nat)
  deriving DecidableEq, Repr

namespace Likeness

variable {f g : Nat} {l m : Likeness}

/-- The score at the frequency `f`. -/
def score (f : Nat) : Likeness → Int
  | exact => exactBase + weight f
  | otherCase => exactBase + weight f - casePenalty
  | otherAccents => exactBase + weight f - accentPenalty
  | longer part rest => (weight f * part / max (part + rest) 1 : Nat)
  | slips d => ((correctionBase + weight f) / Nat.pow 2 (d - 1) : Nat)

/-- The kind and the flags of a match. -/
def kind : Likeness → Kind
  | exact => appropriate.set Kind.exactFlag
  | otherCase => appropriate
  | otherAccents => appropriate.set Kind.accentsFlag
  | longer _ _ => ⟨Kind.completion⟩
  | slips _ => appropriate

/-- The match at the frequency `f`. -/
def rated (f : Nat) (l : Likeness) : Match := ⟨l.score f, l.kind⟩

/-- The degree of a likeness, zero for completions and corrections. -/
def closeness : Likeness → Nat
  | exact => 3
  | otherCase => 2
  | otherAccents => 1
  | longer _ _ => 0
  | slips _ => 0

/-! ### Close and far -/

/-- **A close word** gains the same by every degree. -/
theorem score_of_close (f : Nat) (h : 0 < l.closeness) :
    l.score f = 985000 + 5000 * l.closeness + weight f := by
  cases l with
  | exact | otherCase | otherAccents =>
    simp only [score, closeness, exactBase, casePenalty, accentPenalty]
    omega
  | longer | slips => exact absurd h (Nat.lt_irrefl 0)

theorem score_longer_le (f part rest : Nat) : (longer part rest).score f ≤ weight f := by
  have hpart : part * weight f ≤ max (part + rest) 1 * weight f :=
    Nat.mul_le_mul_right _ (by omega)
  refine Int.ofNat_le.mpr (Nat.div_le_of_le_mul ?_)
  rwa [Nat.mul_comm (weight f)]

theorem score_slips_le (f d : Nat) : (slips d).score f ≤ correctionBase + weight f :=
  Int.ofNat_le.mpr (Nat.div_le_self _ _)

/-- **A word that is not close** stays below all that are. -/
theorem score_le_of_far (f : Nat) (h : l.closeness = 0) : l.score f ≤ 600000 + weight f := by
  cases l with
  | exact | otherCase | otherAccents => exact absurd h (by decide)
  | longer part rest =>
    have hle := score_longer_le f part rest
    omega
  | slips d => exact score_slips_le f d

theorem closeness_le (l : Likeness) : l.closeness ≤ 3 := by
  cases l with
  | exact | otherCase | otherAccents => decide
  | longer | slips => exact Nat.zero_le 3

/-! ### Bounds -/

theorem score_le (h : f ≤ 255) (l : Likeness) : l.score f ≤ 2020000 := by
  have hweight := weight_le h
  have hdegree := l.closeness_le
  rcases Nat.eq_zero_or_pos l.closeness with hfar | hclose
  · have hle := score_le_of_far f hfar
    omega
  · rw [score_of_close f hclose]
    omega

theorem score_nonneg (f : Nat) (l : Likeness) : 0 ≤ l.score f := by
  rcases Nat.eq_zero_or_pos l.closeness with hfar | hclose
  · cases l with
    | exact | otherCase | otherAccents => exact absurd hfar (by decide)
    | longer | slips => exact Int.natCast_nonneg _
  · rw [score_of_close f hclose]
    omega

/-- **Scores grow** with the frequency. -/
theorem score_mono (h : f ≤ g) (l : Likeness) : l.score f ≤ l.score g := by
  have hweight := weight_mono h
  cases l with
  | exact | otherCase | otherAccents =>
    simp only [score]
    omega
  | longer part rest =>
    exact Int.ofNat_le.mpr (Nat.div_le_div_right (Nat.mul_le_mul_right part hweight))
  | slips d => exact Int.ofNat_le.mpr (Nat.div_le_div_right (Nat.add_le_add_left hweight _))

/-- **The closer word scores higher.** -/
theorem score_lt (f : Nat) (h : m.closeness < l.closeness) : m.score f < l.score f := by
  rw [score_of_close f (Nat.zero_lt_of_lt h)]
  rcases Nat.eq_zero_or_pos m.closeness with hfar | hclose
  · have hle := score_le_of_far f hfar
    omega
  · rw [score_of_close f hclose]
    omega

end Likeness

/-! ### The likeness of a word -/

variable {typed word : Text} {l : Likeness}

/-- How `word` answers `typed`; `none` if it is too far from it. -/
def likeness? (typed word : Text) : Option Likeness :=
  if typed.isEmpty || word.isEmpty then none
  else if word = typed then some .exact
  else
    let t := Text.lower typed
    let w := Text.lower word
    if w = t then some .otherCase
    else if Text.stripAccents w = Text.stripAccents t then some .otherAccents
    else if t.isPrefixOf w then some (.longer t.length (w.length - t.length))
    else
      let d := typingDistance t w
      if d = 0 || reach t.length < d then none else some (.slips d)

/-- **A score** is that of the likeness at the frequency. -/
theorem score?_eq (typed word : Text) (f : Nat) :
    score? typed word f = (likeness? typed word).map (·.rated f) := by
  simp only [score?, likeness?]
  split_ifs with hempty hexact hcase haccents hprefix hd
  · rfl
  · rfl
  · rfl
  · rfl
  · have hlength := (List.isPrefixOf_iff_prefix.mp hprefix).length_le
    show some _ = some (Likeness.rated f (.longer _ _))
    rw [Likeness.rated, Likeness.score, Nat.add_sub_cancel' hlength]
    rfl
  · rfl
  · rfl

/-- How close a word is to what was typed: the same, the same but for case, the same but for
accents, or none of these. -/
def closeness (typed word : Text) : Nat :=
  if word = typed then 3
  else if Text.lower word = Text.lower typed then 2
  else if Text.stripAccents (Text.lower word) = Text.stripAccents (Text.lower typed) then 1
  else 0

theorem closeness_eq (h : likeness? typed word = some l) :
    closeness typed word = l.closeness := by
  simp only [likeness?] at h
  unfold closeness
  split_ifs at h ⊢
  all_goals
    rw [← Option.some.inj h]
    rfl

end Typeahead.Scoring
