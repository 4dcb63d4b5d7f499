import Mathlib.Algebra.Order.Ring.Rat
import Mathlib.Data.List.Nodup
import Mathlib.Tactic.IntervalCases
import Mathlib.Tactic.Linarith
import Typeahead.Group

/-! # Weights by confidence

Among two groups or more the weight of a group depends on its *grade* alone (`Weighing.weight_eq`):
its confidence below `Group.confident`, and from there on whether another group is at least as
confident. The grade rises with the group's own confidence and falls with that of the others
(`grade_le_grade`), across the place where the rule changes too, and the highest grade is that of a
group that is more confident than every other (`grade_eq_three_iff`).

A `Weighing` gives each grade its weight. The weights of the library are singles, `Weighing.single`;
the same rule in exact numbers is `Weighing.exact`. Both grow strictly with the grade
(`Weighing.Graded`), so that what holds of grades holds of both (`Weighing.Graded.rises`). -/

namespace Typeahead

namespace Group

variable {g h : Group} {gs : List Group}

/-! ### Groups with other confidences -/

/-- The group with another confidence. -/
def withConfidence (g : Group) (c : Nat) : Group := { g with confidence := c }

/-- The groups with `g` in place of the one of its number. -/
def putIn (g : Group) (gs : List Group) : List Group :=
  gs.map fun h => if h.number = g.number then g else h

theorem mem_putIn_iff : h ∈ g.putIn gs ↔
    h = g ∧ (∃ k ∈ gs, k.number = g.number) ∨ h ∈ gs ∧ h.number ≠ g.number := by
  unfold putIn
  rw [List.mem_map]
  constructor
  · rintro ⟨k, hk, hkh⟩
    split_ifs at hkh with hn
    · exact .inl ⟨hkh.symm, k, hk, hn⟩
    · rw [← hkh]
      exact .inr ⟨hk, hn⟩
  · rintro (⟨rfl, k, hk, hn⟩ | ⟨hh, hn⟩)
    · exact ⟨k, hk, if_pos hn⟩
    · exact ⟨h, hh, if_neg hn⟩

/-- Distinct groups are told apart by their numbers. -/
theorem number_ne_iff (hdistinct : (gs.map (·.number)).Nodup) (hg : g ∈ gs) (hh : h ∈ gs) :
    h.number ≠ g.number ↔ h ≠ g :=
  not_congr ⟨List.inj_on_of_nodup_map hdistinct hh hg, congrArg Group.number⟩

theorem length_putIn (g : Group) (gs : List Group) : (g.putIn gs).length = gs.length :=
  List.length_map _

theorem isContested_iff : g.isContested gs = true ↔
    ∃ h ∈ gs, h.number ≠ g.number ∧ g.confidence ≤ h.confidence := by
  unfold isContested
  simp only [List.any_eq_true, Bool.and_eq_true, bne_iff_ne, decide_eq_true_iff]

/-- Which groups contest the group that was put in place of another one. -/
theorem isContested_putIn_self_iff : g.isContested (g.putIn gs) = true ↔
    ∃ h ∈ gs, h.number ≠ g.number ∧ g.confidence ≤ h.confidence := by
  simp only [isContested_iff, mem_putIn_iff]
  constructor
  · rintro ⟨h, ⟨rfl, -⟩ | ⟨hh, -⟩, hn, hle⟩
    · exact absurd rfl hn
    · exact ⟨h, hh, hn, hle⟩
  · rintro ⟨h, hh, hn, hle⟩
    exact ⟨h, .inr ⟨hh, hn⟩, hn, hle⟩

/-- Which groups contest another group after that. -/
theorem isContested_putIn_iff (hg : ∃ k ∈ gs, k.number = g.number) (hn : h.number ≠ g.number) :
    h.isContested (g.putIn gs) = true ↔ h.confidence ≤ g.confidence ∨
      ∃ k ∈ gs, k.number ≠ g.number ∧ k.number ≠ h.number ∧ h.confidence ≤ k.confidence := by
  simp only [isContested_iff, mem_putIn_iff]
  constructor
  · rintro ⟨k, ⟨rfl, -⟩ | ⟨hk, hkg⟩, hkh, hle⟩
    · exact .inl hle
    · exact .inr ⟨k, hk, hkg, hkh, hle⟩
  · rintro (hle | ⟨k, hk, hkg, hkh, hle⟩)
    · exact ⟨g, .inl ⟨rfl, hg⟩, hn.symm, hle⟩
    · exact ⟨k, .inr ⟨hk, hkg⟩, hkh, hle⟩

/-! ### Grades -/

/-- How far a group has come among others. -/
def grade (g : Group) (gs : List Group) : Nat :=
  if g.confidence < confident then g.confidence
  else if g.isContested gs then 2
  else 3

theorem grade_of_lt (h : g.confidence < confident) : g.grade gs = g.confidence := if_pos h

theorem grade_of_le (h : confident ≤ g.confidence) :
    g.grade gs = if g.isContested gs then 2 else 3 := if_neg (Nat.not_lt.mpr h)

/-- Confident groups have one grade if both are contested or neither is. -/
theorem grade_eq_grade_iff {g' : Group} {gs' : List Group} (h : confident ≤ g.confidence)
    (h' : confident ≤ g'.confidence) : g'.grade gs' = g.grade gs ↔
      (g'.isContested gs' = true ↔ g.isContested gs = true) := by
  rw [grade_of_le h, grade_of_le h']
  split_ifs with hc' hc hc <;> simp [hc, hc']

theorem grade_le_three : g.grade gs ≤ 3 := by
  unfold grade confident
  split_ifs <;> omega

/-- **The grade rises** with the confidence, as long as no group comes to contest that did not
before. -/
theorem grade_le_grade {g' : Group} {gs' : List Group} (hle : g.confidence ≤ g'.confidence)
    (hcontested : confident ≤ g.confidence → g'.isContested gs' = true →
      g.isContested gs = true) : g.grade gs ≤ g'.grade gs' := by
  by_cases hlow : g.confidence < confident
  · rw [grade_of_lt hlow]
    unfold grade
    unfold confident at hlow ⊢
    split_ifs <;> omega
  · have hhigh := Nat.not_lt.mp hlow
    rw [grade_of_le hhigh, grade_of_le (hhigh.trans hle)]
    by_cases hc : g'.isContested gs' = true
    · rw [if_pos hc, if_pos (hcontested hhigh hc)]
    · rw [if_neg hc]
      split_ifs <;> omega

theorem grade_eq_three_iff : g.grade gs = 3 ↔ confident ≤ g.confidence ∧
    ∀ h ∈ gs, h.number ≠ g.number → h.confidence < g.confidence := by
  by_cases hlow : g.confidence < confident
  · rw [grade_of_lt hlow]
    unfold confident at hlow ⊢
    omega
  · have hhigh := Nat.not_lt.mp hlow
    rw [grade_of_le hhigh]
    have hfree : g.isContested gs = false ↔
        ∀ h ∈ gs, h.number ≠ g.number → h.confidence < g.confidence := by
      rw [← Bool.not_eq_true, isContested_iff]
      push Not
      rfl
    rw [← hfree]
    by_cases hc : g.isContested gs = true
    · simp [hc]
    · simp [hc, hhigh]

/-- **A group's own confidence** raises its grade. -/
theorem grade_le_putIn_self {c : Nat} (hle : g.confidence ≤ c) :
    g.grade gs ≤ (g.withConfidence c).grade ((g.withConfidence c).putIn gs) := by
  refine grade_le_grade hle fun _ hc => ?_
  obtain ⟨h, hh, hn, hconf⟩ := isContested_putIn_self_iff.mp hc
  exact isContested_iff.mpr ⟨h, hh, hn, hle.trans hconf⟩

/-- **The confidence of another group** lowers it. -/
theorem grade_putIn_le {c : Nat} (hdistinct : (gs.map (·.number)).Nodup) (hh : h ∈ gs)
    (hn : h.number ≠ g.number) (hle : h.confidence ≤ c) :
    g.grade ((h.withConfidence c).putIn gs) ≤ g.grade gs := by
  refine grade_le_grade (Nat.le_refl _) fun _ hc => ?_
  obtain ⟨k, hk, hkn, hkc⟩ := isContested_iff.mp hc
  refine (isContested_putIn_iff (g := h.withConfidence c) ⟨h, hh, rfl⟩ hn.symm).mpr ?_
  by_cases hkh : k.number = h.number
  · obtain rfl : k = h := List.inj_on_of_nodup_map hdistinct hk hh hkh
    exact .inl (hkc.trans hle)
  · exact .inr ⟨k, hk, hkh, hkn, hkc⟩

/-- At most one group has the highest grade. -/
theorem eq_of_grade_eq_three (hdistinct : (gs.map (·.number)).Nodup) (hg : g ∈ gs) (hh : h ∈ gs)
    (hgrade : g.grade gs = 3) (hgrade' : h.grade gs = 3) : g = h := by
  by_contra hne
  have hn : g.number ≠ h.number := (number_ne_iff hdistinct hh hg).mpr hne
  have hlt := (grade_eq_three_iff.mp hgrade).2 h hh hn.symm
  have hlt' := (grade_eq_three_iff.mp hgrade').2 g hg hn
  omega

/-! ### Weighings -/

/-- How confidence is turned into weight: what a missing step takes off, and how numbers are
rounded. -/
structure Weighing where
  step : Rat
  round : Rat → Rat

namespace Weighing

/-- The weight of a group among others. -/
def weight (w : Weighing) (gs : List Group) (g : Group) : Rat :=
  if gs.length ≤ 1 then 1
  else if g.confidence < confident then
    w.round (1 - w.round (w.step * ((confident - g.confidence : Nat) : Rat)))
  else if g.isContested gs then w.round (1 - w.round (w.step / 2))
  else 1

/-- The weight of a grade. -/
def ofGrade (w : Weighing) : Nat → Rat
  | 0 => w.round (1 - w.round (w.step * 2))
  | 1 => w.round (1 - w.round (w.step * 1))
  | 2 => w.round (1 - w.round (w.step / 2))
  | _ => 1

/-- The rule in the numbers of the library, for typing and for gestures. -/
def single (gesture : Bool) : Weighing := ⟨stepWeight gesture, toSingle⟩

/-- The rule in exact numbers. -/
def exact (gesture : Bool) : Weighing := ⟨if gesture then mkRat 5 100 else mkRat 15 100, id⟩

theorem weight_single (gesture : Bool) (gs : List Group) (g : Group) :
    (single gesture).weight gs g = g.weightAmong gs gesture := rfl

/-- **The weight of a group** among others is that of its grade. -/
theorem weight_eq (w : Weighing) (htwo : 2 ≤ gs.length) (g : Group) :
    w.weight gs g = w.ofGrade (g.grade gs) := by
  unfold weight
  rw [if_neg (by omega)]
  by_cases hlow : g.confidence < confident
  · rw [if_pos hlow, grade_of_lt hlow]
    unfold confident at hlow ⊢
    obtain hc | hc : g.confidence = 0 ∨ g.confidence = 1 := by omega
    · rw [hc]
      rfl
    · rw [hc]
      rfl
  · rw [if_neg hlow, grade_of_le (Nat.not_lt.mp hlow)]
    split_ifs <;> rfl

/-- The weights of the grades increase. -/
structure Graded (w : Weighing) : Prop where
  low : w.ofGrade 0 < w.ofGrade 1
  middle : w.ofGrade 1 < w.ofGrade 2
  high : w.ofGrade 2 < 1

theorem graded_single (gesture : Bool) : (single gesture).Graded := by
  cases gesture <;> exact ⟨by decide +kernel, by decide +kernel, by decide +kernel⟩

theorem graded_exact (gesture : Bool) : (exact gesture).Graded := by
  cases gesture <;> exact ⟨by decide +kernel, by decide +kernel, by decide +kernel⟩

section
variable {w : Weighing} (hw : w.Graded) {m n : Nat}
include hw

theorem Graded.lt_of_lt (hmn : m < n) (hn : n ≤ 3) : w.ofGrade m < w.ofGrade n := by
  have hone : w.ofGrade 3 = 1 := rfl
  have hlow := hw.low
  have hmiddle := hw.middle
  have hhigh := hw.high
  interval_cases n <;> interval_cases m <;> linarith

theorem Graded.le_iff (hm : m ≤ 3) (hn : n ≤ 3) : w.ofGrade m ≤ w.ofGrade n ↔ m ≤ n := by
  constructor
  · intro hle
    by_contra hlt
    exact absurd (hw.lt_of_lt (Nat.not_le.mp hlt) hm) (not_lt.mpr hle)
  · intro hle
    rcases Nat.lt_or_eq_of_le hle with hlt | rfl
    · exact (hw.lt_of_lt hlt hn).le
    · exact le_rfl

theorem Graded.eq_iff (hm : m ≤ 3) (hn : n ≤ 3) : w.ofGrade m = w.ofGrade n ↔ m = n := by
  rw [le_antisymm_iff, hw.le_iff hm hn, hw.le_iff hn hm, ← Nat.le_antisymm_iff]

end

end Weighing

/-- **Weights are equal** exactly if the grades are. -/
theorem weightAmong_eq_iff {g' : Group} {gs' : List Group} (htwo : 2 ≤ gs.length)
    (hlength : gs'.length = gs.length) (gesture : Bool) :
    g'.weightAmong gs' gesture = g.weightAmong gs gesture ↔ g'.grade gs' = g.grade gs := by
  rw [← Weighing.weight_single, ← Weighing.weight_single, Weighing.weight_eq _ htwo,
    Weighing.weight_eq _ (by omega)]
  exact (Weighing.graded_single gesture).eq_iff grade_le_three grade_le_three

/-! ### Weights that rise with the confidence -/

/-- What weights are to the confidences of some groups: the weight of a group rises with its own
confidence and falls with that of another one, lies between `least` and one, and is one exactly for
a confident group that is more confident than every other, of which there is at most one. -/
structure Rises (weigh : List Group → Group → Rat) (least : Rat) (gs : List Group) : Prop where
  own : ∀ g ∈ gs, ∀ c, g.confidence ≤ c →
    weigh gs g ≤ weigh ((g.withConfidence c).putIn gs) (g.withConfidence c)
  other : ∀ g ∈ gs, ∀ h ∈ gs, h ≠ g → ∀ c, h.confidence ≤ c →
    weigh ((h.withConfidence c).putIn gs) g ≤ weigh gs g
  bounds : ∀ g ∈ gs, least ≤ weigh gs g ∧ weigh gs g ≤ 1
  leads : ∀ g ∈ gs, weigh gs g = 1 ↔ confident ≤ g.confidence ∧
    ∀ h ∈ gs, h ≠ g → h.confidence < g.confidence
  one : ∀ g ∈ gs, ∀ h ∈ gs, weigh gs g = 1 → weigh gs h = 1 → g = h

/-- **Weights that increase with the grade** rise with the confidence. -/
theorem Weighing.Graded.rises {w : Weighing} (hw : w.Graded)
    (hdistinct : (gs.map (·.number)).Nodup) (htwo : 2 ≤ gs.length) :
    Rises w.weight (w.ofGrade 0) gs := by
  have heq {gs' : List Group} (hlength : gs'.length = gs.length) (g : Group) :
      w.weight gs' g = w.ofGrade (g.grade gs') := w.weight_eq (by omega) g
  have hone (g : Group) : w.weight gs g = 1 ↔ g.grade gs = 3 := by
    rw [heq rfl]
    exact hw.eq_iff grade_le_three (Nat.le_refl 3)
  refine ⟨fun g _ c hle => ?_, fun g hg h hh hne c hle => ?_, fun g _ => ⟨?_, ?_⟩, fun g hg => ?_,
    fun g hg h hh hg1 hh1 => ?_⟩
  · rw [heq rfl, heq (length_putIn _ _), hw.le_iff grade_le_three grade_le_three]
    exact grade_le_putIn_self hle
  · rw [heq rfl, heq (length_putIn _ _), hw.le_iff grade_le_three grade_le_three]
    exact grade_putIn_le hdistinct hh ((number_ne_iff hdistinct hg hh).mpr hne) hle
  · rw [heq rfl, hw.le_iff (by decide) grade_le_three]
    exact Nat.zero_le _
  · rw [heq rfl]
    exact (hw.le_iff grade_le_three (Nat.le_refl 3)).mpr grade_le_three
  · rw [hone, grade_eq_three_iff]
    refine and_congr_right fun _ => forall₂_congr fun h hh => ?_
    rw [number_ne_iff hdistinct hg hh]
  · exact eq_of_grade_eq_three hdistinct hg hh ((hone g).mp hg1) ((hone h).mp hh1)

/-- **Weights and confidences.** Among two distinct groups or more the weights of typing and those of
gestures rise with the confidence, between the weight of two missing steps and one. So do the weights
of the same rule in exact numbers, from which the library's differ by less than a last binary place
of theirs. -/
theorem weights_rise (hdistinct : (gs.map (·.number)).Nodup) (htwo : 2 ≤ gs.length)
    (gesture : Bool) :
    Rises (fun gs g => g.weightAmong gs gesture)
        (toSingle (1 - toSingle (stepWeight gesture * 2))) gs ∧
      Rises (Weighing.exact gesture).weight (1 - (Weighing.exact gesture).step * 2) gs ∧
      ∀ g, |g.weightAmong gs gesture - (Weighing.exact gesture).weight gs g| < mkRat 1 (2 ^ 24) := by
  refine ⟨(Weighing.graded_single gesture).rises hdistinct htwo,
    (Weighing.graded_exact gesture).rises hdistinct htwo, fun g => ?_⟩
  have hgrade : g.grade gs ≤ 3 := grade_le_three
  rw [← Weighing.weight_single, Weighing.weight_eq _ htwo, Weighing.weight_eq _ htwo]
  generalize g.grade gs = n at hgrade
  interval_cases n <;> cases gesture <;> decide +kernel

/-- The first group leads, the second is contested by it, and the third has lost two steps. -/
theorem weights_rise_three_groups :
    let group (n c : Nat) : Group := { number := n, locale := .root, confidence := c }
    let gs := [group 0 3, group 1 2, group 2 0]
    ((gs.map (·.number)).Nodup ∧ 2 ≤ gs.length) ∧
      gs.map (·.weightAmong gs false) =
        [1, contestedWeight false, toSingle (1 - toSingle (stepWeight false * 2))] ∧
      Rises (fun gs g => g.weightAmong gs false)
        (toSingle (1 - toSingle (stepWeight false * 2))) gs ∧
      Rises (Weighing.exact false).weight (1 - (Weighing.exact false).step * 2) gs := by
  intro group gs
  have hdistinct : (gs.map (·.number)).Nodup := by decide
  have htwo : 2 ≤ gs.length := by decide
  have hrise := weights_rise hdistinct htwo false
  exact ⟨⟨hdistinct, htwo⟩, by decide +kernel, hrise.1, hrise.2.1⟩

end Group

end Typeahead
