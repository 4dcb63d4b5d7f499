import Typeahead.Proofs.Group.Weights

/-! # Surplus confidence

A group that is more confident than `Group.confident` loses the surplus at once when a word is not
in its locale. By itself its weight would stay, but the surplus counts where groups are compared:
the group may have led another confident one by it alone, and is contested then
(`grade_lowered_eq_iff`), or have contested a group that leads without it
(`grade_beside_lowered_eq_iff`). So the loss leaves all weights as they are exactly if no other
group is confident, or some group is more confident still, or two others are as confident
(`surplus_dropped_iff`). -/

namespace Typeahead.Group

variable {g g' h : Group} {gs : List Group}

/-! ### Groups beside one that was replaced -/

section
variable (hdistinct : (gs.map (·.number)).Nodup) (hg : g ∈ gs)
include hdistinct hg

theorem putIn_self : g.putIn gs = gs := by
  unfold putIn
  refine (List.map_congr_left fun h hh => ?_).trans (List.map_id gs)
  split_ifs with hn
  · exact (List.inj_on_of_nodup_map hdistinct hh hg hn).symm
  · rfl

/-- A group is contested by the one that was put in place of `g`, or by a third one. -/
theorem isContested_beside_putIn_iff (hn : g'.number = g.number) (hh : h ∈ gs) (hne : h ≠ g) :
    h.isContested (g'.putIn gs) = true ↔ h.confidence ≤ g'.confidence ∨
      ∃ k ∈ gs, k ≠ g ∧ k ≠ h ∧ h.confidence ≤ k.confidence := by
  have hhg : h.number ≠ g'.number := by
    rw [hn]
    exact (number_ne_iff hdistinct hg hh).mpr hne
  rw [isContested_putIn_iff ⟨g, hg, hn.symm⟩ hhg]
  refine or_congr_right (exists_congr fun k => and_congr_right fun hk => ?_)
  rw [hn, number_ne_iff hdistinct hg hk, number_ne_iff hdistinct hh hk]

theorem isContested_beside_iff (hh : h ∈ gs) (hne : h ≠ g) :
    h.isContested gs = true ↔ h.confidence ≤ g.confidence ∨
      ∃ k ∈ gs, k ≠ g ∧ k ≠ h ∧ h.confidence ≤ k.confidence := by
  have hbeside := isContested_beside_putIn_iff hdistinct hg rfl hh hne
  rwa [putIn_self hdistinct hg] at hbeside

theorem isContested_putIn_iff_of_mem (hn : g'.number = g.number) :
    g'.isContested (g'.putIn gs) = true ↔ ∃ h ∈ gs, h ≠ g ∧ g'.confidence ≤ h.confidence := by
  rw [isContested_putIn_self_iff]
  refine exists_congr fun h => and_congr_right fun hh => ?_
  rw [hn, number_ne_iff hdistinct hg hh]

theorem isContested_iff_of_mem :
    g.isContested gs = true ↔ ∃ h ∈ gs, h ≠ g ∧ g.confidence ≤ h.confidence := by
  have hself := isContested_putIn_iff_of_mem hdistinct hg (rfl : g.number = g.number)
  rwa [putIn_self hdistinct hg] at hself

/-! ### Grades after the loss -/

variable (hsurplus : confident < g.confidence)
include hsurplus

omit hdistinct hg in
theorem confidence_lowerConfidence : g.lowerConfidence.confidence = confident := if_pos hsurplus

/-- **The group that loses its surplus** keeps its grade unless it led confident groups only by
it. -/
theorem grade_lowered_eq_iff :
    g.lowerConfidence.grade (g.lowerConfidence.putIn gs) = g.grade gs ↔
      ((∃ h ∈ gs, h ≠ g ∧ confident ≤ h.confidence) →
        ∃ h ∈ gs, h ≠ g ∧ g.confidence ≤ h.confidence) := by
  have hconfidence := confidence_lowerConfidence hsurplus
  have hnumber : g.lowerConfidence.number = g.number := rfl
  rw [grade_eq_grade_iff hsurplus.le hconfidence.ge, isContested_iff_of_mem hdistinct hg,
    isContested_putIn_iff_of_mem hdistinct hg hnumber, hconfidence]
  refine ⟨fun hsame => hsame.mp, fun hled => ⟨hled, ?_⟩⟩
  rintro ⟨h, hh, hne, hle⟩
  exact ⟨h, hh, hne, hsurplus.le.trans hle⟩

/-- **Another group** keeps its grade unless it has a surplus too and is contested by the one that
lost its surplus, and by no third group. -/
theorem grade_beside_lowered_eq_iff (hh : h ∈ gs) (hne : h ≠ g) :
    h.grade (g.lowerConfidence.putIn gs) = h.grade gs ↔
      (confident < h.confidence → h.confidence ≤ g.confidence →
        ∃ k ∈ gs, k ≠ g ∧ k ≠ h ∧ h.confidence ≤ k.confidence) := by
  by_cases hlow : h.confidence < confident
  · rw [grade_of_lt hlow, grade_of_lt hlow]
    exact ⟨fun _ hlt => absurd hlt (by omega), fun _ => rfl⟩
  · have hhigh := Nat.not_lt.mp hlow
    have hnumber : g.lowerConfidence.number = g.number := rfl
    rw [grade_eq_grade_iff hhigh hhigh, isContested_beside_iff hdistinct hg hh hne,
      isContested_beside_putIn_iff hdistinct hg hnumber hh hne,
      confidence_lowerConfidence hsurplus]
    constructor
    · intro hsame hlt hle
      exact (hsame.mpr (.inl hle)).resolve_left (Nat.not_le.mpr hlt)
    · intro hthird
      refine ⟨Or.imp_left fun hle => hle.trans hsurplus.le, ?_⟩
      rintro (hle | hk)
      · rcases Nat.lt_or_ge confident h.confidence with hlt | hge
        · exact .inr (hthird hlt hle)
        · exact .inl hge
      · exact .inr hk

omit hdistinct hg in
/-- What keeps the grade of the group that loses its surplus and those of the others. -/
theorem grades_kept_iff :
    (((∃ h ∈ gs, h ≠ g ∧ confident ≤ h.confidence) →
        ∃ h ∈ gs, h ≠ g ∧ g.confidence ≤ h.confidence) ∧
      ∀ h ∈ gs, h ≠ g → confident < h.confidence → h.confidence ≤ g.confidence →
        ∃ k ∈ gs, k ≠ g ∧ k ≠ h ∧ h.confidence ≤ k.confidence) ↔
      (∀ h ∈ gs, h ≠ g → h.confidence < confident) ∨
        (∃ h ∈ gs, g.confidence < h.confidence) ∨
          ∃ h ∈ gs, ∃ k ∈ gs, h ≠ g ∧ k ≠ g ∧ h ≠ k ∧
            g.confidence ≤ h.confidence ∧ g.confidence ≤ k.confidence := by
  constructor
  · rintro ⟨hself, hothers⟩
    by_cases hcalm : ∀ h ∈ gs, h ≠ g → h.confidence < confident
    · exact .inl hcalm
    · push Not at hcalm
      obtain ⟨k, hk, hkg, hck⟩ := hself hcalm
      rcases Nat.lt_or_eq_of_le hck with hlt | heq
      · exact .inr (.inl ⟨k, hk, hlt⟩)
      · obtain ⟨m, hm, hmg, hmk, hkm⟩ := hothers k hk hkg (hsurplus.trans_le hck) heq.ge
        exact .inr (.inr ⟨k, hk, m, hm, hkg, hmg, hmk.symm, hck, hck.trans hkm⟩)
  · rintro (hcalm | ⟨k, hk, hgk⟩ | ⟨k, hk, m, hm, hkg, hmg, hkm, hck, hcm⟩)
    · refine ⟨fun ⟨h, hh, hne, hle⟩ => ?_, fun h hh hne hlt _ => ?_⟩
      · exact absurd (hcalm h hh hne) (Nat.not_lt.mpr hle)
      · exact absurd (hcalm h hh hne) (Nat.not_lt.mpr hlt.le)
    · have hkg : k ≠ g := by
        rintro rfl
        exact Nat.lt_irrefl _ hgk
      refine ⟨fun _ => ⟨k, hk, hkg, hgk.le⟩, fun h _ _ _ hle => ⟨k, hk, hkg, ?_, hle.trans hgk.le⟩⟩
      rintro rfl
      exact absurd hgk (Nat.not_lt.mpr hle)
    · refine ⟨fun _ => ⟨k, hk, hkg, hck⟩, fun h _ _ _ hle => ?_⟩
      -- of two groups that are as confident as the first one, one is not `h`
      by_cases hkh : k = h
      · exact ⟨m, hm, hmg, fun hmh => hkm (hkh.trans hmh.symm), hle.trans hcm⟩
      · exact ⟨k, hk, hkg, hkh, hle.trans hck⟩

/-- **A surplus is lost without effect** on the weights exactly if no other group is confident, or
some group is more confident still, or two others are as confident. -/
theorem surplus_dropped_iff (gesture : Bool) :
    (g.lowerConfidence.weightAmong (g.lowerConfidence.putIn gs) gesture = g.weightAmong gs gesture ∧
      ∀ h ∈ gs, h ≠ g →
        h.weightAmong (g.lowerConfidence.putIn gs) gesture = h.weightAmong gs gesture) ↔
      (∀ h ∈ gs, h ≠ g → h.confidence < confident) ∨
        (∃ h ∈ gs, g.confidence < h.confidence) ∨
          ∃ h ∈ gs, ∃ k ∈ gs, h ≠ g ∧ k ≠ g ∧ h ≠ k ∧
            g.confidence ≤ h.confidence ∧ g.confidence ≤ k.confidence := by
  by_cases htwo : 2 ≤ gs.length
  · have hlength := length_putIn g.lowerConfidence gs
    simp only [weightAmong_eq_iff htwo hlength]
    rw [grade_lowered_eq_iff hdistinct hg hsurplus, ← grades_kept_iff hsurplus]
    exact and_congr_right fun _ => forall₃_congr fun h hh hne =>
      grade_beside_lowered_eq_iff hdistinct hg hsurplus hh hne
  · have hshort : gs.length ≤ 1 := by omega
    have halone (h : Group) (hh : h ∈ gs) : h = g := by
      obtain ⟨k, rfl⟩ := List.length_eq_one_iff.mp
        (Nat.le_antisymm hshort (List.length_pos_of_mem hg))
      rw [List.mem_singleton.mp hh, List.mem_singleton.mp hg]
    have hone (k : Group) (gs' : List Group) (hlength : gs'.length = gs.length) :
        k.weightAmong gs' gesture = 1 := if_pos (by omega)
    refine ⟨fun _ => .inl fun h hh hne => absurd (halone h hh) hne, fun _ => ⟨?_, ?_⟩⟩
    · rw [hone _ _ (length_putIn _ _), hone _ _ rfl]
    · exact fun h hh hne => absurd (halone h hh) hne

end

/-- Two other groups have the same surplus. -/
theorem surplus_dropped_iff_three_alike :
    let group (n c : Nat) : Group := { number := n, locale := .root, confidence := c }
    let g := group 0 5
    let gs := [g, group 1 5, group 2 5]
    let gs' := g.lowerConfidence.putIn gs
    ((gs.map (·.number)).Nodup ∧ g ∈ gs ∧ confident < g.confidence) ∧
      g.lowerConfidence.weightAmong gs' false = g.weightAmong gs false ∧
        ∀ h ∈ gs, h ≠ g → h.weightAmong gs' false = h.weightAmong gs false := by
  intro group g gs gs'
  have hdistinct : (gs.map (·.number)).Nodup := by decide
  have hg : g ∈ gs := List.mem_cons_self
  have hsurplus : confident < g.confidence := by decide
  have hne {n m c : Nat} (hn : n ≠ m) : group n c ≠ group m c :=
    fun he => hn (congrArg Group.number he)
  have hsecond : group 1 5 ∈ gs := List.mem_cons_of_mem _ List.mem_cons_self
  have hthird : group 2 5 ∈ gs := List.mem_cons_of_mem _ (List.mem_cons_of_mem _ List.mem_cons_self)
  refine ⟨⟨hdistinct, hg, hsurplus⟩, ?_⟩
  exact (surplus_dropped_iff hdistinct hg hsurplus false).mpr (.inr (.inr ⟨group 1 5, hsecond,
    group 2 5, hthird, hne (by decide), hne (by decide), hne (by decide), Nat.le_refl 5,
    Nat.le_refl 5⟩))

/-- The surplus alone led another confident group: without it the two share the lead. -/
theorem lead_lost_with_surplus :
    let group (n c : Nat) : Group := { number := n, locale := .root, confidence := c }
    let g := group 0 3
    let gs := [g, group 1 2]
    ∀ gesture, g.weightAmong gs gesture = 1 ∧
      g.lowerConfidence.weightAmong (g.lowerConfidence.putIn gs) gesture =
        contestedWeight gesture ∧
      contestedWeight gesture < 1 := by
  intro group g gs gesture
  cases gesture <;> decide +kernel

end Typeahead.Group
