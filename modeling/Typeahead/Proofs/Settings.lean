import Mathlib.Tactic.SplitIfs
import Typeahead.Number.Wrapping
import Typeahead.Settings.File

/-! # The range of settings

The bonuses, the margins and the score limit are integers of 32 bits (`Settings.Fits`), and a file
with another number is not read (`fits_of_read?`). A file may say nothing but the bonus; the other
settings are the defaults then (`read?_eq_of_bonus`). -/

namespace Typeahead

/-- The numbers of a bonus have 32 bits. -/
structure Bonus.Fits (b : Bonus) : Prop where
  whitelist : Fits32 b.whitelist
  lowercaseAscii : Fits32 b.lowercaseAscii
  higherScore : Fits32 b.higherScore
  requiredMargin : Fits32 b.requiredMargin
  nextWordMargin : Fits32 b.nextWordMargin

namespace Settings

/-- The numbers that settings compare scores with have 32 bits. -/
structure Fits (s : Settings) : Prop where
  bonus : s.bonus.Fits
  scoreLimit : Fits32 s.scoreLimit

variable {s : Settings} {fields : Toml.Fields} {v : Toml} {t : Text}

theorem fits_of_score? {n : Int} (h : score? v = some n) : Fits32 n := by
  unfold score? at h
  split at h
  · split_ifs at h with hn
    obtain rfl := Option.some.inj h
    exact ⟨hn.1, by omega⟩
  · exact absurd h (by simp)

/-- What is read from a field has each property of the default and of the values read. -/
theorem of_fieldOr {α : Type} {P : α → Prop} {key : Text} {read : Toml → Option α} {default a : α}
    (hdefault : P default) (hread : ∀ v a, read v = some a → P a)
    (h : fieldOr fields key read default = some a) : P a := by
  unfold fieldOr at h
  split at h
  · exact hread _ _ h
  · obtain rfl := Option.some.inj h
    exact hdefault

theorem fits_of_bonus? {b : Bonus} (h : bonus? v = some b) : b.Fits := by
  have hread : ∀ v n, score? v = some n → Fits32 n := fun v n h => fits_of_score? h
  simp only [bonus?, Option.bind_eq_bind, Option.bind_eq_some_iff, Option.some.injEq] at h
  obtain ⟨fields, -, w, hw, l, hl, g, hg, r, hr, n, hn, rfl⟩ := h
  exact ⟨of_fieldOr (by decide) hread hw, of_fieldOr (by decide) hread hl,
    of_fieldOr (by decide) hread hg, of_fieldOr (by decide) hread hr,
    of_fieldOr (by decide) hread hn⟩

/-- Without a limit of its own, the threshold gives one of three. -/
theorem fits_scoreLimit (h : ∀ n ∈ s.scoreLimitOverride, Fits32 n) : Fits32 s.scoreLimit := by
  unfold scoreLimit
  split
  · exact h _ (by simp [*])
  · split_ifs <;> decide

/-- **Settings read from a file** are in range. -/
theorem fits_of_read? (h : read? t = some s) : s.Fits := by
  obtain ⟨fields, -, hfields⟩ := Option.bind_eq_some_iff.mp h
  -- the limit is the third field, the bonus the eleventh
  iterate 2 obtain ⟨_, -, hfields⟩ := Option.bind_eq_some_iff.mp hfields
  obtain ⟨limit, hlimit, hfields⟩ := Option.bind_eq_some_iff.mp hfields
  iterate 7 obtain ⟨_, -, hfields⟩ := Option.bind_eq_some_iff.mp hfields
  obtain ⟨bonus, hbonus, hfields⟩ := Option.bind_eq_some_iff.mp hfields
  iterate 3 obtain ⟨_, -, hfields⟩ := Option.bind_eq_some_iff.mp hfields
  obtain rfl := Option.some.inj hfields
  refine ⟨of_fieldOr ?_ (fun _ _ => fits_of_bonus?) hbonus, fits_scoreLimit ?_⟩
  · exact ⟨by decide, by decide, by decide, by decide, by decide⟩
  · have hread : ∀ v o, (score? v).map some = some o → ∀ n ∈ o, Fits32 n := by
      intro v o ho n hn
      obtain ⟨m, hm, rfl⟩ := Option.map_eq_some_iff.mp ho
      obtain rfl := Option.mem_some_iff.mp hn
      exact fits_of_score? hm
    exact of_fieldOr (P := fun o => ∀ n ∈ o, Fits32 n) (by simp) hread hlimit

/-! ### Files with a bonus alone -/

theorem fieldOr_of_ne {α : Type} {key key' : Text} {read : Toml → Option α} {default : α}
    (h : key ≠ key') : fieldOr [(key', v)] key read default = some default := by
  simp [fieldOr, Toml.field?, h.symm]

theorem fieldOr_self {α : Type} {key : Text} {read : Toml → Option α} {default : α} :
    fieldOr [(key, v)] key read default = read v := by
  simp [fieldOr, Toml.field?]

theorem read?_eq_of_bonus (h : Toml.read? t = some [(bonusKey, v)]) :
    read? t = (bonus? v).map fun b => { bonus := b } := by
  rw [read?, h, Option.bind_some]
  unfold ofFields?
  simp (disch := decide +kernel) only [fieldOr_of_ne, fieldOr_self]
  cases bonus? v <;> rfl

end Settings

end Typeahead
