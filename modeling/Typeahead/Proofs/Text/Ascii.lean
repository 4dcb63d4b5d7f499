import Typeahead.Text.Case

/-! # ASCII

On a text of ASCII the small form is taken character by character (`lower_of_isAscii`): its length
does not change and it remains a text of ASCII. There each text has one form in lower case and one
capitalized form, whichever of its forms one starts from (`lower_lower_of_isAscii`,
`capitalizeOnly_lower_of_isAscii`, `capitalizeOnly_capitalizeOnly_of_isAscii`). -/

namespace Typeahead.Text

variable {s : Text} {c : Char}

/-- All characters are of ASCII. -/
def IsAscii (s : Text) : Prop := ∀ c ∈ s, c.toNat < 0x80

instance (s : Text) : Decidable s.IsAscii := List.decidableBAll (fun c : Char => c.toNat < 0x80) s

theorem isAscii_cons : IsAscii (c :: s) ↔ c.toNat < 0x80 ∧ s.IsAscii := by
  simp [IsAscii]

/-- The small form of a character of ASCII. -/
def lowerAscii (c : Char) : Char := if 'A' ≤ c ∧ c ≤ 'Z' then Char.ofNat (c.toNat + 32) else c

theorem toNat_lowerAscii_lt (h : c.toNat < 0x80) : (lowerAscii c).toNat < 0x80 := by
  have hall : ∀ n < 0x80, (lowerAscii (Char.ofNat n)).toNat < 0x80 := by decide
  rw [← Char.ofNat_toNat c]
  exact hall c.toNat h

theorem lowerChar_of_lt (h : c.toNat < 0x80) : lowerChar c = [lowerAscii c] := by
  rw [lowerChar, if_pos h, lowerAscii]

theorem lowerFrom_of_isAscii (h : s.IsAscii) (before : Text) :
    lowerFrom before s = s.map lowerAscii := by
  induction s generalizing before with
  | nil => rfl
  | cons c s ih =>
    obtain ⟨hc, hs⟩ := isAscii_cons.mp h
    have hsigma : c ≠ '\u03A3' := by
      rintro rfl
      exact absurd hc (by decide)
    rw [lowerFrom, if_neg hsigma, lowerChar_of_lt hc, ih hs]
    rfl

theorem lower_of_isAscii (h : s.IsAscii) : lower s = s.map lowerAscii := lowerFrom_of_isAscii h []

theorem length_lower_of_isAscii (h : s.IsAscii) : (lower s).length = s.length := by
  rw [lower_of_isAscii h, List.length_map]

theorem isAscii_lower (h : s.IsAscii) : (lower s).IsAscii := by
  rw [lower_of_isAscii h]
  intro c hc
  obtain ⟨a, ha, rfl⟩ := List.mem_map.mp hc
  exact toNat_lowerAscii_lt (h a ha)

/-! ### Forms of a text -/

theorem lowerAscii_lowerAscii (h : c.toNat < 0x80) :
    lowerAscii (lowerAscii c) = lowerAscii c := by
  have hall : ∀ n < 0x80,
      lowerAscii (lowerAscii (Char.ofNat n)) = lowerAscii (Char.ofNat n) := by decide
  rw [← Char.ofNat_toNat c]
  exact hall c.toNat h

theorem lower_lower_of_isAscii (h : s.IsAscii) : lower (lower s) = lower s := by
  rw [lower_of_isAscii (isAscii_lower h), lower_of_isAscii h, List.map_map]
  exact List.map_congr_left fun c hc => lowerAscii_lowerAscii (h c hc)

/-- The capital form of a character of ASCII. -/
def upperAscii (c : Char) : Char := if 'a' ≤ c ∧ c ≤ 'z' then Char.ofNat (c.toNat - 32) else c

theorem toNat_upperAscii_lt (h : c.toNat < 0x80) : (upperAscii c).toNat < 0x80 := by
  have hall : ∀ n < 0x80, (upperAscii (Char.ofNat n)).toNat < 0x80 := by decide
  rw [← Char.ofNat_toNat c]
  exact hall c.toNat h

theorem upperChar_of_lt (h : c.toNat < 0x80) : upperChar c = [upperAscii c] := by
  rw [upperChar, if_pos h, upperAscii]

theorem upperAscii_lowerAscii (h : c.toNat < 0x80) :
    upperAscii (lowerAscii c) = upperAscii c := by
  have hall : ∀ n < 0x80,
      upperAscii (lowerAscii (Char.ofNat n)) = upperAscii (Char.ofNat n) := by decide
  rw [← Char.ofNat_toNat c]
  exact hall c.toNat h

theorem upperAscii_upperAscii (h : c.toNat < 0x80) :
    upperAscii (upperAscii c) = upperAscii c := by
  have hall : ∀ n < 0x80,
      upperAscii (upperAscii (Char.ofNat n)) = upperAscii (Char.ofNat n) := by decide
  rw [← Char.ofNat_toNat c]
  exact hall c.toNat h

theorem capitalizeOnly_cons (hc : c.toNat < 0x80) :
    capitalizeOnly (c :: s) = upperAscii c :: lower s := by
  rw [capitalizeOnly, upperChar_of_lt hc, List.singleton_append]

theorem capitalizeOnly_lower_of_isAscii (h : s.IsAscii) :
    capitalizeOnly (lower s) = capitalizeOnly s := by
  cases s with
  | nil => rfl
  | cons c s =>
    obtain ⟨hc, hs⟩ := isAscii_cons.mp h
    rw [lower_of_isAscii h, List.map_cons, ← lower_of_isAscii hs,
      capitalizeOnly_cons (toNat_lowerAscii_lt hc), capitalizeOnly_cons hc,
      upperAscii_lowerAscii hc, lower_lower_of_isAscii hs]

theorem capitalizeOnly_capitalizeOnly_of_isAscii (h : s.IsAscii) :
    capitalizeOnly (capitalizeOnly s) = capitalizeOnly s := by
  cases s with
  | nil => rfl
  | cons c s =>
    obtain ⟨hc, hs⟩ := isAscii_cons.mp h
    rw [capitalizeOnly_cons hc, capitalizeOnly_cons (toNat_upperAscii_lt hc),
      upperAscii_upperAscii hc, lower_lower_of_isAscii hs]

theorem byteWidth_of_lt (h : c.toNat < 0x80) : byteWidth c = 1 := if_pos h

end Typeahead.Text
