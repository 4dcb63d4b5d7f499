import Mathlib.Data.List.DropRight
import Typeahead.Text.Basic

/-! # The ends of texts

What is dropped from the end of a text is told by what stays: it is followed by nothing but what is
dropped, and does not itself end in it. So a text without the quotes that end it is the one
beginning that is followed by nothing but quotes and does not end in one (`isUnquoted_iff`), and a
text without the blanks at its ends is the one part with nothing but blanks on both sides that has
none at its own ends (`isTrimmed_iff`). -/

namespace Typeahead.Text

variable {p : Char → Bool} {s t w : Text} {c : Char}

/-! ### Dropping the end -/

theorem getLast?_rdropWhile (h : (s.rdropWhile p).getLast? = some c) : p c = false := by
  have hne : s.rdropWhile p ≠ [] := by
    intro hnil
    rw [hnil] at h
    exact nomatch h
  rw [List.getLast?_eq_some_getLast hne, Option.some.injEq] at h
  rw [← h, Bool.eq_false_iff]
  exact List.rdropWhile_last_not p s hne

theorem rdropWhile_append_of_pos (h : ∀ c ∈ t, p c = true) :
    (s ++ t).rdropWhile p = s.rdropWhile p := by
  have hreverse : ∀ c ∈ t.reverse, p c = true := fun c hc => h c (List.mem_reverse.mp hc)
  rw [List.rdropWhile, List.reverse_append, List.dropWhile_append_of_pos hreverse, List.rdropWhile]

theorem rdropWhile_of_getLast? (h : ∀ c, s.getLast? = some c → p c = false) :
    s.rdropWhile p = s := by
  rw [List.rdropWhile_eq_self_iff]
  intro hne
  rw [Bool.not_eq_true]
  exact h _ (List.getLast?_eq_some_getLast hne)

/-! ### Quotes -/

/-- `w` is `s` without the quotes that end it. -/
structure IsUnquoted (w s : Text) : Prop where
  getLast?_ne : w.getLast? ≠ some '\''
  quotes : ∃ n, s = w ++ List.replicate n '\''

theorem dropTrailingQuotes_eq_rdropWhile (s : Text) :
    dropTrailingQuotes s = List.rdropWhile (· == '\'') s := rfl

theorem isUnquoted_dropTrailingQuotes (s : Text) : IsUnquoted (dropTrailingQuotes s) s where
  getLast?_ne h := by
    have hquote : ('\'' == '\'') = false := getLast?_rdropWhile (p := (· == '\'')) h
    exact absurd hquote (by decide)
  quotes := by
    have hquotes : ∀ c ∈ List.rtakeWhile (· == '\'') s, c = '\'' := fun c hc => by
      simpa using List.mem_rtakeWhile_imp hc
    refine ⟨(List.rtakeWhile (· == '\'') s).length, ?_⟩
    rw [← List.eq_replicate_of_mem hquotes, dropTrailingQuotes_eq_rdropWhile,
      List.rdropWhile_append_rtakeWhile]

theorem isUnquoted_iff {w s : Text} : IsUnquoted w s ↔ w = dropTrailingQuotes s := by
  constructor
  · rintro ⟨hlast, n, rfl⟩
    have hquotes : ∀ c ∈ List.replicate n '\'', (c == '\'') = true := by simp
    rw [dropTrailingQuotes_eq_rdropWhile, rdropWhile_append_of_pos hquotes, rdropWhile_of_getLast?]
    rintro c hc
    rw [beq_eq_false_iff_ne]
    rintro rfl
    exact hlast hc
  · rintro rfl
    exact isUnquoted_dropTrailingQuotes s

/-! ### Blanks -/

/-- A text that neither begins nor ends with a blank. -/
structure Tight (t : Text) : Prop where
  first : ∀ c, t.head? = some c → isBlank c = false
  last : ∀ c, t.getLast? = some c → isBlank c = false

/-- The text `t` is `s` without the blanks at its ends. -/
structure IsTrimmed (t s : Text) : Prop where
  tight : Tight t
  margins : ∃ before after, s = before ++ t ++ after ∧ (∀ c ∈ before, isBlank c = true) ∧
    ∀ c ∈ after, isBlank c = true

theorem trim_eq (s : Text) : trim s = (s.dropWhile isBlank).rdropWhile isBlank := rfl

theorem isTrimmed_trim (s : Text) : IsTrimmed (trim s) s where
  tight := by
    refine ⟨fun c hc => ?_, fun c hc => getLast?_rdropWhile hc⟩
    obtain ⟨rest, hrest⟩ : trim s <+: s.dropWhile isBlank := List.rdropWhile_prefix _ _
    have hfirst := List.head?_dropWhile_not isBlank s
    rw [← hrest, List.head?_append, hc] at hfirst
    exact hfirst
  margins := by
    refine ⟨s.takeWhile isBlank, (s.dropWhile isBlank).rtakeWhile isBlank, ?_, ?_, ?_⟩
    · rw [trim_eq, List.append_assoc, List.rdropWhile_append_rtakeWhile,
        List.takeWhile_append_dropWhile]
    · exact fun c hc => List.mem_takeWhile_imp hc
    · exact fun c hc => List.mem_rtakeWhile_imp hc

/-- **A trimmed text** is what trimming gives. -/
theorem isTrimmed_iff : IsTrimmed t s ↔ t = trim s := by
  constructor
  · rintro ⟨⟨hfirst, hlast⟩, before, after, rfl, hbefore, hafter⟩
    rw [trim_eq, List.append_assoc, List.dropWhile_append_of_pos hbefore]
    cases t with
    | nil =>
      have hblank : after.dropWhile isBlank = [] := List.dropWhile_eq_nil_iff.mpr hafter
      rw [List.nil_append, hblank]
      rfl
    | cons c t =>
      have hkept : (c :: t ++ after).dropWhile isBlank = c :: t ++ after := by
        simp [hfirst c rfl]
      rw [hkept, rdropWhile_append_of_pos hafter, rdropWhile_of_getLast? hlast]
  · rintro rfl
    exact isTrimmed_trim s

theorem Tight.isTrimmed (h : Tight t) : IsTrimmed t t :=
  ⟨h, [], [], (List.append_nil t).symm, by simp, by simp⟩

end Typeahead.Text
