import Typeahead.Proofs.Text.Ends
import Typeahead.Proofs.Text.Pieces

/-! # Fields of texts

The fields of a text are told by the forms that a text of given fields can have, `HasFields`: any
number of separators before, between and behind them, at least one between two. Every text has
fields, and only one list of them (`hasFields_iff`). Fields that are joined by a separator are the
fields of the whole (`hasFields_join`), and the whole has no blanks at its ends if they have none
(`tight_join`). -/

namespace Typeahead.Text

variable {sep : Char → Bool} {s t w : Text} {ws : List Text} {c : Char}

/-! ### Fields -/

/-- A text that can be a field: it is not empty and holds no separator. -/
def IsField (sep : Char → Bool) (w : Text) : Prop := w ≠ [] ∧ ∀ c ∈ w, sep c = false

/-- **The forms of a text** with given fields. -/
inductive HasFields (sep : Char → Bool) : Text → List Text → Prop where
  | nil : HasFields sep [] []
  | gap {c : Char} {s : Text} {ws : List Text} :
      sep c = true → HasFields sep s ws → HasFields sep (c :: s) ws
  | last {w : Text} : IsField sep w → HasFields sep w [w]
  | field {c : Char} {w s : Text} {ws : List Text} :
      IsField sep w → sep c = true → HasFields sep s ws → HasFields sep (w ++ c :: s) (w :: ws)

theorem fields_append_cons (hc : sep c = true) (s t : Text) :
    fields sep (s ++ c :: t) = fields sep s ++ fields sep t := by
  rw [fields, pieces_append_cons hc, List.filter_append]
  rfl

theorem fields_of_isField (h : IsField sep w) : fields sep w = [w] := by
  rw [fields, pieces_of_forall h.2]
  simpa using h.1

theorem HasFields.fields_eq (h : HasFields sep s ws) : fields sep s = ws := by
  induction h with
  | nil => rfl
  | gap hc _ ih => exact (fields_append_cons hc [] _).trans ih
  | last hw => exact fields_of_isField hw
  | field hw hc _ ih => rw [fields_append_cons hc, fields_of_isField hw, ih, List.singleton_append]

/-- **Every text has fields.** -/
theorem exists_hasFields (sep : Char → Bool) (s : Text) : ∃ ws, HasFields sep s ws := by
  induction hn : s.length using Nat.strong_induction_on generalizing s with
  | _ n ih =>
    -- what comes before the next separator is empty or the next field
    have hw : ∀ c ∈ s.takeWhile (!sep ·), sep c = false := fun c hc => by
      simpa using List.mem_takeWhile_imp hc
    have hs := List.takeWhile_append_dropWhile (p := (!sep ·)) (l := s)
    generalize s.takeWhile (!sep ·) = w at hw hs
    cases hrest : s.dropWhile (!sep ·) with
    | nil =>
      rw [hrest, List.append_nil] at hs
      subst hs
      by_cases hne : w = []
      · exact ⟨[], hne ▸ .nil⟩
      · exact ⟨[w], .last ⟨hne, hw⟩⟩
    | cons c rest =>
      have hc : sep c = true := by
        have hfirst := List.head?_dropWhile_not (!sep ·) s
        rw [hrest] at hfirst
        simpa using hfirst
      rw [hrest] at hs
      have hshorter : rest.length < n := by
        rw [← hn, ← hs, List.length_append, List.length_cons]
        omega
      obtain ⟨ws, hws⟩ := ih _ hshorter rest rfl
      rw [← hs]
      by_cases hne : w = []
      · exact ⟨ws, hne ▸ .gap hc hws⟩
      · exact ⟨w :: ws, .field ⟨hne, hw⟩ hc hws⟩

/-- **The fields of a text** are the only ones it has. -/
theorem hasFields_iff : HasFields sep s ws ↔ fields sep s = ws := by
  constructor
  · exact HasFields.fields_eq
  · rintro rfl
    obtain ⟨ws, hws⟩ := exists_hasFields sep s
    rw [hws.fields_eq]
    exact hws

/-- A text that begins with no separator begins with its first field. -/
theorem HasFields.exists_cons (h : HasFields sep (c :: s) ws) (hc : sep c = false) :
    ∃ w rest, ws = (c :: w) :: rest := by
  generalize ht : c :: s = t at h
  cases h with
  | nil => exact nomatch ht
  | gap hgap _ =>
    obtain ⟨rfl, -⟩ := List.cons.inj ht
    rw [hgap] at hc
    exact nomatch hc
  | last _ => exact ⟨s, [], by rw [ht]⟩
  | @field _ w _ ws hw _ _ =>
    cases w with
    | nil => exact absurd rfl hw.1
    | cons d w =>
      obtain ⟨rfl, -⟩ := List.cons.inj ht
      exact ⟨w, ws, rfl⟩

/-! ### Joined fields -/

theorem join_cons_cons (c : Char) (w v : Text) (ws : List Text) :
    join [c] (w :: v :: ws) = w ++ c :: join [c] (v :: ws) := by
  simp [join]

/-- **Joined fields** are the fields of the whole. -/
theorem hasFields_join (hc : sep c = true) : ∀ {ws : List Text}, (∀ w ∈ ws, IsField sep w) →
    HasFields sep (join [c] ws) ws
  | [], _ => .nil
  | [w], hws => by
    have hjoin : join [c] [w] = w := List.append_nil w
    rw [hjoin]
    exact .last (hws w List.mem_cons_self)
  | w :: v :: ws, hws => by
    rw [join_cons_cons]
    exact .field (hws w List.mem_cons_self) hc
      (hasFields_join hc fun u hu => hws u (List.mem_cons_of_mem w hu))

theorem Tight.append_cons (hs : Tight s) (ht : Tight t) (hs' : s ≠ []) (ht' : t ≠ []) (c : Char) :
    Tight (s ++ c :: t) where
  first a ha := by
    rw [List.head?_append_of_ne_nil _ hs'] at ha
    exact hs.first a ha
  last a ha := by
    rw [List.getLast?_append_of_ne_nil _ (List.cons_ne_nil c t), List.getLast?_cons_of_ne_nil ht']
      at ha
    exact ht.last a ha

theorem join_ne_nil (c : Char) (hw : w ≠ []) (ws : List Text) : join [c] (w :: ws) ≠ [] := by
  cases ws with
  | nil => simpa [join] using hw
  | cons v ws => simp [join_cons_cons]

/-- Joined texts have no blanks at their ends if none of them has. -/
theorem tight_join (c : Char) : ∀ {ws : List Text}, (∀ w ∈ ws, w ≠ [] ∧ Tight w) →
    Tight (join [c] ws)
  | [], _ => ⟨fun _ h => (nomatch h), fun _ h => (nomatch h)⟩
  | [w], hws => by
    have hjoin : join [c] [w] = w := List.append_nil w
    rw [hjoin]
    exact (hws w List.mem_cons_self).2
  | w :: v :: ws, hws => by
    have hw := hws w List.mem_cons_self
    have hrest : ∀ u ∈ v :: ws, u ≠ [] ∧ Tight u := fun u hu => hws u (List.mem_cons_of_mem w hu)
    rw [join_cons_cons]
    exact hw.2.append_cons (tight_join c hrest) hw.1
      (join_ne_nil c (hrest v List.mem_cons_self).1 ws) c

end Typeahead.Text
