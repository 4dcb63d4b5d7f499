import Mathlib.Data.List.Forall2
import Mathlib.Data.List.ReduceOption
import Typeahead.CommandLine.Compile
import Typeahead.Proofs.Text.Fields

/-! # The lines of a word list

What a line says is told by its form (`Spells`): without the blanks at its ends it is empty, or it
begins with a number sign, or its fields are a record. A record has one of four shapes, and its
frequency is a numeral with a value up to 255 (`IsFrequency`). A line has one form at most, and
reading finds it (`ofTrimmed?_eq_some_iff`): the first field of a record is a word of letters, so
that no record begins with a number sign. What `spelled` writes for an entry is a line that says
it. -/

namespace Typeahead

open Text (HasFields IsField IsTrimmed Tight hasFields_iff)

namespace SourceLine

variable {t w line : Text} {ws : List Text} {f n limit : Nat} {s : SourceLine}

/-! ### Frequencies -/

/-- The text writes a frequency: decimal digits, which a plus sign may precede, with a value that a
byte can hold. -/
def IsFrequency (t : Text) (f : Nat) : Prop :=
  ∃ digits, digits ≠ [] ∧ (t = digits ∨ t = '+' :: digits) ∧ (∀ c ∈ digits, c.isDigit = true) ∧
    Nat.ofDigitChars 10 digits 0 = f ∧ f ≤ 255

theorem le_ofDigitChars (t : Text) (n : Nat) : n ≤ Nat.ofDigitChars 10 t n := by
  have hpos : 1 * n ≤ 10 ^ t.length * n := Nat.mul_le_mul_right n (Nat.pow_pos (by decide))
  rw [Nat.ofDigitChars_eq_ofDigitChars_zero]
  omega

/-- Digits are read up to the limit, which the value of some of them cannot pass before the value
of all of them does. -/
theorem digits?_eq_some_iff (hn : n ≤ limit) : digits? limit n t = some f ↔
    (∀ c ∈ t, c.isDigit = true) ∧ Nat.ofDigitChars 10 t n = f ∧ f ≤ limit := by
  induction t generalizing n with
  | nil =>
    have hvalue : digits? limit n [] = some f ↔ n = f := by simp [digits?]
    rw [hvalue, Nat.ofDigitChars_nil]
    constructor
    · rintro rfl
      exact ⟨fun c hc => absurd hc List.not_mem_nil, rfl, hn⟩
    · exact fun h => h.2.1
  | cons c t ih =>
    have hdigit : ('0' ≤ c ∧ c ≤ '9') ↔ c.isDigit = true := by simp [Char.isDigit, Char.le_def]
    have hpast := le_ofDigitChars t (10 * n + (c.toNat - 48))
    rw [digits?, Nat.ofDigitChars_cons, List.forall_mem_cons, ← hdigit]
    dsimp only
    split_ifs with hc hle
    · rw [ih hle]
      simp [hc]
    · constructor
      · exact fun h => nomatch h
      · rintro ⟨-, rfl, hf⟩
        exact absurd (hpast.trans hf) hle
    · simp [hc]

theorem frequency?_plus (hne : t ≠ []) : frequency? ('+' :: t) = digits? 255 0 t := by
  have hempty : t.isEmpty = false := by simpa using hne
  simp [frequency?, hempty]

theorem frequency?_of_ne (hne : t ≠ []) (hplus : ∀ rest, t ≠ '+' :: rest) :
    frequency? t = digits? 255 0 t := by
  unfold frequency?
  split
  · next rest => exact absurd rfl (hplus rest)
  · exact absurd rfl hne
  · rfl

/-- **A frequency** is read from the texts that write it. -/
theorem frequency?_eq_some_iff : frequency? t = some f ↔ IsFrequency t f := by
  have hdigits (digits : Text) : digits? 255 0 digits = some f ↔
      (∀ c ∈ digits, c.isDigit = true) ∧ Nat.ofDigitChars 10 digits 0 = f ∧ f ≤ 255 :=
    digits?_eq_some_iff (Nat.zero_le 255)
  constructor
  · intro h
    by_cases hne : t = []
    · subst hne
      exact nomatch h
    by_cases hplus : ∃ rest, t = '+' :: rest
    · obtain ⟨rest, rfl⟩ := hplus
      have hrest : rest ≠ [] := by
        rintro rfl
        exact nomatch h
      rw [frequency?_plus hrest] at h
      exact ⟨rest, hrest, .inr rfl, (hdigits rest).mp h⟩
    · rw [frequency?_of_ne hne (not_exists.mp hplus)] at h
      exact ⟨t, hne, .inl rfl, (hdigits t).mp h⟩
  · rintro ⟨digits, hne, rfl | rfl, hvalue⟩
    · have hplus : ∀ rest, t ≠ '+' :: rest := by
        rintro rest rfl
        exact absurd (hvalue.1 '+' List.mem_cons_self) (by decide)
      rw [frequency?_of_ne hne hplus]
      exact (hdigits t).mpr hvalue
    · rw [frequency?_plus hne]
      exact (hdigits digits).mpr hvalue

theorem isFrequency_ofNat (hf : f ≤ 255) : IsFrequency (Text.ofNat f) f :=
  ⟨Text.ofNat f, Nat.toDigits_ne_nil, .inl rfl,
    fun _ hc => Nat.isDigit_of_mem_toDigits (by decide) (by decide) hc,
    Nat.ofDigitChars_ten_toDigits, hf⟩

/-! ### Records -/

/-- **The shapes of a record**, and what a record of each shape says. -/
inductive Record : List Text → SourceLine → Prop where
  | word {w t : Text} {f : Nat} :
      IsFrequency t f → Record [['w'], w, t] (.word w f)
  | offensive {w t : Text} {f : Nat} :
      IsFrequency t f → Record [['w'], w, t, "offensive".toList] (.offensive w f)
  | pair {before next t : Text} {f : Nat} :
      IsFrequency t f → Record [['b'], before, next, t] (.pair before next f)
  | replacement (typed r : Text) : Record [['w', 'l'], typed, r] (.replacement typed r)

theorem ofFields?_eq_some_iff : ofFields? ws = some s ↔ Record ws s := by
  constructor
  · intro h
    unfold ofFields? at h
    split at h
    · obtain ⟨f, hf, rfl⟩ := Option.map_eq_some_iff.mp h
      exact .word (frequency?_eq_some_iff.mp hf)
    · split_ifs at h with hlast
      obtain ⟨f, hf, rfl⟩ := Option.map_eq_some_iff.mp h
      rw [hlast]
      exact .offensive (frequency?_eq_some_iff.mp hf)
    · obtain ⟨f, hf, rfl⟩ := Option.map_eq_some_iff.mp h
      exact .pair (frequency?_eq_some_iff.mp hf)
    · obtain rfl := Option.some.inj h
      exact .replacement _ _
    · exact nomatch h
  · intro h
    cases h with
    | word hf => rw [ofFields?, frequency?_eq_some_iff.mpr hf]; rfl
    | offensive hf => rw [ofFields?, if_pos rfl, frequency?_eq_some_iff.mpr hf]; rfl
    | pair hf => rw [ofFields?, frequency?_eq_some_iff.mpr hf]; rfl
    | replacement => rfl

/-- **The forms of a line** without blanks at its ends, and what each says. -/
inductive Says : Text → SourceLine → Prop where
  | empty : Says [] .blank
  | comment (t : Text) : Says ('#' :: t) .blank
  | record {t : Text} {ws : List Text} {s : SourceLine} :
      HasFields isGap t ws → Record ws s → Says t s

/-- The line says `s`, without the blanks at its ends. -/
def Spells (line : Text) (s : SourceLine) : Prop := ∃ t, IsTrimmed t line ∧ Says t s

theorem Record.exists_cons (h : Record ws s) : ∃ c w rest, ws = (c :: w) :: rest ∧ c ≠ '#' := by
  cases h with
  | word | offensive => exact ⟨'w', [], _, rfl, by decide⟩
  | pair => exact ⟨'b', [], _, rfl, by decide⟩
  | replacement => exact ⟨'w', ['l'], _, rfl, by decide⟩

/-- No record is empty or a comment. -/
theorem Record.ne_comment (h : Record ws s) (ht : HasFields isGap t ws) :
    t ≠ [] ∧ ∀ u, t ≠ '#' :: u := by
  obtain ⟨c, w, rest, rfl, hc⟩ := h.exists_cons
  constructor
  · rintro rfl
    exact nomatch ht.fields_eq
  · rintro u rfl
    obtain ⟨v, others, heq⟩ := ht.exists_cons (by decide)
    exact hc (List.cons.inj (List.cons.inj heq).1).1

/-- **A line** without blanks at its ends is read by its form. -/
theorem ofTrimmed?_eq_some_iff : ofTrimmed? t = some s ↔ Says t s := by
  constructor
  · intro h
    unfold ofTrimmed? at h
    split at h
    · obtain rfl := Option.some.inj h
      exact .empty
    · obtain rfl := Option.some.inj h
      exact .comment _
    · exact .record (hasFields_iff.mpr rfl) (ofFields?_eq_some_iff.mp h)
  · intro h
    cases h with
    | empty => rfl
    | comment => rfl
    | record hfields hrecord =>
      obtain ⟨hne, hcomment⟩ := hrecord.ne_comment hfields
      unfold ofTrimmed?
      split
      · exact absurd rfl hne
      · exact absurd rfl (hcomment _)
      · rw [hasFields_iff.mp hfields]
        exact ofFields?_eq_some_iff.mpr hrecord

theorem spells_iff : Spells line s ↔ ofTrimmed? (Text.trim line) = some s := by
  rw [ofTrimmed?_eq_some_iff]
  constructor
  · rintro ⟨t, ht, hsays⟩
    rw [← Text.isTrimmed_iff.mp ht]
    exact hsays
  · exact fun hsays => ⟨_, Text.isTrimmed_trim line, hsays⟩

theorem Spells.unique {s' : SourceLine} (h : Spells line s) (h' : Spells line s') : s = s' :=
  Option.some.inj ((spells_iff.mp h).symm.trans (spells_iff.mp h'))

/-! ### Lines that are written -/

/-- The words of an entry. -/
def words : SourceLine → List Text
  | blank => []
  | word w _ => [w]
  | offensive w _ => [w]
  | pair before next _ => [before, next]
  | replacement typed r => [typed, r]

/-- The frequencies of an entry. -/
def frequencies : SourceLine → List Nat
  | word _ f => [f]
  | offensive _ f => [f]
  | pair _ _ f => [f]
  | _ => []

/-- An entry that a line can say: its words are not empty, hold no tabulator and no space, and have
no blanks at their ends, and its frequencies are bytes. -/
structure Spellable (s : SourceLine) : Prop where
  word : ∀ w ∈ s.words, IsField isGap w ∧ Tight w
  byte : ∀ f ∈ s.frequencies, f ≤ 255

/-- The fields of the line that says an entry. -/
def fields : SourceLine → List Text
  | blank => []
  | word w f => [['w'], w, Text.ofNat f]
  | offensive w f => [['w'], w, Text.ofNat f, "offensive".toList]
  | pair before next f => [['b'], before, next, Text.ofNat f]
  | replacement typed r => [['w', 'l'], typed, r]

/-- The line that says an entry. -/
def spelled (s : SourceLine) : Text := Text.join [' '] s.fields

theorem isBlank_of_isGap {c : Char} (h : isGap c = true) : Text.isBlank c = true := by
  rcases Bool.or_eq_true_iff.mp h with h | h <;> rw [beq_iff_eq.mp h] <;> decide

/-- A text without blanks can be a field, and has none at its ends. -/
theorem isField_of_all (hne : w ≠ []) (h : (w.all fun c => !Text.isBlank c) = true) :
    IsField isGap w ∧ Tight w := by
  have hblank : ∀ c ∈ w, Text.isBlank c = false := by simpa using h
  have hgap : ∀ c ∈ w, isGap c = false := fun c hc => by
    rw [Bool.eq_false_iff]
    intro hgap
    exact Bool.false_ne_true ((hblank c hc).symm.trans (isBlank_of_isGap hgap))
  exact ⟨⟨hne, hgap⟩, fun c hc => hblank c (List.mem_of_mem_head? hc),
    fun c hc => hblank c (List.mem_of_getLast? hc)⟩

theorem isField_ofNat (f : Nat) : IsField isGap (Text.ofNat f) ∧ Tight (Text.ofNat f) := by
  refine isField_of_all Nat.toDigits_ne_nil (List.all_eq_true.mpr fun c hc => ?_)
  have hdigit : c.isDigit = true := Nat.isDigit_of_mem_toDigits (by decide) (by decide) hc
  obtain ⟨hzero, hnine⟩ := Char.isDigit_iff_toNat.mp hdigit
  have h48 : '0'.toNat = 48 := rfl
  have h57 : '9'.toNat = 57 := rfl
  simp [Text.isBlank]
  omega

/-- The fields of the line are the words of the entry, among texts without blanks. -/
theorem Spellable.isField (h : s.Spellable) : ∀ w ∈ s.fields, IsField isGap w ∧ Tight w := by
  have hnil : ∀ w ∈ ([] : List Text), IsField isGap w ∧ Tight w :=
    fun w hw => absurd hw List.not_mem_nil
  have hletters : ∀ tag ∈ [['w'], ['b'], ['w', 'l'], "offensive".toList],
      tag ≠ [] ∧ (tag.all fun c => !Text.isBlank c) = true := by decide
  have htag : ∀ tag ∈ [['w'], ['b'], ['w', 'l'], "offensive".toList],
      IsField isGap tag ∧ Tight tag :=
    fun tag htag => isField_of_all (hletters tag htag).1 (hletters tag htag).2
  have hwords := h.word
  cases s with
  | blank => exact hnil
  | word w f =>
    simp only [fields, List.forall_mem_cons]
    exact ⟨htag _ (by simp), hwords w (by simp [words]), isField_ofNat f, hnil⟩
  | offensive w f =>
    simp only [fields, List.forall_mem_cons]
    exact ⟨htag _ (by simp), hwords w (by simp [words]), isField_ofNat f, htag _ (by simp), hnil⟩
  | pair before next f =>
    simp only [fields, List.forall_mem_cons]
    exact ⟨htag _ (by simp), hwords before (by simp [words]), hwords next (by simp [words]),
      isField_ofNat f, hnil⟩
  | replacement typed r =>
    simp only [fields, List.forall_mem_cons]
    exact ⟨htag _ (by simp), hwords typed (by simp [words]), hwords r (by simp [words]), hnil⟩

/-- The fields of an entry are a record of it. -/
theorem Spellable.record (h : s.Spellable) (hs : s ≠ .blank) : Record s.fields s := by
  have hf := h.byte
  cases s with
  | blank => exact absurd rfl hs
  | word w f => exact .word (isFrequency_ofNat (hf f List.mem_cons_self))
  | offensive w f => exact .offensive (isFrequency_ofNat (hf f List.mem_cons_self))
  | pair before next f => exact .pair (isFrequency_ofNat (hf f List.mem_cons_self))
  | replacement typed r => exact .replacement typed r

/-- **The line that is written** for an entry says it. -/
theorem Spellable.spells (h : s.Spellable) : Spells s.spelled s := by
  have htight : Tight s.spelled :=
    Text.tight_join ' ' fun w hw => ⟨(h.isField w hw).1.1, (h.isField w hw).2⟩
  have hfields : HasFields isGap s.spelled s.fields :=
    Text.hasFields_join (by decide) fun w hw => (h.isField w hw).1
  refine ⟨s.spelled, htight.isTrimmed, ?_⟩
  by_cases hs : s = .blank
  · subst hs
    exact .empty
  · exact .record hfields (h.record hs)

example : spelled (.pair "<S>".toList "je".toList 150) = "b <S> je 150".toList := by decide

/-! ### Lines that are read -/

/-- What a line says, if it says anything. -/
def Means (line : Text) (o : Option SourceLine) : Prop := ∀ s, Spells line s ↔ o = some s

theorem means_ofTrimmed? (line : Text) : Means line (ofTrimmed? (Text.trim line)) :=
  fun _ => spells_iff

end SourceLine

namespace Draft

open CommandLine
open SourceLine (Means Spells)

variable {line : Text} {lines : List Text} {o : Option SourceLine}
  {said : List (Option SourceLine)} {s : SourceLine}

theorem addLine_of_spells (d : Draft) (h : Spells line s) : d.addLine line = .ok (s.addTo d) := by
  rw [addLine, SourceLine.spells_iff.mp h]

/-- The failure to read a line. -/
def malformed (line : Text) : Failure :=
  .invalidData ("malformed dictionary line: ".toList ++ Text.quoted (Text.trim line))

theorem addLine_of_not_spells (d : Draft) (h : ∀ s, ¬ Spells line s) :
    d.addLine line = .error (malformed line) := by
  have hnone : SourceLine.ofTrimmed? (Text.trim line) = none :=
    Option.eq_none_iff_forall_ne_some.mpr fun s hs => h s (SourceLine.spells_iff.mpr hs)
  rw [addLine, hnone]
  rfl

theorem addLine_eq_ok_iff {d d' : Draft} :
    d.addLine line = .ok d' ↔ ∃ s, Spells line s ∧ d' = s.addTo d := by
  by_cases hs : ∃ s, Spells line s
  · obtain ⟨s, hs⟩ := hs
    rw [d.addLine_of_spells hs, Except.ok.injEq]
    constructor
    · rintro rfl
      exact ⟨s, hs, rfl⟩
    · rintro ⟨s', hs', rfl⟩
      rw [hs.unique hs']
  · rw [d.addLine_of_not_spells (not_exists.mp hs)]
    constructor
    · exact fun h => nomatch h
    · exact fun ⟨s, h, _⟩ => absurd ⟨s, h⟩ hs

theorem addLine_eq_error_iff {d : Draft} {e : Failure} :
    d.addLine line = .error e ↔ (∀ s, ¬ Spells line s) ∧ e = malformed line := by
  by_cases hs : ∃ s, Spells line s
  · obtain ⟨s, hs⟩ := hs
    rw [d.addLine_of_spells hs]
    constructor
    · exact fun h => nomatch h
    · exact fun h => absurd hs (h.1 s)
  · rw [d.addLine_of_not_spells (not_exists.mp hs), Except.error.injEq, eq_comm]
    constructor
    · exact fun he => ⟨not_exists.mp hs, he⟩
    · exact fun h => h.2

/-- A line either adds what it says, or it is passed over and leaves the draft as it is. -/
theorem addLine_lenient (h : Means line o) (t : Compile.Tally) : Compile.addLine true t line =
    .ok (match o with
      | some s => { t with draft := s.addTo t.draft, lines := t.lines + 1 }
      | none => { t with skipped := t.skipped + 1 }) := by
  rw [Compile.addLine]
  cases o with
  | none => rw [addLine_of_not_spells t.draft fun s hs => nomatch (h s).mp hs]; rfl
  | some s => rw [addLine_of_spells t.draft ((h s).mpr rfl)]

/-- **Lines in a row** add what they say, one after the other, and those that say nothing are
counted. -/
theorem foldlM_addLine_lenient (h : List.Forall₂ Means lines said) (t : Compile.Tally) :
    lines.foldlM (Compile.addLine true) t = .ok
      { draft := said.reduceOption.foldl (fun d s => s.addTo d) t.draft
        lines := t.lines + said.reduceOption.length
        skipped := t.skipped + said.count none } := by
  induction h generalizing t with
  | nil => rfl
  | @cons line o lines said hline _ ih =>
    rw [List.foldlM_cons, addLine_lenient hline]
    refine (ih _).trans ?_
    cases o with
    | none =>
      rw [List.reduceOption_cons_of_none, List.count_cons_self]
      simp only [Nat.add_assoc, Nat.add_comm 1]
    | some s =>
      rw [List.reduceOption_cons_of_some, List.count_cons_of_ne (by simp)]
      simp only [List.foldl_cons, List.length_cons, Nat.add_assoc, Nat.add_comm 1]

/-- **What a line adds** to a draft. A line is read just if it has one of the forms of a line, and
then adds what it says, which is one thing only. Any other line fails with a message that quotes it
without the blanks at its ends. The line that is written for an entry adds that entry. In a row of
lines, those that cannot be read leave the draft as it is. -/
theorem addLine_exact (d : Draft) (line : Text) :
    (∀ d', d.addLine line = .ok d' ↔ ∃ s, Spells line s ∧ d' = s.addTo d) ∧
    (∀ e, d.addLine line = .error e ↔ (∀ s, ¬ Spells line s) ∧ e = malformed line) ∧
    (∀ s s', Spells line s → Spells line s' → s = s') ∧
    (∀ s : SourceLine, s.Spellable → d.addLine s.spelled = .ok (s.addTo d)) ∧
    ∀ lines : List Text, ∃ said, List.Forall₂ Means lines said ∧
      lines.foldlM (Compile.addLine true) { draft := d } = .ok
        { draft := said.reduceOption.foldl (fun d s => s.addTo d) d
          lines := said.reduceOption.length
          skipped := said.count none } := by
  refine ⟨fun _ => addLine_eq_ok_iff, fun _ => addLine_eq_error_iff, fun s s' h h' => ?_,
    fun s h => ?_, fun lines => ?_⟩
  · exact h.unique h'
  · exact d.addLine_of_spells h.spells
  · have hsaid : List.Forall₂ Means lines
        (lines.map fun line => SourceLine.ofTrimmed? (Text.trim line)) :=
      List.forall₂_map_right_iff.mpr
        (List.forall₂_same.mpr fun line _ => SourceLine.means_ofTrimmed? line)
    refine ⟨_, hsaid, (foldlM_addLine_lenient hsaid _).trans ?_⟩
    rw [Nat.zero_add, Nat.zero_add]

theorem addLine_exact_french :
    let d : Draft := { locale := ⟨"fr".toList⟩ }
    Spells "\u00a0w\t né  +199 \n".toList (.word "né".toList 199) ∧
    d.addLine "\u00a0w\t né  +199 \n".toList = .ok (d.addWord "né".toList 199) ∧
    d.addLine " w broken".toList =
      .error (.invalidData "malformed dictionary line: \"w broken\"".toList) ∧
    SourceLine.Spellable (.replacement "ca".toList "ça".toList) ∧
    d.addLine "wl ca ça".toList = .ok (d.addReplacement "ca".toList "ça".toList) := by
  intro d
  have hspells : Spells "\u00a0w\t né  +199 \n".toList (.word "né".toList 199) :=
    SourceLine.spells_iff.mpr (by decide)
  have hbroken : ∀ s, ¬ Spells " w broken".toList s := fun s hs =>
    absurd (SourceLine.spells_iff.mp hs) (by
      have hnone : SourceLine.ofTrimmed? (Text.trim " w broken".toList) = none := by decide
      rw [hnone]
      exact nofun)
  have hspellable : SourceLine.Spellable (.replacement "ca".toList "ça".toList) := by
    have hletters : ∀ w ∈ ["ca".toList, "ça".toList],
        w ≠ [] ∧ (w.all fun c => !Text.isBlank c) = true := by decide
    exact ⟨fun w hw => SourceLine.isField_of_all (hletters w hw).1 (hletters w hw).2,
      fun f hf => absurd hf List.not_mem_nil⟩
  refine ⟨hspells, ?_, ?_, hspellable, ?_⟩
  · exact ((addLine_exact d _).1 _).mpr ⟨_, hspells, rfl⟩
  · exact ((addLine_exact d _).2.1 _).mpr ⟨hbroken, by decide⟩
  · exact (addLine_exact d []).2.2.2.1 _ hspellable

end Draft

end Typeahead
