import Mathlib.Data.Nat.Bitwise
import Typeahead.Proofs.Text.Ascii
import Typeahead.Proofs.Text.Case

/-! # Lower case is final

A text in lower case has no other lower-case form (`lower_lower`), and a text whose first character
was made lower case has the same lower-case form as before (`lower_decapitalize`). So words that
differ in their case only are told by one form.

Both rest on the tables: no image of a character is mapped again, and a character that is mapped has
a case and is not passed over, and so has its image. These are facts about sets of code points. A
set is read as one number, a bit for each code point (`CodeSet.mask`, `spanMask`), so that sets are
compared at once (`mask_tables`). -/

namespace Typeahead.Text

/-! ### Sets as numbers -/

namespace CodeSet

/-- The set as a number: its bits at the code points of the set are on. Below each change point they
are switched. -/
def mask (s : CodeSet) : Nat := s.pages.flatten.foldl (fun m p => m ^^^ (2 ^ p - 1)) 0

theorem contains_eq (s : CodeSet) (n : Nat) :
    s.contains n = (s.pages.flatten.countP (· ≤ n) % 2 == 1) := by
  have hfold : ∀ (pages : List (List Nat)) (k : Nat),
      pages.foldl (fun k page => k + page.countP (· ≤ n)) k =
        k + pages.flatten.countP (· ≤ n) := by
    intro pages
    induction pages with
    | nil => exact fun k => rfl
    | cons page pages ih =>
      intro k
      rw [List.foldl_cons, ih, List.flatten_cons, List.countP_append, Nat.add_assoc]
  rw [contains, hfold, Nat.zero_add]

/-- **A bit of the number** says whether the code point is in the set. -/
theorem testBit_mask (s : CodeSet) (heven : s.pages.flatten.length % 2 = 0) (n : Nat) :
    s.mask.testBit n = s.contains n := by
  have hfold : ∀ (points : List Nat) (m : Nat),
      (points.foldl (fun m p => m ^^^ (2 ^ p - 1)) m).testBit n =
        (m.testBit n ^^ (points.countP (n < ·) % 2 == 1)) := by
    intro points
    induction points with
    | nil => exact fun m => (Bool.xor_false _).symm
    | cons p points ih =>
      intro m
      rw [List.foldl_cons, ih, Nat.testBit_xor, Nat.testBit_two_pow_sub_one, List.countP_cons]
      have hcases := Nat.mod_two_eq_zero_or_one (points.countP (n < ·))
      by_cases hp : n < p
      · rcases hcases with hc | hc <;>
          cases m.testBit n <;> simp [hp, hc, Nat.add_mod]
      · rcases hcases with hc | hc <;>
          cases m.testBit n <;> simp [hp, hc]
  have hlength : s.pages.flatten.countP (n < ·) + s.pages.flatten.countP (· ≤ n) =
      s.pages.flatten.length := by
    have hcount := List.length_eq_countP_add_countP (fun p => decide (n < p)) (l := s.pages.flatten)
    rw [hcount]
    congr 1
    refine List.countP_congr fun p _ => ?_
    simp
  rw [mask, hfold, Nat.zero_testBit, Bool.false_xor, contains_eq]
  have hparity : s.pages.flatten.countP (n < ·) % 2 = s.pages.flatten.countP (· ≤ n) % 2 := by
    omega
  rw [hparity]

end CodeSet

/-- The code points of some spans as a number: the bits from the first to the last one of each span
are on. -/
def spanMask (spans : List (Nat × Nat)) : Nat :=
  spans.foldl (fun m s => m ||| (2 ^ (s.2 + 1 - s.1) - 1) <<< s.1) 0

theorem testBit_spanMask {spans : List (Nat × Nat)} {n : Nat} {s : Nat × Nat} (hs : s ∈ spans)
    (hfirst : s.1 ≤ n) (hlast : n ≤ s.2) : (spanMask spans).testBit n = true := by
  have hfold : ∀ (spans : List (Nat × Nat)) (m : Nat),
      m.testBit n = true ∨ s ∈ spans →
        (spans.foldl (fun m s => m ||| (2 ^ (s.2 + 1 - s.1) - 1) <<< s.1) m).testBit n = true := by
    intro spans
    induction spans with
    | nil => exact fun m h => h.resolve_right List.not_mem_nil
    | cons t spans ih =>
      intro m h
      rw [List.foldl_cons]
      refine ih _ ?_
      rw [Nat.testBit_or, Bool.or_eq_true]
      rcases h with h | h
      · exact .inl (.inl h)
      · rcases List.mem_cons.mp h with rfl | h
        · refine .inl (.inr ?_)
          rw [Nat.testBit_shiftLeft, Nat.testBit_two_pow_sub_one, Bool.and_eq_true]
          exact ⟨decide_eq_true hfirst, decide_eq_true (by omega)⟩
        · exact .inr h
  exact hfold spans 0 (.inr hs)

/-! ### The characters that have a small form -/

namespace Run

variable {r : Run} {n m : Nat}

/-- The code points of a run, as spans. -/
def spans (r : Run) : List (Nat × Nat) :=
  if r.step = 1 then [(r.first, r.last)]
  else (List.range ((r.last - r.first) / r.step + 1)).map fun i =>
    (r.first + i * r.step, r.first + i * r.step)

/-- The images of a run, as a run. -/
def images (r : Run) : Run :=
  { r with first := r.image, last := r.image + (r.last - r.first) }

theorem exists_span (hfirst : r.first ≤ n) (hlast : n ≤ r.last)
    (hstep : (n - r.first) % r.step = 0) : ∃ s ∈ r.spans, s.1 ≤ n ∧ n ≤ s.2 := by
  unfold spans
  split_ifs with hone
  · exact ⟨_, List.mem_singleton_self _, hfirst, hlast⟩
  · have hn : r.first + (n - r.first) / r.step * r.step = n := by
      have := Nat.div_add_mod (n - r.first) r.step
      rw [hstep, Nat.mul_comm] at this
      omega
    have hle : (n - r.first) / r.step ≤ (r.last - r.first) / r.step :=
      Nat.div_le_div_right (by omega)
    refine ⟨(n, n), List.mem_map.mpr ⟨(n - r.first) / r.step, ?_, ?_⟩, le_rfl, le_rfl⟩
    · exact List.mem_range.mpr (by omega)
    · rw [hn]

theorem get?_eq_some_iff : r.get? n = some m ↔
    r.first ≤ n ∧ n ≤ r.last ∧ (n - r.first) % r.step = 0 ∧ m = r.image + (n - r.first) := by
  unfold get?
  split_ifs with h
  · simp [h, eq_comm]
  · simp only [false_iff]
    exact fun hall => h ⟨hall.1, hall.2.1, hall.2.2.1⟩

theorem exists_imageSpan (h : r.get? n = some m) : ∃ s ∈ r.images.spans, s.1 ≤ m ∧ m ≤ s.2 := by
  obtain ⟨hfirst, hlast, hstep, rfl⟩ := get?_eq_some_iff.mp h
  refine exists_span (by exact Nat.le_add_right _ _) ?_ ?_
  · show r.image + (n - r.first) ≤ r.image + (r.last - r.first)
    omega
  · show (r.image + (n - r.first) - r.image) % r.step = 0
    rwa [Nat.add_sub_cancel_left]

end Run

/-- The code points beyond ASCII that have a single small form, as spans. -/
def lowerSpans : List (Nat × Nat) := lowerRuns.flatMap Run.spans

/-- Their small forms, as spans. -/
def lowerImageSpans : List (Nat × Nat) := lowerRuns.flatMap fun r => r.images.spans

/-- The letters of ASCII, as spans. -/
def asciiSpans : List (Nat × Nat) := [(0x41, 0x5A), (0x61, 0x7A)]

/-- Small forms are characters, none is the one that has a long form, and of ASCII there is only
`k`. -/
theorem lowerRuns_images : lowerRuns.all (fun r =>
    let last := r.image + (r.last - r.first)
    (Nat.blt last 0xD800 || (Nat.blt 0xDFFF r.image && Nat.blt last 0x110000))
      && (Nat.blt last 0x130 || Nat.blt 0x130 r.image)
      && (Nat.ble 0x80 r.image || (r.image == 0x6B && r.last == r.first))) = true := by
  decide +kernel

/-- The characters whose small forms the runs do not tell: a dotted capital, which has a long one,
and the sigmas, of which a capital one is looked at with its neighbours. -/
theorem lowerChar_special :
    (lowerChar '\u0130' = ['i', '\u0307'] ∧ lowerChar '\u0307' = ['\u0307'] ∧
      nextIsCased ['\u0307', 'i'] = nextIsCased ['\u0130']) ∧
    lowerChar '\u03A3' = ['\u03C3'] ∧ lowerChar '\u03C2' = ['\u03C2'] ∧
      lowerChar '\u03C3' = ['\u03C3'] := by
  decide +kernel

/-- **The tables** say the same of all characters that have a small form and of all small forms:
those have one and these have none, and both have a case and are not passed over. -/
theorem mask_tables :
    (cased.pages.flatten.length % 2 = 0 ∧ caseIgnorable.pages.flatten.length % 2 = 0) ∧
    spanMask lowerSpans &&& spanMask lowerImageSpans = 0 ∧
    spanMask (lowerSpans ++ lowerImageSpans) &&& cased.mask =
      spanMask (lowerSpans ++ lowerImageSpans) ∧
    spanMask (asciiSpans ++ lowerSpans ++ lowerImageSpans) &&& caseIgnorable.mask = 0 := by
  decide +kernel

section
variable {c x : Char} {n m : Nat}

/-- The code point lies in one of the spans. -/
def Within (spans : List (Nat × Nat)) (n : Nat) : Prop := ∃ s ∈ spans, s.1 ≤ n ∧ n ≤ s.2

theorem Within.mono {spans spans' : List (Nat × Nat)} (h : Within spans n)
    (hsub : spans ⊆ spans') : Within spans' n := by
  obtain ⟨s, hs, hn⟩ := h
  exact ⟨s, hsub hs, hn⟩

theorem Within.testBit {spans : List (Nat × Nat)} (h : Within spans n) :
    (spanMask spans).testBit n = true := by
  obtain ⟨s, hs, hfirst, hlast⟩ := h
  exact testBit_spanMask hs hfirst hlast

theorem contains_cased (h : Within (lowerSpans ++ lowerImageSpans) n) :
    cased.contains n = true := by
  have hbits := congrArg (Nat.testBit · n) mask_tables.2.2.1
  rw [Nat.testBit_and, h.testBit, Bool.true_and,
    CodeSet.testBit_mask _ mask_tables.1.1] at hbits
  exact hbits

theorem contains_caseIgnorable (h : Within (asciiSpans ++ lowerSpans ++ lowerImageSpans) n) :
    caseIgnorable.contains n = false := by
  have hbits := congrArg (Nat.testBit · n) mask_tables.2.2.2
  rw [Nat.testBit_and, h.testBit, Bool.true_and, CodeSet.testBit_mask _ mask_tables.1.2,
    Nat.zero_testBit] at hbits
  exact hbits

theorem within_of_imageOf (h : imageOf lowerRuns n = some m) :
    Within lowerSpans n ∧ Within lowerImageSpans m := by
  obtain ⟨r, hr, hget⟩ := List.exists_of_findSome?_eq_some h
  obtain ⟨hfirst, hlast, hstep, -⟩ := Run.get?_eq_some_iff.mp hget
  obtain ⟨s, hs, hn⟩ := Run.exists_span hfirst hlast hstep
  obtain ⟨t, ht, hm⟩ := Run.exists_imageSpan hget
  exact ⟨⟨s, List.mem_flatMap.mpr ⟨r, hr, hs⟩, hn⟩, t, List.mem_flatMap.mpr ⟨r, hr, ht⟩, hm⟩

/-- **No small form** has another one. -/
theorem imageOf_of_imageOf (h : imageOf lowerRuns n = some m) : imageOf lowerRuns m = none := by
  rcases hm : imageOf lowerRuns m with _ | k
  · rfl
  · have hbits := congrArg (Nat.testBit · m) mask_tables.2.1
    rw [Nat.testBit_and, (within_of_imageOf hm).1.testBit, (within_of_imageOf h).2.testBit,
      Nat.zero_testBit] at hbits
    exact absurd hbits (by decide)

theorem image_cases (h : imageOf lowerRuns n = some m) :
    m.isValidChar ∧ m ≠ 0x130 ∧ (m < 0x80 → m = 0x6B) := by
  obtain ⟨r, hr, hget⟩ := List.exists_of_findSome?_eq_some h
  obtain ⟨hfirst, hlast, -, rfl⟩ := Run.get?_eq_some_iff.mp hget
  have hall := List.all_eq_true.mp lowerRuns_images r hr
  simp only [Bool.and_eq_true, Bool.or_eq_true, Nat.blt_eq, Nat.ble_eq, beq_iff_eq] at hall
  unfold Nat.isValidChar
  omega

theorem lowerLong_cases {image : List Nat} (h : lowerLong.get? n = some image) :
    n = 0x130 ∧ image = [0x69, 0x307] := by
  obtain ⟨page, hpage, hfind⟩ := List.exists_of_findSome?_eq_some h
  obtain rfl := List.mem_singleton.mp hpage
  unfold Rows.find? at hfind
  split_ifs at hfind
  obtain ⟨row, hrow, hcodes⟩ := List.exists_of_findSome?_eq_some hfind
  obtain rfl := List.mem_singleton.mp hrow
  have hrow : codes 0x000130_000069_000307 = [0x130, 0x69, 0x307] := by decide
  rw [hrow] at hcodes
  replace hcodes : (if 0x130 = n then some [0x69, 0x307] else none) = some image := hcodes
  split_ifs at hcodes with hn
  exact ⟨hn.symm, (Option.some.inj hcodes).symm⟩

theorem toNat_ofNat_of_valid (h : n.isValidChar) : (Char.ofNat n).toNat = n := by
  have hchar : Char.ofNat n = Char.ofNatAux n h := dif_pos h
  rw [hchar]
  rfl

/-- **The small forms of a character**: those of ASCII, the two characters that stand for a dotted
capital, the image in a run, or the character itself. -/
theorem lowerChar_cases (c : Char) :
    c.toNat < 0x80 ∨ c = '\u0130' ∨
      (∃ m, ¬ c.toNat < 0x80 ∧ imageOf lowerRuns c.toNat = some m ∧ lowerChar c = [Char.ofNat m]) ∨
      lowerChar c = [c] := by
  by_cases hc : c.toNat < 0x80
  · exact .inl hc
  · rcases hlong : lowerLong.get? c.toNat with _ | image
    · rcases hrun : imageOf lowerRuns c.toNat with _ | m
      · refine .inr (.inr (.inr ?_))
        rw [lowerChar, if_neg hc, hlong, hrun]
        rfl
      · refine .inr (.inr (.inl ⟨m, hc, rfl, ?_⟩))
        rw [lowerChar, if_neg hc, hlong, hrun]
        rfl
    · refine .inr (.inl ?_)
      rw [← Char.ofNat_toNat c, (lowerLong_cases hlong).1]

theorem lowerChar_ofNat (h : imageOf lowerRuns n = some m) :
    lowerChar (Char.ofNat m) = [Char.ofNat m] := by
  obtain ⟨hvalid, hlong, hascii⟩ := image_cases h
  by_cases hm : m < 0x80
  · rw [hascii hm]
    decide
  · have hnone : lowerLong.get? m = none := by
      rcases hget : lowerLong.get? m with _ | image
      · rfl
      · exact absurd (lowerLong_cases hget).1 hlong
    rw [lowerChar, toNat_ofNat_of_valid hvalid, if_neg hm, hnone, imageOf_of_imageOf h]
    rfl

/-- **A small form is its own small form.** -/
theorem lowerChar_of_mem (hx : x ∈ lowerChar c) : lowerChar x = [x] := by
  obtain hc | rfl | ⟨m, -, hm, himage⟩ | hself := lowerChar_cases c
  · rw [lowerChar_of_lt hc, List.mem_singleton] at hx
    rw [hx, lowerChar_of_lt (toNat_lowerAscii_lt hc), lowerAscii_lowerAscii hc]
  · rw [lowerChar_special.1.1, List.mem_cons, List.mem_singleton] at hx
    rcases hx with rfl | rfl
    · decide
    · exact lowerChar_special.1.2.1
  · rw [himage, List.mem_singleton] at hx
    rw [hx, lowerChar_ofNat hm]
  · rw [hself, List.mem_singleton] at hx
    rw [hx, hself]

theorem ne_sigma_of_mem (hx : x ∈ lowerChar c) : x ≠ '\u03A3' := by
  rintro rfl
  have hfixed := lowerChar_of_mem hx
  rw [lowerChar_special.2.1] at hfixed
  exact absurd hfixed (by decide)

/-! ### What a sigma sees -/

theorem nextIsCased_of_letter (hignored : caseIgnorable.contains c.toNat = false)
    (hcased : isCased c = true) : nextIsCased [c] = true := by
  have hstays : isCaseIgnorable c = false := hignored
  simp [nextIsCased, hstays, hcased]

theorem isCased_of_contains (h : cased.contains c.toNat = true)
    (hascii : c.toNat < 0x80 → c = 'k') : isCased c = true := by
  by_cases hc : c.toNat < 0x80
  · rw [hascii hc]
    decide
  · rw [isCased, if_neg hc, h]

theorem nextIsCased_ascii (hc : c.toNat < 0x80) (h : 'A' ≤ c ∧ c ≤ 'Z') :
    nextIsCased [c] = true ∧ nextIsCased [lowerAscii c] = true := by
  have hall : ∀ n < 0x80, 'A' ≤ Char.ofNat n ∧ Char.ofNat n ≤ 'Z' →
      (0x41 ≤ n ∧ n ≤ 0x5A) ∧ (lowerAscii (Char.ofNat n)).toNat = n + 32 ∧
        isCased (Char.ofNat n) = true ∧ isCased (lowerAscii (Char.ofNat n)) = true := by decide
  rw [← Char.ofNat_toNat c] at h
  obtain ⟨hrange, hsmall, hcased, hcased'⟩ := hall c.toNat hc h
  rw [Char.ofNat_toNat] at hsmall hcased hcased'
  refine ⟨nextIsCased_of_letter (contains_caseIgnorable ?_) hcased,
    nextIsCased_of_letter (contains_caseIgnorable ?_) hcased'⟩
  · exact ⟨(0x41, 0x5A), by simp [asciiSpans], hrange⟩
  · refine ⟨(0x61, 0x7A), by simp [asciiSpans], ?_⟩
    dsimp only
    omega

theorem nextIsCased_image (hc : ¬ c.toNat < 0x80) (h : imageOf lowerRuns c.toNat = some m) :
    nextIsCased [c] = true ∧ nextIsCased [Char.ofNat m] = true := by
  obtain ⟨hspan, himage⟩ := within_of_imageOf h
  obtain ⟨hvalid, -, hascii⟩ := image_cases h
  have hm : (Char.ofNat m).toNat = m := toNat_ofNat_of_valid hvalid
  refine ⟨nextIsCased_of_letter ?_ (isCased_of_contains ?_ fun hlt => absurd hlt hc),
    nextIsCased_of_letter ?_ (isCased_of_contains ?_ fun hlt => ?_)⟩
  · exact contains_caseIgnorable (hspan.mono fun s hs => by simp [hs])
  · exact contains_cased (hspan.mono (List.subset_append_left _ _))
  · rw [hm]
    exact contains_caseIgnorable (himage.mono (List.subset_append_right _ _))
  · rw [hm]
    exact contains_cased (himage.mono (List.subset_append_right _ _))
  · rw [hm] at hlt
    rw [hascii hlt]

/-- **A small form looks like its character** to a sigma after it. -/
theorem nextIsCased_lowerChar (c : Char) :
    nextIsCased (lowerChar c).reverse = nextIsCased [c] := by
  obtain hc | rfl | ⟨m, hc, hm, himage⟩ | hself := lowerChar_cases c
  · rw [lowerChar_of_lt hc]
    by_cases hcapital : 'A' ≤ c ∧ c ≤ 'Z'
    · obtain ⟨hlarge, hsmall⟩ := nextIsCased_ascii hc hcapital
      rw [hlarge]
      exact hsmall
    · rw [lowerAscii, if_neg hcapital]
      rfl
  · rw [lowerChar_special.1.1]
    exact lowerChar_special.1.2.2
  · obtain ⟨hlarge, hsmall⟩ := nextIsCased_image hc hm
    rw [himage, hlarge]
    exact hsmall
  · rw [hself]
    rfl

theorem nextIsCased_append (s t : Text) : nextIsCased (s ++ t) =
    if s.all isCaseIgnorable then nextIsCased t else nextIsCased s := by
  unfold nextIsCased
  induction s with
  | nil => rfl
  | cons a s ih =>
    rw [List.cons_append, List.dropWhile_cons, List.dropWhile_cons, List.all_cons]
    cases isCaseIgnorable a
    · rfl
    · exact ih

/-! ### Whole texts -/

/-- What stands before a text matters only to the first sigma that can see it. -/
theorem lowerFrom_congr {s t : Text} (h : nextIsCased s = nextIsCased t) (u : Text) :
    lowerFrom s u = lowerFrom t u := by
  have hgen : ∀ (u before : Text), lowerFrom (before ++ s) u = lowerFrom (before ++ t) u := by
    intro u
    induction u with
    | nil => exact fun _ => rfl
    | cons a u ih =>
      intro before
      have hsees : smallSigma (before ++ s) u = smallSigma (before ++ t) u := by
        rw [smallSigma, smallSigma, nextIsCased_append, nextIsCased_append, h]
      rw [lowerFrom, lowerFrom, hsees, ← List.cons_append, ← List.cons_append, ih]
  exact hgen u []

/-- Characters that are their own small forms are left. -/
theorem lowerFrom_append_of_fixed {s : Text}
    (h : ∀ a ∈ s, a ≠ '\u03A3' ∧ lowerChar a = [a]) (t : Text) :
    ∀ before, lowerFrom before (s ++ t) = s ++ lowerFrom (s.reverse ++ before) t := by
  induction s with
  | nil => exact fun _ => rfl
  | cons a s ih =>
    intro before
    obtain ⟨hne, hself⟩ := h a List.mem_cons_self
    rw [List.cons_append, lowerFrom, if_neg hne, hself,
      ih fun b hb => h b (List.mem_cons_of_mem a hb), List.reverse_cons, List.append_assoc]
    rfl

theorem fixed_of_mem_lowerFrom {a : Char} (s : Text) : ∀ {before : Text},
    a ∈ lowerFrom before s → a ≠ '\u03A3' ∧ lowerChar a = [a] := by
  induction s with
  | nil => exact fun h => absurd h List.not_mem_nil
  | cons b s ih =>
    intro before h
    rw [lowerFrom, List.mem_append] at h
    rcases h with h | h
    · split_ifs at h
      · rw [List.mem_singleton.mp h]
        unfold smallSigma
        split_ifs
        · exact ⟨by decide, lowerChar_special.2.2.1⟩
        · exact ⟨by decide, lowerChar_special.2.2.2⟩
      · exact ⟨ne_sigma_of_mem h, lowerChar_of_mem h⟩
    · exact ih h

/-- **Lower case is final.** -/
theorem lower_lower (s : Text) : lower (lower s) = lower s := by
  have hfixed := lowerFrom_append_of_fixed
    (fun a (ha : a ∈ lower s) => fixed_of_mem_lowerFrom s ha) [] []
  rwa [List.append_nil, lowerFrom, List.append_nil] at hfixed

theorem length_lowerChar_le (c : Char) : (lowerChar c).length ≤ 2 := by
  obtain hc | rfl | ⟨m, -, -, himage⟩ | hself := lowerChar_cases c
  · rw [lowerChar_of_lt hc]
    exact Nat.le_succ 1
  · rw [lowerChar_special.1.1]
    exact Nat.le_refl 2
  · rw [himage]
    exact Nat.le_succ 1
  · rw [hself]
    exact Nat.le_succ 1

/-- Lower case at most doubles the length. -/
theorem length_lower_le (s : Text) : (lower s).length ≤ 2 * s.length := by
  have hgen : ∀ (s before : Text), (lowerFrom before s).length ≤ 2 * s.length := by
    intro s
    induction s with
    | nil => exact fun _ => Nat.le_refl 0
    | cons c s ih =>
      intro before
      have hrest := ih (c :: before)
      have hfirst : (if c = '\u03A3' then [smallSigma before s] else lowerChar c).length ≤ 2 := by
        split_ifs
        · exact Nat.le_succ 1
        · exact length_lowerChar_le c
      rw [lowerFrom, List.length_append, List.length_cons]
      omega
  exact hgen s []

theorem smallSigma_nil (t : Text) : [smallSigma [] t] = lowerChar '\u03A3' := by
  rw [lowerChar_special.2.1]
  rfl

/-- **A small first letter** makes no difference to the lower-case form. -/
theorem lower_decapitalize (s : Text) : lower (decapitalize s) = lower s := by
  cases s with
  | nil => rfl
  | cons c s =>
    have hfirst : (if c = '\u03A3' then [smallSigma [] s] else lowerChar c) = lowerChar c := by
      split_ifs with hc
      · rw [smallSigma_nil, hc]
      · rfl
    rw [decapitalize, lower, lower, lowerFrom, hfirst, lowerFrom_append_of_fixed
      (fun a ha => ⟨ne_sigma_of_mem ha, lowerChar_of_mem ha⟩), List.append_nil,
      lowerFrom_congr (nextIsCased_lowerChar c)]

/-- A small first letter is final. -/
theorem decapitalize_decapitalize (s : Text) : decapitalize (decapitalize s) = decapitalize s := by
  cases s with
  | nil => rfl
  | cons c s =>
    obtain ⟨a, rest, hform⟩ := List.exists_cons_of_ne_nil (lowerChar_ne_nil c)
    have ha : lowerChar a = [a] := lowerChar_of_mem (hform ▸ List.mem_cons_self)
    rw [decapitalize, hform, List.cons_append, decapitalize, ha]
    rfl

end

end Typeahead.Text
