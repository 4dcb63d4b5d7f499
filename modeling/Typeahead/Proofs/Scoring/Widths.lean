import Typeahead.Proofs.Distance.Exchanges
import Typeahead.Proofs.Scoring
import Typeahead.Proofs.Text.Lower

/-! # Scores in numbers of fixed width

`computed?` is the score with every number held in a fixed width: signed numbers of 32 bits, and of
64 bits where a weight is multiplied by a length. No number may leave its range, also where it is
converted, no divisor may be zero, and a shift has to be shorter than the number. None of this ever
stops the computation (`computed?_eq`), so the exact numbers of `score?` are what it gives. -/

namespace Typeahead.Scoring

variable {typed word : Text} {f g : Nat}

/-! ### Numbers of fixed width -/

/-- What stops a computation in numbers of fixed width. -/
inductive Fault where
  | outOfRange
  | zeroDivisor
  deriving DecidableEq, Repr

/-- `n` as a signed number of `width` bits. -/
def signed (width : Nat) (n : Int) : Except Fault Int :=
  if -2 ^ (width - 1) ≤ n ∧ n < 2 ^ (width - 1) then .ok n else .error .outOfRange

/-- `n` as an unsigned number of `width` bits. -/
def unsigned (width n : Nat) : Except Fault Nat :=
  if n < 2 ^ width then .ok n else .error .outOfRange

/-- The quotient of signed numbers of `width` bits, cut toward zero. -/
def quotient (width : Nat) (n d : Int) : Except Fault Int :=
  if d = 0 then .error .zeroDivisor else signed width (n.tdiv d)

/-- A signed number of `width` bits without its last `places` bits. -/
def shifted (width : Nat) (n : Int) (places : Nat) : Except Fault Int :=
  if places < width then .ok (n >>> places) else .error .outOfRange

@[simp] theorem ok_bind {α β : Type} (a : α) (next : α → Except Fault β) :
    (Except.ok a >>= next) = next a := rfl

theorem signed_of_lt {width : Nat} {n : Int} (hlow : 0 ≤ n) (hhigh : n < 2 ^ (width - 1)) :
    signed width n = .ok n := if_pos ⟨by omega, hhigh⟩

theorem unsigned_of_lt {width n : Nat} (h : n < 2 ^ width) : unsigned width n = .ok n := if_pos h

theorem quotient_of_lt {width n d : Nat} (hd : 0 < d) (h : n / d < 2 ^ (width - 1)) :
    quotient width n d = .ok (n / d : Nat) := by
  rw [quotient, if_neg (by omega), ← Int.ofNat_tdiv]
  exact signed_of_lt (Int.natCast_nonneg _) (by exact_mod_cast h)

theorem shifted_of_lt {width n places : Nat} (h : places < width) :
    shifted width n places = .ok (n / Nat.pow 2 places : Nat) := by
  rw [shifted, if_pos h, Int.shiftRight_eq_div_pow]
  rfl

/-! ### The computation -/

/-- The score of a close word that loses `penalty`. -/
def lessened (weight : Int) (penalty : Nat) : Except Fault Int := do
  let sum ← signed 32 (exactBase + weight)
  signed 32 (sum - penalty)

/-- The score of a word of `whole` characters of which `part` were typed. -/
def shared (weight : Int) (part whole : Nat) : Except Fault Int := do
  let part ← signed 64 part
  let whole ← signed 64 (max whole 1 : Nat)
  let product ← signed 64 (weight * part)
  let ratio ← quotient 64 product whole
  signed 32 ratio

/-- The score of a word that is `d` slips away. -/
def halved (weight : Int) (d : Nat) : Except Fault Int := do
  let sum ← signed 32 (correctionBase + weight)
  shifted 32 sum (d - 1)

/-- How `word`, of the given frequency, answers `typed`, computed in numbers of fixed width. -/
def computed? (typed word : Text) (frequency : Nat) : Except Fault (Option Match) :=
  if typed.isEmpty || word.isEmpty then return none
  else do
    let weight ← signed 32 (frequency * frequencyUnit)
    let t := Text.lower typed
    let w := Text.lower word
    if word = typed then
      let score ← signed 32 (exactBase + weight)
      return some ⟨score, appropriate.set Kind.exactFlag⟩
    else if w = t then
      let score ← lessened weight casePenalty
      return some ⟨score, appropriate⟩
    else if Text.stripAccents w = Text.stripAccents t then
      let score ← lessened weight accentPenalty
      return some ⟨score, appropriate.set Kind.accentsFlag⟩
    else if t.isPrefixOf w then
      let score ← shared weight t.length w.length
      return some ⟨score, ⟨Kind.completion⟩⟩
    else
      let d ← unsigned 32 (typingDistance t w)
      if d = 0 || reach t.length < d then return none
      else
        let score ← halved weight d
        return some ⟨score, appropriate⟩

/-! ### Nothing leaves its range -/

theorem signed_weight (h : f ≤ 255) : signed 32 (f * frequencyUnit) = .ok (weight f : Int) := by
  have hweight := weight_le h
  show signed 32 (weight f : Int) = _
  exact signed_of_lt (Int.natCast_nonneg _) (by omega)

section
variable {w : Nat} (hw : w ≤ 1020000)
include hw

theorem signed_exactBase : signed 32 (exactBase + w) = .ok (exactBase + w : Int) :=
  signed_of_lt (by omega) (by simp only [exactBase]; omega)

theorem lessened_eq {penalty : Nat} (h : penalty ≤ exactBase) :
    lessened w penalty = .ok (exactBase + w - penalty : Int) := by
  rw [lessened, signed_exactBase hw, ok_bind]
  exact signed_of_lt (by omega) (by simp only [exactBase]; omega)

theorem shared_eq {part whole : Nat} (hpart : part ≤ whole) (hwhole : whole < 2 ^ 32) :
    shared w part whole = .ok (w * part / max whole 1 : Nat) := by
  have hproduct : w * part ≤ w * max whole 1 := Nat.mul_le_mul_left _ (by omega)
  have hratio : w * part / max whole 1 ≤ w := Nat.div_le_of_le_mul (by rwa [Nat.mul_comm _ w])
  have hlarge : w * part ≤ 1020000 * 2 ^ 32 := Nat.mul_le_mul hw (by omega)
  rw [shared, signed_of_lt (Int.natCast_nonneg part) (by omega), ok_bind,
    signed_of_lt (Int.natCast_nonneg (max whole 1)) (by omega), ok_bind, ← Int.natCast_mul,
    signed_of_lt (Int.natCast_nonneg (w * part)) (by omega), ok_bind,
    quotient_of_lt (by omega) (by omega), ok_bind]
  exact signed_of_lt (Int.natCast_nonneg _) (by omega)

theorem halved_eq {d : Nat} (hd : d ≤ 2) :
    halved w d = .ok ((correctionBase + w) / Nat.pow 2 (d - 1) : Nat) := by
  rw [halved, ← Int.natCast_add, signed_of_lt (Int.natCast_nonneg _)
    (by simp only [correctionBase]; omega), ok_bind]
  exact shifted_of_lt (by omega)

end

theorem reach_le_two (n : Nat) : reach n ≤ 2 := by
  unfold reach
  split_ifs <;> omega

theorem typingDistance_le_max (a b : Text) : typingDistance a b ≤ max a.length b.length := by
  rw [Distance.typingDistance_eq_slips]
  exact Nat.le_trans (Distance.slips_le_edits ..) (Distance.edits_le_max ..)

/-- **Numbers of fixed width suffice** for texts of less than two billions of characters. -/
theorem computed?_eq (h : f ≤ 255) (htyped : typed.length < 2 ^ 31)
    (hword : word.length < 2 ^ 31) : computed? typed word f = .ok (score? typed word f) := by
  have hw := weight_le h
  have ht := Text.length_lower_le typed
  have hwhole := Text.length_lower_le word
  have hdistance := typingDistance_le_max (Text.lower typed) (Text.lower word)
  have hunsigned : unsigned 32 (typingDistance (Text.lower typed) (Text.lower word)) = .ok _ :=
    unsigned_of_lt (by omega)
  simp only [computed?, score?, signed_weight h, hunsigned, ok_bind]
  split_ifs with hempty hexact hcase haccents hprefix hd
  · rfl
  · rw [signed_exactBase hw]
    rfl
  · rw [lessened_eq hw (by decide)]
    rfl
  · rw [lessened_eq hw (by decide)]
    rfl
  · rw [shared_eq hw (List.isPrefixOf_iff_prefix.mp hprefix).length_le (by omega)]
    rfl
  · rfl
  · have hreach := reach_le_two (Text.lower typed).length
    simp only [Bool.or_eq_true, decide_eq_true_eq, not_or, Nat.not_lt] at hd
    rw [halved_eq hw (by omega)]
    rfl

/-! ### All of it -/

/-- **What scores are like.** Whether a word is offered, and as what, is told without its frequency.
The score grows with the frequency and stays between zero and the score of the most frequent word
typed exactly; numbers of fixed width suffice for all that is computed, as long as the distance of
the texts is one of 32 bits. Of two words of one frequency the one that is closer to what was typed
scores higher: the typed word above its forms in another case, these above those with other accents,
and these above completions and corrections. -/
theorem scores_by_closeness (typed word : Text) :
    (∀ f g, (score? typed word f).map (·.kind) = (score? typed word g).map (·.kind)) ∧
    (∀ f g m n, f ≤ g → score? typed word f = some m → score? typed word g = some n →
      m.score ≤ n.score) ∧
    (∀ f m, f ≤ 255 → score? typed word f = some m → 0 ≤ m.score ∧ m.score ≤ 2020000) ∧
    (∀ f, f ≤ 255 → typed.length < 2 ^ 31 → word.length < 2 ^ 31 →
      computed? typed word f = .ok (score? typed word f)) ∧
    (∀ other f m n, closeness typed other < closeness typed word →
      score? typed word f = some m → score? typed other f = some n → n.score < m.score) := by
  refine ⟨fun f g => ?_, fun f g m n hfg hm hn => ?_, fun f m hf hm => ?_,
    fun f hf ht hw => computed?_eq hf ht hw, fun other f m n hcloser hm hn => ?_⟩
  · rw [score?_eq, score?_eq, Option.map_map, Option.map_map]
    rfl
  · rw [score?_eq, Option.map_eq_some_iff] at hm hn
    obtain ⟨l, hl, rfl⟩ := hm
    obtain ⟨l', hl', rfl⟩ := hn
    obtain rfl : l = l' := Option.some.inj (hl.symm.trans hl')
    exact l.score_mono hfg
  · rw [score?_eq, Option.map_eq_some_iff] at hm
    obtain ⟨l, -, rfl⟩ := hm
    exact ⟨l.score_nonneg f, l.score_le hf⟩
  · rw [score?_eq, Option.map_eq_some_iff] at hm hn
    obtain ⟨l, hl, rfl⟩ := hm
    obtain ⟨l', hl', rfl⟩ := hn
    rw [closeness_eq hl, closeness_eq hl'] at hcloser
    exact Likeness.score_lt f hcloser

/-- A word with another accent, rare and frequent, and a word in another case. -/
theorem scores_by_closeness_accents :
    let typed := ['n', 'e']
    let accented := ['n', '\u00E9']
    let capital := ['N', 'e']
    let rare : Match := ⟨1390000, appropriate.set Kind.accentsFlag⟩
    let frequent : Match := ⟨1790000, appropriate.set Kind.accentsFlag⟩
    let capitalized : Match := ⟨1795000, appropriate⟩
    (score? typed accented 100 = some rare ∧ score? typed accented 200 = some frequent ∧
        rare.score ≤ frequent.score) ∧
      (200 ≤ 255 ∧ 0 ≤ frequent.score ∧ frequent.score ≤ 2020000) ∧
      (typed.length < 2 ^ 31 ∧ accented.length < 2 ^ 31 ∧
        computed? typed accented 200 = .ok (some frequent)) ∧
      (closeness typed accented < closeness typed capital ∧
        score? typed capital 200 = some capitalized ∧
        frequent.score < capitalized.score) := by
  intro typed accented capital rare frequent capitalized
  have haccents : likeness? typed accented = some .otherAccents := by decide +kernel
  have hcase : likeness? typed capital = some .otherCase := by decide +kernel
  have hrare : score? typed accented 100 = some rare := by rw [score?_eq, haccents]; rfl
  have hfrequent : score? typed accented 200 = some frequent := by rw [score?_eq, haccents]; rfl
  have hcapital : score? typed capital 200 = some capitalized := by rw [score?_eq, hcase]; rfl
  have hcloser : closeness typed accented < closeness typed capital := by
    rw [closeness_eq haccents, closeness_eq hcase]
    decide
  obtain ⟨-, hmono, hbounds, hwidths, -⟩ := scores_by_closeness typed accented
  obtain ⟨-, -, -, -, horder⟩ := scores_by_closeness typed capital
  refine ⟨⟨hrare, hfrequent, hmono 100 200 _ _ (by decide) hrare hfrequent⟩,
    ⟨by decide, hbounds 200 _ (by decide) hfrequent⟩, ⟨by decide, by decide, ?_⟩,
    hcloser, hcapital, horder accented 200 _ _ hcloser hcapital hfrequent⟩
  rw [hwidths 200 (by decide) (by decide) (by decide), hfrequent]

end Typeahead.Scoring
