import Mathlib.Data.List.Basic
import Mathlib.Tactic.SplitIfs
import Typeahead.Context

/-! # Words that open a sentence

A word opens a sentence where it stands in the slot after a sentence start. A change of a context
concerns the oldest such place (`changeAfterStart?_eq`), and there is one exactly if some sentence
is opened (`changeOldest_eq_none_iff`). Sentence starts stay where they are (`starts_changeOldest`).
Of the sentences that the word opened, one is gone after the change, also for a reader who sees the
newest slots only, unless the place lies behind these (`openings_take_changeOldest`). -/

namespace Typeahead.Context

variable {a b w : Text} {s : Slot} {older l l' : List Slot}

/-- The newest of some slots is a sentence start. -/
def startsFirst (l : List Slot) : Bool := l.head?.any Slot.isStart

/-- The slot with the slots before it opens a sentence with the word. -/
def opensWith (a : Text) (s : Slot) (older : List Slot) : Bool :=
  startsFirst older && s.word? = some a

theorem word?_of_opensWith (h : opensWith a s older = true) : s.word? = some a :=
  of_decide_eq_true (Bool.and_eq_true_iff.mp h).2

/-- The number of sentences that the word opens in slots given newest first. -/
def openings (a : Text) : List Slot → Nat
  | [] => 0
  | s :: older => (if opensWith a s older then 1 else 0) + openings a older

/-- Replaces the word `a` by `b` where it opens a sentence for the first time, in slots given newest
first. -/
def changeOldest (a b : Text) : List Slot → Option (List Slot)
  | [] => none
  | s :: older =>
    match changeOldest a b older with
    | some older => some (s :: older)
    | none => if opensWith a s older then some (.word b :: older) else none

/-- A change that looks at one more slot, the newest. -/
theorem changeFrom_concat (a b : Text) (s : Slot) : ∀ (l : List Slot) (after : Bool),
    changeFrom a b after (l ++ [s]) =
      match changeFrom a b after l with
      | some l => some (l ++ [s])
      | none => if (l.getLast?.map Slot.isStart).getD after && s.word? = some a
          then some (l ++ [.word b]) else none := by
  intro l
  induction l with
  | nil =>
    intro after
    show (if after && s.word? = some a then some [Slot.word b] else none) = _
    rfl
  | cons t l ih =>
    intro after
    have hlast : ((t :: l).getLast?.map Slot.isStart).getD after =
        (l.getLast?.map Slot.isStart).getD t.isStart := by
      rw [List.getLast?_cons]
      cases l.getLast? <;> rfl
    rw [List.cons_append, changeFrom, changeFrom, hlast, ih]
    by_cases ht : (after && t.word? = some a) = true
    · rw [if_pos ht, if_pos ht]
      rfl
    · rw [if_neg ht, if_neg ht]
      cases changeFrom a b t.isStart l with
      | some l => rfl
      | none =>
        dsimp only [Option.map_none]
        rw [apply_ite (Option.map _)]
        rfl

/-- **A change** concerns the oldest place. -/
theorem changeFrom_reverse (a b : Text) (l : List Slot) :
    changeFrom a b false l.reverse = (changeOldest a b l).map List.reverse := by
  induction l with
  | nil => rfl
  | cons s older ih =>
    have hstart : (older.reverse.getLast?.map Slot.isStart).getD false = startsFirst older := by
      rw [List.getLast?_reverse, startsFirst]
      cases older.head? <;> rfl
    rw [List.reverse_cons, changeFrom_concat, ih, hstart, changeOldest]
    cases changeOldest a b older with
    | some older => simp
    | none =>
      show (if opensWith a s older then _ else _) =
        Option.map _ (if opensWith a s older then _ else _)
      split_ifs <;> simp

theorem changeAfterStart?_eq (c : Context) (a b : Text) : c.changeAfterStart? a b =
    (changeOldest a b c.slots).map fun l => { c with slots := l } := by
  rw [changeAfterStart?, changeFrom_reverse, Option.map_map]
  congr 1
  funext l
  rw [Function.comp_apply, List.reverse_reverse]

theorem changeOldest_eq_none_iff : changeOldest a b l = none ↔ openings a l = 0 := by
  induction l with
  | nil => exact ⟨fun _ => rfl, fun _ => rfl⟩
  | cons s older ih =>
    rw [changeOldest, openings]
    cases hc : changeOldest a b older with
    | some older' =>
      have hsome : openings a older ≠ 0 := fun hzero => by
        rw [ih.mpr hzero] at hc
        exact nomatch hc
      simp [hsome]
    | none =>
      rw [ih.mp hc]
      split_ifs <;> simp

/-- **Sentence starts stay** where they are. -/
theorem starts_changeOldest (ha : a ≠ []) (h : changeOldest a b l = some l') :
    l'.map Slot.isStart = l.map Slot.isStart := by
  induction l generalizing l' with
  | nil => exact nomatch h
  | cons s older ih =>
    rw [changeOldest] at h
    split at h
    · next older' hc =>
      obtain rfl := Option.some.inj h
      rw [List.map_cons, List.map_cons, ih hc]
    · split_ifs at h with hopens
      obtain rfl := Option.some.inj h
      have hword := word?_of_opensWith hopens
      have hs : s.isStart = false := by
        cases s with
        | nothing => rfl
        | word w => rfl
        | sentenceStart => exact absurd (Option.some.inj hword).symm ha
      rw [List.map_cons, List.map_cons, hs]
      rfl

theorem startsFirst_eq (l : List Slot) : startsFirst l = (l.map Slot.isStart).head?.getD false := by
  cases l <;> rfl

theorem startsFirst_changeOldest (ha : a ≠ []) (h : changeOldest a b l = some l') (n : Nat) :
    startsFirst (l'.take n) = startsFirst (l.take n) := by
  rw [startsFirst_eq, startsFirst_eq, List.map_take, List.map_take, starts_changeOldest ha h]

/-- No more sentences are seen than there are. -/
theorem openings_take_le (a : Text) (l : List Slot) : ∀ n,
    openings a (l.take n) ≤ openings a l := by
  induction l with
  | nil => exact fun n => Nat.le_of_eq (congrArg (openings a) List.take_nil)
  | cons s older ih =>
    intro n
    cases n with
    | zero => exact Nat.zero_le _
    | succ n =>
      have hfirst : opensWith a s (older.take n) = true → opensWith a s older = true := by
        cases n with
        | zero => exact fun h => nomatch h
        | succ n => cases older <;> exact id
      have hrest := ih n
      rw [List.take_succ_cons, openings, openings]
      split_ifs with hseen hthere
      · omega
      · exact absurd (hfirst hseen) hthere
      · omega
      · omega

theorem opensWith_take_succ (a : Text) (s : Slot) (older : List Slot) (n : Nat) :
    opensWith a s (older.take (n + 1)) = opensWith a s older := by
  cases older <;> rfl

theorem opensWith_changeOldest (ha : a ≠ []) (h : changeOldest a b l = some l') (w : Text)
    (s : Slot) (n : Nat) : opensWith w s (l'.take n) = opensWith w s (l.take n) := by
  rw [opensWith, startsFirst_changeOldest ha h, opensWith]

/-- **A sentence less**: after a change, the word opens one sentence less, if the place is among the
newest slots. -/
theorem openings_take_changeOldest (ha : a ≠ []) (hb : b ≠ a)
    (h : changeOldest a b l = some l') : ∀ n, openings a (l'.take n) =
      if openings a (l.take n) = openings a l then openings a l - 1
      else openings a (l.take n) := by
  induction l generalizing l' with
  | nil => exact nomatch h
  | cons s older ih =>
    have hpos : openings a (s :: older) ≠ 0 := fun hzero => by
      rw [changeOldest_eq_none_iff.mpr hzero] at h
      exact nomatch h
    rw [changeOldest] at h
    intro n
    obtain _ | n := n
    · show 0 = if 0 = openings a (s :: older) then _ else 0
      rw [if_neg fun hzero => hpos hzero.symm]
    split at h
    · next older' hc =>
      obtain rfl := Option.some.inj h
      have hrest := ih hc n
      have hsome : openings a older ≠ 0 := fun hzero => by
        rw [changeOldest_eq_none_iff.mpr hzero] at hc
        exact nomatch hc
      rw [List.take_succ_cons, List.take_succ_cons, openings, openings, openings,
        opensWith_changeOldest ha hc, hrest]
      obtain _ | n := n
      · -- the slot before the newest one is not seen
        show 0 + (if 0 = openings a older then _ else 0) =
          if 0 + 0 = _ + openings a older then _ else 0 + 0
        rw [if_neg fun hzero => hsome hzero.symm, if_neg (by omega)]
      · rw [opensWith_take_succ]
        split_ifs <;> omega
    · next hc =>
      split_ifs at h with hopens
      obtain rfl := Option.some.inj h
      have hnone : openings a older = 0 := changeOldest_eq_none_iff.mp hc
      have hseen : openings a (older.take n) = 0 :=
        Nat.le_zero.mp (hnone ▸ openings_take_le a older n)
      have hword : opensWith a (.word b) (older.take n) = false := by
        simp [opensWith, Slot.word?, hb]
      rw [List.take_succ_cons, List.take_succ_cons, openings, openings, openings, hword, hseen,
        hnone, if_pos hopens, if_neg Bool.false_ne_true]
      obtain _ | n := n
      · rfl
      · rw [opensWith_take_succ, if_pos hopens, if_pos rfl]

/-- Other words open the sentences that they did. -/
theorem openings_changeOldest_of_ne (ha : a ≠ []) (hwa : w ≠ a) (hwb : w ≠ b)
    (h : changeOldest a b l = some l') : ∀ n,
    openings w (l'.take n) = openings w (l.take n) := by
  induction l generalizing l' with
  | nil => exact nomatch h
  | cons s older ih =>
    rw [changeOldest] at h
    intro n
    obtain _ | n := n
    · rfl
    split at h
    · next older' hc =>
      obtain rfl := Option.some.inj h
      rw [List.take_succ_cons, List.take_succ_cons, openings, openings,
        opensWith_changeOldest ha hc, ih hc]
    · split_ifs at h with hopens
      obtain rfl := Option.some.inj h
      rw [List.take_succ_cons, List.take_succ_cons, openings, openings, opensWith, opensWith,
        word?_of_opensWith hopens]
      simp [Slot.word?, Ne.symm hwa, Ne.symm hwb]

end Typeahead.Context
