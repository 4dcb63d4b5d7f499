import Typeahead.Proofs.Context
import Typeahead.Proofs.Context.AfterStart
import Typeahead.Proofs.Engine.Groups
import Typeahead.Proofs.Store.Teaching
import Typeahead.Proofs.Text.Case

/-! # The lessons of a text

A word that is committed is a `Lesson` for a history: a form of the word is counted, in the row of
the word before. Which lesson it is (`Group.firstLesson?`) and what becomes of the pending
respelling and of the context (`Group.respells`) is settled when it is committed, so that a whole
text can be read as a list of lessons before any of them is learned (`Group.lessons`).

Only the first word of a text can begin a sentence. Each later one follows the word before it as
that was written (`Group.followUps`), but for the second one, whose row a pending respelling may
change (`rowKey?_respelled_next`). -/

namespace Typeahead

/-! ### Words that follow one another -/

/-- The row that a word makes for the word after it, in a window of some size. -/
def Context.rowAfter (window : Nat) (w : Text) : Option Text := if window = 0 then none else some w

namespace Context

variable {c : Context} {w : Text} {m : Nat}

theorem slots_next_of_window (h : c.window = m + 1) (s : Slot) :
    (c.next s).slots = s :: c.slots.take m := by
  rw [next, h, List.take_succ_cons]

theorem slots_next_of_window_zero (h : c.window = 0) (s : Slot) : (c.next s).slots = [] := by
  rw [next, h, List.take_zero]

theorem rowKey?_of_word {l : List Slot} (hl : c.slots = .word w :: l) (hw : w ≠ []) :
    Tables.rowKey? c = some w := by
  have hstart : c.isStart = false := by rw [isStart, hl]; rfl
  have hword : c.word? 1 = some w := by
    rw [word?, slot?, if_neg Nat.one_ne_zero, hl]
    rfl
  rw [Tables.rowKey?, hstart, if_neg Bool.false_ne_true, hword, Option.filter_some,
    if_pos (by simpa using hw)]

theorem rowKey?_of_nil (hl : c.slots = []) : Tables.rowKey? c = none := by
  have hstart : c.isStart = false := by rw [isStart, hl]; rfl
  have hword : c.word? 1 = none := by
    rw [word?, slot?, if_neg Nat.one_ne_zero, hl]
    rfl
  rw [Tables.rowKey?, hstart, if_neg Bool.false_ne_true, hword]
  rfl

theorem window_cases (c : Context) : c.window = 0 ∨ ∃ m, c.window = m + 1 := by
  cases c.window with
  | zero => exact .inl rfl
  | succ m => exact .inr ⟨m, rfl⟩

theorem rowKey?_next (hw : w ≠ []) (c : Context) :
    Tables.rowKey? (c.next (.word w)) = rowAfter c.window w := by
  obtain hm | ⟨m, hm⟩ := c.window_cases
  · rw [rowKey?_of_nil (slots_next_of_window_zero hm (.word w)), rowAfter, if_pos hm]
  · rw [rowKey?_of_word (slots_next_of_window hm (.word w)) hw, rowAfter, if_neg (by omega)]

theorem isStart_next_word (c : Context) (w : Text) : (c.next (.word w)).isStart = false := by
  rw [isStart_eq, slotAt_next, if_pos rfl]
  split_ifs <;> rfl

end Context

/-- A respelling as it is made of a word. -/
structure Respelling.Regular (s : Respelling) : Prop where
  written : s.written ≠ []
  learned : s.learned = Text.decapitalize s.written

theorem Respelling.Regular.learned_ne_nil {s : Respelling} (h : s.Regular) : s.learned ≠ [] := by
  rw [h.learned]
  exact fun hnil => h.written (Text.decapitalize_eq_nil_iff.mp hnil)

namespace Engine

open Context

variable {p : Option Respelling} {s : Respelling} {c : Context} {w : Text}

/-- **A pending respelling** changes the context, or it is dropped. -/
theorem respelled_cases (p : Option Respelling) (c : Context) :
    (respelled p c = (c, none) ∧ ∀ s ∈ p, openings s.written c.slots = 0) ∨
      ∃ s l, p = some s ∧ changeOldest s.written s.learned c.slots = some l ∧
        respelled p c = ({ c with slots := l }, p) := by
  rcases p with _ | s
  · exact .inl ⟨rfl, fun s hs => nomatch hs⟩
  · unfold respelled
    dsimp only
    rw [changeAfterStart?_eq]
    rcases hl : changeOldest s.written s.learned c.slots with _ | l
    · refine .inl ⟨rfl, fun s' hs' => ?_⟩
      obtain rfl := Option.some.inj hs'
      exact changeOldest_eq_none_iff.mp hl
    · exact .inr ⟨s, l, rfl, hl, rfl⟩

/-- A respelling leaves the window and its sentence starts. -/
theorem respelled_keeps (hp : ∀ s ∈ p, s.Regular) (c : Context) :
    (respelled p c).1.window = c.window ∧ (respelled p c).1.isStart = c.isStart := by
  obtain ⟨heq, -⟩ | ⟨s, l, rfl, hl, heq⟩ := respelled_cases p c
  · rw [heq]
    exact ⟨rfl, rfl⟩
  · rw [heq]
    refine ⟨rfl, ?_⟩
    have hstarts := starts_changeOldest (hp s rfl).written hl
    show startsFirst l = startsFirst c.slots
    rw [startsFirst_eq, startsFirst_eq, hstarts]

theorem regular_of_respelled (hp : ∀ s ∈ p, s.Regular) : ∀ s ∈ (respelled p c).2, s.Regular := by
  obtain ⟨heq, -⟩ | ⟨s, l, -, -, heq⟩ := respelled_cases p c
  · rw [heq]
    exact fun s hs => nomatch hs
  · rw [heq]
    exact hp

/-- **The row of the second word** of a text, while a respelling is pending: it is respelled where
it opens the only sentence that the word opens. -/
theorem rowKey?_respelled_next (hs : s.Regular) (hw : w ≠ []) (c : Context) :
    Tables.rowKey? (respelled (some s) (c.next (.word w))).1 =
      if s.written = w ∧ startsFirst (c.slots.take (c.window - 1)) = true ∧
          openings w (c.slots.take (c.window - 1)) = 0
      then some s.learned else rowAfter c.window w := by
  obtain hm | ⟨m, hm⟩ := c.window_cases
  · -- nothing fits into the window
    have hslots := slots_next_of_window_zero hm (.word w)
    have hrow : Tables.rowKey? (respelled (some s) (c.next (.word w))).1 = none := by
      obtain ⟨heq, -⟩ | ⟨s', l, -, hl, -⟩ := respelled_cases (some s) (c.next (.word w))
      · rw [heq]
        exact rowKey?_of_nil hslots
      · rw [hslots] at hl
        exact nomatch hl
    have hstart : startsFirst (c.slots.take (c.window - 1)) = false := by
      rw [hm]
      rfl
    rw [hrow, if_neg fun h => Bool.false_ne_true (hstart.symm.trans h.2.1), rowAfter, if_pos hm]
  · have hslots := slots_next_of_window hm (.word w)
    have hafter : rowAfter c.window w = some w := if_neg (by omega)
    rw [hafter, hm, Nat.add_sub_cancel]
    obtain ⟨heq, hnone⟩ | ⟨s', l, hs', hl, heq⟩ := respelled_cases (some s) (c.next (.word w))
    · rw [heq, rowKey?_of_word hslots hw]
      have hzero := hnone s rfl
      rw [hslots, openings] at hzero
      refine (if_neg fun h => ?_).symm
      have hopens : opensWith s.written (.word w) (c.slots.take m) = true := by
        rw [opensWith, h.2.1, h.1]
        simp [Slot.word?]
      rw [if_pos hopens] at hzero
      omega
    · obtain rfl := Option.some.inj hs'
      rw [heq]
      rw [hslots, changeOldest] at hl
      split at hl
      · next older hc =>
        obtain rfl := Option.some.inj hl
        rw [rowKey?_of_word rfl hw]
        refine (if_neg fun h => ?_).symm
        rw [h.1, changeOldest_eq_none_iff.mpr h.2.2] at hc
        exact absurd hc (Option.some_ne_none older).symm
      · next hc =>
        split_ifs at hl with hopens
        obtain rfl := Option.some.inj hl
        rw [rowKey?_of_word rfl hs.learned_ne_nil]
        have hwritten : w = s.written := Option.some.inj (word?_of_opensWith hopens)
        refine (if_pos ⟨hwritten.symm, (Bool.and_eq_true_iff.mp hopens).1, ?_⟩).symm
        rw [hwritten]
        exact changeOldest_eq_none_iff.mp hc

/-- Behind a word that begins no sentence, no respelling reaches the row. -/
theorem rowKey?_respelled_next_of_not_isStart (hp : ∀ s ∈ p, s.Regular) (hc : c.isStart = false)
    (hw : w ≠ []) :
    Tables.rowKey? (respelled p (c.next (.word w))).1 = rowAfter c.window w := by
  have hstart : startsFirst (c.slots.take (c.window - 1)) = false := by
    cases c.window - 1 with
    | zero => rfl
    | succ m =>
      rw [startsFirst, List.head?_take, if_neg (Nat.succ_ne_zero m)]
      exact hc
  rcases p with _ | s
  · exact rowKey?_next hw c
  · rw [rowKey?_respelled_next (hp s rfl) hw,
      if_neg fun h => Bool.false_ne_true (hstart.symm.trans h.2.1)]

end Engine

/-! ### The lessons of a text -/

namespace Group

variable {g g' : Group} {block first auto : Bool} {time window : Nat} {row : Option Text}
  {p : Option Respelling} {c : Context} {w : Text}

/-- The frequency of a word in the main dictionary, -1 if it is unknown there. -/
def mainFrequency (g : Group) (w : Text) : Int := (g.main.map (·.frequency w)).getD (-1)

/-- The word is not learned, since it may be offensive. -/
def blocks (g : Group) (block : Bool) (w : Text) : Bool := g.mainFrequency w = 0 && block

/-- The form in which a word is learned; `first` says whether it begins a sentence. -/
def formOf (g : Group) (first : Bool) (w : Text) : Text := (Engine.learnedForm g none first w).1

/-- The lesson that a word is, unless it is blocked. -/
def lesson? (g : Group) (block : Bool) (time : Nat) (row : Option Text) (first : Bool) (w : Text) :
    Option Lesson :=
  if g.blocks block w then none else some ⟨row, g.formOf first w, 0 < g.mainFrequency w, time⟩

/-- The pending respelling after a word, and the context as it was respelled for it. -/
def respells (g : Group) (block : Bool) (p : Option Respelling) (c : Context) (auto : Bool)
    (w : Text) : Option Respelling × Context :=
  if g.blocks block w then (p, c)
  else
    let r := Engine.respelled p c
    ((Engine.learnedForm g r.2 (auto || r.1.isStart) w).2, r.1)

/-- The lessons of words that follow one another, the first one in a given row. -/
def followUps (g : Group) (block : Bool) (time window : Nat) :
    Option Text → List Text → List Lesson
  | _, [] => []
  | row, w :: ws => (g.lesson? block time row false w).toList
      ++ followUps g block time window (Context.rowAfter window w) ws

/-- The lesson of the word that is committed first. -/
def firstLesson? (g : Group) (block : Bool) (time : Nat) (p : Option Respelling) (c : Context)
    (auto : Bool) (w : Text) : Option Lesson :=
  let c' := (Engine.respelled p c).1
  g.lesson? block time (Tables.rowKey? c') (auto || c'.isStart) w

/-- The lessons of words, the second of which is learned in the context `second` of the first. -/
def lessonsIn (g : Group) (block : Bool) (time : Nat) (p : Option Respelling) (c : Context)
    (auto : Bool) (second : Text → Context) : List Text → List Lesson
  | [] => []
  | w :: ws => (g.firstLesson? block time p c auto w).toList
      ++ g.followUps block time c.window (Tables.rowKey? (second w)) ws

/-- The context of the second word of a text that is committed at once: what the first word was
learned in was respelled for it. -/
def secondContext (g : Group) (block : Bool) (p : Option Respelling) (c : Context) (auto : Bool)
    (w : Text) : Context :=
  let r := g.respells block p c auto w
  (Engine.respelled r.1 (r.2.next (.word w))).1

/-- The lessons of a text that is committed at once. -/
def lessons (g : Group) (block : Bool) (time : Nat) (p : Option Respelling) (c : Context)
    (auto : Bool) (ws : List Text) : List Lesson :=
  g.lessonsIn block time p c auto (g.secondContext block p c auto) ws

theorem learnedForm_fst (g : Group) (p : Option Respelling) (first : Bool) (w : Text) :
    (Engine.learnedForm g p first w).1 = g.formOf first w := by
  unfold formOf Engine.learnedForm
  dsimp only
  split_ifs <;> rfl

/-- A word that does not begin a sentence leaves the pending respelling. -/
theorem learnedForm_snd (g : Group) (p : Option Respelling) (first : Bool) (w : Text) :
    (Engine.learnedForm g p first w).2 = p ∨
      first = true ∧ (Engine.learnedForm g p first w).2 = some ⟨w, Text.decapitalize w⟩ := by
  unfold Engine.learnedForm
  dsimp only
  split_ifs
  · exact .inl rfl
  · exact .inr ⟨‹_›, rfl⟩
  · exact .inl rfl
  · exact .inl rfl

theorem formOf_mem (g : Group) (first : Bool) (w : Text) :
    g.formOf first w ∈ [w, Text.decapitalize w, Text.lower w] :=
  Engine.learnedForm_mem g none first w

theorem formOf_ne_nil (hw : w ≠ []) : g.formOf first w ≠ [] := by
  have hmem := g.formOf_mem first w
  simp only [List.mem_cons, List.not_mem_nil, or_false] at hmem
  rcases hmem with h | h | h
  · rwa [h]
  · rw [h]
    exact fun hnil => hw (Text.decapitalize_eq_nil_iff.mp hnil)
  · rw [h]
    exact fun hnil => hw (Text.lower_eq_nil_iff.mp hnil)

/-- Within a sentence the main dictionary alone decides what is learned. -/
theorem lesson?_congr (h : g'.main = g.main) (w : Text) :
    g'.lesson? block time row false w = g.lesson? block time row false w := by
  have hfrequency : g'.mainFrequency w = g.mainFrequency w := by
    rw [mainFrequency, h, mainFrequency]
  have hform : g'.formOf false w = g.formOf false w := by
    simp only [formOf, Engine.learnedForm, h, Bool.false_eq_true, if_false]
  rw [lesson?, blocks, hfrequency, hform]
  rfl

theorem followUps_congr (h : g'.main = g.main) (ws : List Text) : ∀ row,
    g'.followUps block time window row ws = g.followUps block time window row ws := by
  induction ws with
  | nil => exact fun _ => rfl
  | cons w ws ih =>
    intro row
    rw [followUps, followUps, lesson?_congr h, ih]

/-! The row of a lesson is never that of the empty word. -/

theorem firstLesson?_of_not_isStart (hp : ∀ s ∈ p, s.Regular) (hc : c.isStart = false)
    (g : Group) (block : Bool) (time : Nat) (w : Text) :
    g.firstLesson? block time p c false w =
      g.lesson? block time (Tables.rowKey? (Engine.respelled p c).1) false w := by
  rw [firstLesson?, (Engine.respelled_keeps hp c).2, hc]
  rfl

theorem row_of_lesson? {l : Lesson} (hl : l ∈ g.lesson? block time row first w) : l.row = row := by
  unfold lesson? at hl
  split_ifs at hl
  · exact nomatch hl
  · rw [← Option.some.inj hl]

theorem rowAfter_ne (hw : w ≠ []) : Context.rowAfter window w ≠ some [] := by
  unfold Context.rowAfter
  split_ifs
  · exact nofun
  · exact fun hnil => hw (Option.some.inj hnil)

theorem row_ne_of_mem_followUps {ws : List Text} (hws : ∀ w ∈ ws, w ≠ []) : ∀ {row : Option Text},
    row ≠ some [] → ∀ l ∈ g.followUps block time window row ws, l.row ≠ some [] := by
  induction ws with
  | nil => exact fun _ l hl => absurd hl List.not_mem_nil
  | cons w ws ih =>
    intro row hrow l hl
    obtain hl | hl := List.mem_append.mp hl
    · rw [row_of_lesson? (Option.mem_toList.mp hl)]
      exact hrow
    · exact ih (fun v hv => hws v (List.mem_cons_of_mem w hv))
        (rowAfter_ne (hws w List.mem_cons_self)) l hl

theorem row_ne_of_mem_lessonsIn {ws : List Text} (hws : ∀ w ∈ ws, w ≠ []) (g : Group)
    (block : Bool) (time : Nat) (p : Option Respelling) (c : Context) (auto : Bool)
    (second : Text → Context) :
    ∀ l ∈ g.lessonsIn block time p c auto second ws, l.row ≠ some [] := by
  cases ws with
  | nil => exact fun l hl => absurd hl List.not_mem_nil
  | cons w ws =>
    intro l hl
    obtain hl | hl := List.mem_append.mp hl
    · rw [row_of_lesson? (Option.mem_toList.mp hl)]
      exact Tables.rowKey?_ne _
    · exact row_ne_of_mem_followUps (fun v hv => hws v (List.mem_cons_of_mem w hv))
        (Tables.rowKey?_ne _) l hl

/-- **What a word leaves** for the next one: a regular respelling, and a context with the same
window and the same start. -/
theorem respells_keeps (hp : ∀ s ∈ p, s.Regular) (hw : w ≠ []) (g : Group) (block : Bool)
    (c : Context) (auto : Bool) :
    (∀ s ∈ (g.respells block p c auto w).1, s.Regular) ∧
      (g.respells block p c auto w).2.window = c.window ∧
      (g.respells block p c auto w).2.isStart = c.isStart := by
  unfold respells
  split_ifs
  · exact ⟨hp, rfl, rfl⟩
  · dsimp only
    refine ⟨?_, Engine.respelled_keeps hp c⟩
    obtain h | ⟨-, h⟩ := learnedForm_snd g (Engine.respelled p c).2
      (auto || (Engine.respelled p c).1.isStart) w
    · rw [h]
      exact Engine.regular_of_respelled hp
    · rw [h]
      intro s hs
      obtain rfl := Option.some.inj hs
      exact ⟨hw, rfl⟩

end Group

end Typeahead
