import Typeahead.Proofs.Composer.Statistics

/-! # Taking back keys

Keys that are pressed and as many deletions after them leave the word as it was, and so everything
that is said of it (`inputs_pressed_deleted`). The touch points are another matter. A deletion takes
one away only if there are more of them than characters left, so that the number that stays after
many deletions depends on both (`inputs_deleted`). With a touch point for every character before, as
after nothing but typing, those of the keys are taken away again and no others (`key_undone_iff`).
With fewer, as when the word was not typed but set, the touch points of keys that were taken back
stay, until there are as many as characters. -/

namespace Typeahead.Composer

variable {c : Composer}

/-- The composer with another word, its counts, and other touch points. -/
def holding (c : Composer) (w : Text) (ps : List Pointer) : Composer :=
  { c.withWord w with pointers := ps }

@[simp] theorem word_holding (w : Text) (ps : List Pointer) : (c.holding w ps).word = w := rfl

@[simp] theorem pointers_holding (w : Text) (ps : List Pointer) :
    (c.holding w ps).pointers = ps := rfl

theorem holding_holding (c : Composer) (w w' : Text) (ps ps' : List Pointer) :
    (c.holding w ps).holding w' ps' = c.holding w' ps' := rfl

theorem counted_holding (c : Composer) (w : Text) (ps : List Pointer) : (c.holding w ps).Counted :=
  rfl

theorem Counted.eq_holding (h : c.Counted) : c = c.holding c.word c.pointers := by
  rw [holding, withWord, ← show c.counts = .of c.word from h]

theorem inputs_append (c : Composer) (is js : List Input) :
    c.inputs (is ++ js) = (c.inputs is).inputs js := List.foldl_append

/-! ### Keys -/

/-- A key: its character and its place. -/
structure Key where
  char : Char
  x : Int
  y : Int
  deriving DecidableEq, Repr

/-- Keys are pressed one after another. -/
def pressed (ks : List Key) : List Input := ks.map fun k => .key k.char k.x k.y

/-- The touch points of keys, counted from `n`. -/
def touches (n : Nat) : List Key → List Pointer
  | [] => []
  | k :: ks => ⟨k.x, k.y, 0, n⟩ :: touches (n + 1) ks

theorem length_touches : ∀ (n : Nat) (ks : List Key), (touches n ks).length = ks.length
  | _, [] => rfl
  | n, _ :: ks => congrArg Nat.succ (length_touches (n + 1) ks)

/-- **Keys** append their characters and their touch points. -/
theorem inputs_pressed : ∀ (ks : List Key) {c : Composer}, c.Counted → c.inputs (pressed ks) =
    c.holding (c.word ++ ks.map (·.char)) (c.pointers ++ touches c.pointers.length ks)
  | [], c, h => by
    rw [List.map_nil, touches, List.append_nil, List.append_nil, ← h.eq_holding]
    rfl
  | k :: ks, c, _ => by
    have hrest := inputs_pressed ks (c := c.add k.char k.x k.y) rfl
    have hword : (c.add k.char k.x k.y).word = c.word ++ [k.char] := rfl
    have hpointers : (c.add k.char k.x k.y).pointers =
      c.pointers ++ [⟨k.x, k.y, 0, c.pointers.length⟩] := rfl
    rw [hword, hpointers, List.length_append, List.append_assoc, List.append_assoc] at hrest
    exact hrest

/-! ### Deletions -/

/-- The last characters are deleted. -/
def deleted (n : Nat) : List Input := List.replicate n .delete

/-- Of `p` touch points and `l` characters, the touch points that `n` deletions leave: each takes
one away if there are more than characters left. -/
def remaining (p l n : Nat) : Nat := max (p - n) (min p (l - n))

theorem remaining_le (p l n : Nat) : remaining p l n ≤ p := by unfold remaining; omega

theorem remaining_zero (p l : Nat) : remaining p l 0 = p := by unfold remaining; omega

theorem remaining_one (p l : Nat) : remaining p l 1 = if l - 1 < p then p - 1 else p := by
  unfold remaining
  split_ifs <;> omega

theorem remaining_succ (p l n : Nat) :
    remaining (remaining p l 1) (l - 1) n = remaining p l (n + 1) := by
  rw [remaining_one, remaining, remaining, Nat.sub_sub l 1 n, Nat.add_comm 1 n]
  split_ifs with hmore
  · have hmin : min (p - 1) (l - (n + 1)) = min p (l - (n + 1)) := by omega
    rw [hmin, Nat.sub_sub, Nat.add_comm 1 n]
  · -- both bounds are below what the characters allow
    have hmin : p - n ≤ min p (l - (n + 1)) := by omega
    have hmin' : p - (n + 1) ≤ min p (l - (n + 1)) := by omega
    rw [Nat.max_eq_right hmin, Nat.max_eq_right hmin']

theorem remaining_add (p l n : Nat) : remaining (p + n) (l + n) n = max p (min (p + n) l) := by
  rw [remaining, Nat.add_sub_cancel, Nat.add_sub_cancel]

/-- **One deletion** in a word that is not empty. -/
theorem deleteLast_eq_holding (h : c.word ≠ []) : c.deleteLast = (true,
    c.holding c.word.dropLast (c.pointers.take (remaining c.pointers.length c.word.length 1))) := by
  have hempty : c.word.isEmpty = false := by simpa using h
  rw [deleteLast, hempty, remaining_one]
  show (true, c.holding _ _) = _
  congr 2
  rw [List.length_dropLast]
  split_ifs
  · exact List.dropLast_eq_take
  · exact (List.take_length ..).symm

/-- **Deletions** take away the last characters. The touch points become as few as there are
characters left, or fewer where there were fewer before; but none goes without a deletion. -/
theorem inputs_deleted : ∀ {n : Nat} {c : Composer}, c.Counted → n ≤ c.word.length →
    c.inputs (deleted n) = c.holding (c.word.take (c.word.length - n))
      (c.pointers.take (remaining c.pointers.length c.word.length n))
  | 0, c, h, _ => by
    rw [remaining_zero, Nat.sub_zero, List.take_length, List.take_length, ← h.eq_holding]
    rfl
  | n + 1, c, h, hn => by
    have hne : c.word ≠ [] := List.ne_nil_of_length_pos (by omega)
    have hlength : (c.word.take (c.word.length - 1)).length = c.word.length - 1 :=
      List.length_take_of_le (by omega)
    have hleft := List.length_take_of_le (remaining_le c.pointers.length c.word.length 1)
    show c.deleteLast.2.inputs (deleted n) = _
    rw [deleteLast_eq_holding hne, List.dropLast_eq_take,
      inputs_deleted (counted_holding ..) (by rw [word_holding, hlength]; omega), holding_holding,
      word_holding, pointers_holding, hlength, hleft, remaining_succ, List.take_take,
      List.take_take, Nat.min_eq_left (by omega), Nat.sub_sub, Nat.add_comm 1 n, Nat.min_eq_left]
    rw [← remaining_succ]
    exact remaining_le _ _ _

/-! ### Keys and deletions -/

/-- **Taking back keys**: the word is what it was, and so is everything but the touch points. Of
those there are as many as before, or else as many as characters, or all there ever were. -/
theorem inputs_pressed_deleted (h : c.Counted) (ks : List Key) :
    c.inputs (pressed ks ++ deleted ks.length) = { c with
      pointers := (c.pointers ++ touches c.pointers.length ks).take
        (max c.pointers.length (min (c.pointers.length + ks.length) c.word.length)) } := by
  have hword : (c.word ++ ks.map (·.char)).length = c.word.length + ks.length := by simp
  have hpointers : (c.pointers ++ touches c.pointers.length ks).length =
      c.pointers.length + ks.length := by
    rw [List.length_append, length_touches]
  rw [inputs_append, inputs_pressed ks h, inputs_deleted (counted_holding ..) (by simp),
    holding_holding]
  simp only [word_holding, pointers_holding, hword, hpointers, remaining_add, Nat.add_sub_cancel]
  rw [List.take_left' rfl, holding, withWord, ← show c.counts = .of c.word from h]

/-- **When a deletion undoes a key**: after any inputs, a key and a deletion leave the word, the
counts and whatever else a composer is asked about as they were. They leave the touch points as they
were exactly if there are at least as many as characters, which holds after nothing but typing. With
fewer the touch point of the key stays, and so do those of any keys that are taken back, until there
are as many as characters. -/
theorem key_undone_iff (is : List Input) (ch : Char) (x y : Int) :
    let c := inputs {} is
    let back := (c.add ch x y).deleteLast
    back.1 = true ∧ back.2 = { c with pointers := back.2.pointers } ∧
      (back.2 = c ↔ c.word.length ≤ c.pointers.length) ∧
      ((∀ i ∈ is, i.IsTyping) → back.2 = c) ∧
      (c.pointers.length < c.word.length →
        back.2.pointers = c.pointers ++ [⟨x, y, 0, c.pointers.length⟩]) ∧
      ∀ ks : List Key, c.inputs (pressed ks ++ deleted ks.length) = { c with
        pointers := (c.pointers ++ touches c.pointers.length ks).take
          (max c.pointers.length (min (c.pointers.length + ks.length) c.word.length)) } := by
  intro c back
  have h : c.Counted := counted_inputs is counted_new
  have hback : back.2 = { c with
      pointers := (c.pointers ++ touches c.pointers.length [⟨ch, x, y⟩]).take
        (max c.pointers.length (min (c.pointers.length + 1) c.word.length)) } :=
    inputs_pressed_deleted h [⟨ch, x, y⟩]
  have hundone (hcovered : c.word.length ≤ c.pointers.length) : back.2 = c := by
    rw [hback, Nat.max_eq_left (by omega), List.take_left' rfl]
  have hstays (hfewer : c.pointers.length < c.word.length) :
      back.2.pointers = c.pointers ++ touches c.pointers.length [⟨ch, x, y⟩] := by
    rw [hback]
    refine List.take_of_length_le ?_
    rw [List.length_append, length_touches, List.length_singleton]
    omega
  refine ⟨?_, ?_, ⟨fun heq => ?_, hundone⟩, fun his => ?_, hstays, inputs_pressed_deleted h⟩
  · rw [← Bool.not_eq_false, deleteLast_eq_false_iff]
    exact List.append_ne_nil_of_right_ne_nil c.word (List.cons_ne_nil ch [])
  · rw [hback]
  · by_contra hfewer
    have hlength := congrArg List.length ((hstays (Nat.lt_of_not_le hfewer)).symm.trans
      (congrArg Composer.pointers heq))
    rw [List.length_append, length_touches, List.length_singleton] at hlength
    omega
  · have hkeyed : c.Keyed := Keyed.inputs is (c := {}) rfl his
    exact hundone (Nat.le_of_eq hkeyed.length_eq.symm)

/-- Typed keys are undone; so is one after a gesture with a long trace, in a composer that was not
only typed in. -/
theorem key_undone_typed :
    let typed : List Input := [.key 'a' 1 1, .key 'b' 2 1, .delete]
    let swept : List Input := [.setBatchPointers [⟨1, 1, 0, 0⟩, ⟨5, 1, 0, 9⟩], .setBatchWord ['a']]
    (∀ i ∈ typed, i.IsTyping) ∧ (((inputs {} typed).add 'c' 5 6).deleteLast.2 = inputs {} typed) ∧
      ((inputs {} swept).add 'c' 5 6).deleteLast.2 = inputs {} swept := by
  intro typed swept
  have htyping : ∀ i ∈ typed, i.IsTyping := by decide
  exact ⟨htyping, (key_undone_iff typed 'c' 5 6).2.2.2.1 htyping,
    (key_undone_iff swept 'c' 5 6).2.2.1.mpr (by decide)⟩

/-- **A touch point that stays**: in a word that was set, the one key that was pressed and taken
back leaves its touch point. -/
theorem touch_point_stays :
    let c := inputs {} [.setWord ['a', 'b']]
    let back := (c.add 'c' 5 6).deleteLast.2
    c.pointers = [] ∧ back.word = c.word ∧ back.pointers = [⟨5, 6, 0, 0⟩] ∧ back ≠ c := by
  decide

end Typeahead.Composer
