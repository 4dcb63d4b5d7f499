import Typeahead.Text.Case
import Typeahead.Text.Quoted
import Typeahead.Text.DecompositionTable

/-! # Normal forms

A normal form decomposes every character, sorts the marks behind each starter by their combining
class, and may compose again. Hangul syllables are handled by arithmetic. -/

namespace Typeahead

/-- The four normal forms. -/
inductive NormalForm where
  | nfc
  | nfd
  | nfkc
  | nfkd
  deriving DecidableEq, Repr

namespace Text

/-! ### Decomposition -/

/-- One step of the compatibility decomposition into a single code point. -/
def compatibilityImage (n : Nat) : Option Nat :=
  compatibilityRuns.findSome? fun page => page.findSome? fun row =>
    match codes row with
    | [first, last, step, image] => Run.get? ⟨first, last, step, image⟩ n
    | _ => none

/-- One step of the decomposition of `n`, if it has one. -/
def decompositionStep (compat : Bool) (n : Nat) : Option (List Nat) :=
  if n < 0xA0 then none
  else match pairs.get? n with
    | some image => some image
    | none => match singletons.get? n with
      | some image => some image
      | none =>
        if compat then
          match compatibilityImage n with
          | some image => some [image]
          | none => compatibilityLong.get? n
        else none

/-- The letters of a Hangul syllable. -/
def syllableLetters (n : Nat) : List Nat :=
  let i := n - 0xAC00
  let tail := i % 28
  [0x1100 + i / 588, 0x1161 + i % 588 / 28] ++ (if tail = 0 then [] else [0x11A7 + tail])

/-- The full decomposition of `n`; no chain of steps is longer than the fuel given here. -/
def decomposeCode (compat : Bool) : Nat → Nat → List Nat
  | 0, n => [n]
  | fuel + 1, n =>
    if 0xAC00 ≤ n ∧ n < 0xD7A4 then syllableLetters n
    else match decompositionStep compat n with
      | some image => image.flatMap (decomposeCode compat fuel)
      | none => [n]

/-! ### Order of marks -/

/-- The combining class of a code point. -/
def combiningClass (n : Nat) : Nat :=
  if n < 0x300 then 0
  else (classRuns.findSome? fun page => page.findSome? fun row =>
    match codes row with
    | [first, last, k] => if first ≤ n ∧ n ≤ last then some k else none
    | _ => none).getD 0

/-- Puts `n` behind a text read backwards, in front of the marks of a higher class. -/
def insertMark (n : Nat) : List Nat → List Nat
  | [] => [n]
  | m :: before =>
    if combiningClass n ≠ 0 ∧ combiningClass n < combiningClass m then m :: insertMark n before
    else n :: m :: before

/-- Code points with the marks behind each starter sorted by class, those of one class in place. -/
def orderMarks (ns : List Nat) : List Nat := (ns.foldl (fun acc n => insertMark n acc) []).reverse

/-! ### Composition -/

/-- The code point composed of two, if there is one. -/
def composePair (a b : Nat) : Option Nat :=
  if 0x1100 ≤ a ∧ a < 0x1113 ∧ 0x1161 ≤ b ∧ b < 0x1176 then
    some (0xAC00 + ((a - 0x1100) * 21 + (b - 0x1161)) * 28)
  else if 0xAC00 ≤ a ∧ a < 0xD7A4 ∧ (a - 0xAC00) % 28 = 0 ∧ 0x11A8 ≤ b ∧ b < 0x11C3 then
    some (a + (b - 0x11A7))
  else if b < 0x300 then none
  else pairs.pages.findSome? fun page => page.findSome? fun row =>
    match codes row with
    | [n, a', b'] => if a' = a ∧ b' = b ∧ !noComposite.contains n then some n else none
    | _ => none

/-- What is being composed: the text that is settled and the marks behind the last starter, both
read backwards, with that starter between them. -/
structure Composing where
  settled : List Nat
  starter : Option Nat
  marks : List Nat

namespace Composing

/-- The next code point joins the starter if it can and no mark blocks it. -/
def step (s : Composing) (n : Nat) : Composing :=
  match s.starter with
  | none =>
    if combiningClass n = 0 then { s with starter := some n }
    else { s with settled := n :: s.settled }
  | some a =>
    let blocked := s.marks.head?.any fun m => combiningClass n ≤ combiningClass m
    match if blocked then none else composePair a n with
    | some composed => { s with starter := some composed }
    | none =>
      if combiningClass n = 0 then
        { settled := s.marks ++ a :: s.settled, starter := some n, marks := [] }
      else { s with marks := n :: s.marks }

/-- All code points of a composition. -/
def result (s : Composing) : List Nat :=
  (s.marks ++ s.starter.toList ++ s.settled).reverse

end Composing

/-- Composes ordered code points. -/
def composeCodes (ns : List Nat) : List Nat := (ns.foldl Composing.step ⟨[], none, []⟩).result

end Text

namespace NormalForm

/-- The form replaces characters by their compatible ones. -/
def compat : NormalForm → Bool
  | nfc | nfd => false
  | nfkc | nfkd => true

/-- The form composes again what it has decomposed. -/
def composes : NormalForm → Bool
  | nfc | nfkc => true
  | nfd | nfkd => false

/-- The normal form of a text. An ASCII text is its own. -/
def apply (form : NormalForm) (s : Text) : Text :=
  if s.all (·.toNat < 0x80) then s
  else
    let ns := Text.orderMarks (s.flatMap fun c => Text.decomposeCode form.compat 8 c.toNat)
    (if form.composes then Text.composeCodes ns else ns).map Char.ofNat

end NormalForm

namespace Text

/-- The lower-case form of a text without its combining marks. -/
def stripAccents (s : Text) : Text :=
  lower ((NormalForm.nfd.apply s).filter (!isMark ·))

end Text

end Typeahead
