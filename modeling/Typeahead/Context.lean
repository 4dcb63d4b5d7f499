import Typeahead.Text.Basic

/-! # Contexts

A context is a window over the words before the cursor, the newest first. A slot of it holds a word,
the start of a sentence, or no information. Contexts are compared by what they say: slots without
information at the old end do not count, nor does the size of the window.

* `Context.next` puts a word in front and drops what leaves the window.
* `Context.changeAfterStart` replaces the first word of a sentence. -/

namespace Typeahead

/-- One slot of a context. -/
inductive Slot where
  | nothing
  | sentenceStart
  | word (w : Text)
  deriving DecidableEq, Repr

namespace Slot

/-- The word of a slot; a sentence start is known to hold none. -/
def word? : Slot → Option Text
  | nothing => none
  | sentenceStart => some []
  | word w => some w

/-- The slot holds information. -/
def isKnown : Slot → Bool
  | nothing => false
  | _ => true

/-- The slot is a sentence start. -/
def isStart : Slot → Bool
  | sentenceStart => true
  | _ => false

/-- The tag that stands for a sentence start in flattened contexts. -/
def startTag : Text := ['<', 'S', '>']

/-- What a slot adds to a flattened context. -/
def shown? : Slot → Option Text
  | nothing => none
  | sentenceStart => some startTag
  | word w => if w.isEmpty then none else some w

instance : Hashable Slot where
  hash
    | nothing => 0
    | sentenceStart => 1
    | word w => mixHash 2 (hash (String.ofList w))

end Slot

/-- The words before the cursor, the newest first, with the size of the window. -/
structure Context where
  window : Nat
  slots : List Slot
  deriving DecidableEq, Repr

namespace Context

/-- The size of the window unless another is asked for. -/
def defaultWindow : Nat := 3

/-- A context of the given slots, cut to the window. -/
def ofSlots (window : Nat) (slots : List Slot) : Context := ⟨window, slots.take window⟩

/-- A context with one slot without information. -/
def empty (window : Nat) : Context := ofSlots window [.nothing]

/-- The context at the start of a sentence. -/
def start : Context := ofSlots defaultWindow [.sentenceStart]

/-- The context after one more word. -/
def next (c : Context) (s : Slot) : Context := ⟨c.window, (s :: c.slots).take c.window⟩

/-- Replaces the word `a` by `b` in slots given oldest first, at the first place where it follows a
sentence start; `after` says whether a sentence start comes before them. -/
def changeFrom (a b : Text) : Bool → List Slot → Option (List Slot)
  | _, [] => none
  | after, s :: rest =>
    if after && s.word? = some a then some (.word b :: rest)
    else (changeFrom a b s.isStart rest).map (s :: ·)

/-- Replaces the oldest word `a` that follows a sentence start by `b`; `none` if there is none. -/
def changeAfterStart? (c : Context) (a b : Text) : Option Context :=
  (changeFrom a b false c.slots.reverse).map fun slots => { c with slots := slots.reverse }

/-- The texts that the slots add to the flattened context, the oldest first. -/
def shownWords (c : Context) : List Text := c.slots.reverse.filterMap Slot.shown?

/-- The context as one text, the oldest word first. -/
def flatten (c : Context) : Text := Text.join [' '] c.shownWords

/-- The newest slot holds information. -/
def isKnown (c : Context) : Bool := c.slots.head?.any Slot.isKnown

/-- The newest slot is a sentence start. -/
def isStart (c : Context) : Bool := c.slots.head?.any Slot.isStart

/-- The slot `n` places back, the newest being the first. -/
def slot? (c : Context) (n : Nat) : Option Slot := if n = 0 then none else c.slots[n - 1]?

/-- The word `n` places back. -/
def word? (c : Context) (n : Nat) : Option Text := (c.slot? n).bind Slot.word?

/-- The slot `n` places back is a sentence start. -/
def isStartAt (c : Context) (n : Nat) : Bool := (c.slot? n).any Slot.isStart

/-- The number of slots that hold information. -/
def knownCount (c : Context) : Nat := c.slots.countP Slot.isKnown

/-- The slots without those at the old end that hold no information. -/
def significant (c : Context) : List Slot := (c.slots.reverse.dropWhile (!·.isKnown)).reverse

/-- Two contexts say the same. -/
def same (c d : Context) : Bool := c.significant == d.significant

instance : Hashable Context := ⟨fun c => hash c.significant⟩

/-- The description of one slot, `i` being its place. -/
def describeSlot (i : Nat) (s : Slot) : Text :=
  let head := "PrevWord[".toList ++ Text.ofNat i ++ "]: ".toList
  match s.word? with
  | none => head ++ "Empty. ".toList
  | some w => head ++ w ++ ", isBeginningOfSentence: ".toList
      ++ (if s.isStart then "true" else "false").toList ++ ". ".toList

/-- A description of the slots for readers of a log, the newest first. -/
def describe (c : Context) : Text := (c.slots.zipIdx.map fun (s, i) => describeSlot i s).flatten

end Context

end Typeahead
