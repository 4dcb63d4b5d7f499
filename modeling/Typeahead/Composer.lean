import Typeahead.Keyboard
import Typeahead.Text.Case
import Typeahead.Text.Quoted

/-! # The composer

The word that is being composed, key by key or by a gesture. The composer keeps counts of capitals
and digits next to the word, so that they need not be counted at each request; `Counts.of` says what
they count. -/

namespace Typeahead

/-- One touch point: place, finger and time. -/
structure Pointer where
  x : Int
  y : Int
  finger : Int
  time : Int
  deriving DecidableEq, Repr

/-- What a composer keeps count of in its word. -/
structure Counts where
  capitals : Nat
  digits : Nat
  firstOnly : Bool
  deriving DecidableEq, Repr, Inhabited

namespace Counts

/-- The counts of a word: its capitals, its digits, and whether its first letter is the only
capital. -/
def of (w : Text) : Counts :=
  let capitals := w.countP Text.isUpper
  ⟨capitals, w.countP Text.isNumeric, capitals == 1 && w.head?.any Text.isUpper⟩

end Counts

/-- The word that is being composed. -/
structure Composer where
  word : Text := []
  pointers : List Pointer := []
  counts : Counts := ⟨0, 0, false⟩
  caps : CapsMode := .off
  batch : Bool := false
  resumed : Bool := false
  rejected : Option Text := none
  deriving DecidableEq, Repr, Inhabited

namespace Composer

/-- A composer with the word `w` and its counts. -/
def withWord (c : Composer) (w : Text) : Composer := { c with word := w, counts := .of w }

/-- The composer after the key of `ch` was pressed at a place. -/
def add (c : Composer) (ch : Char) (x y : Int) : Composer :=
  { c.withWord (c.word ++ [ch]) with
    pointers := c.pointers ++ [⟨x, y, 0, c.pointers.length⟩] }

/-- The composer after the last character was deleted, and whether there was one. A touch point goes
with it when there are more of them than characters left. -/
def deleteLast (c : Composer) : Bool × Composer :=
  if c.word.isEmpty then (false, c)
  else
    let w := c.word.dropLast
    (true, { c.withWord w with
      pointers := if w.length < c.pointers.length then c.pointers.dropLast else c.pointers })

/-- The composer with another word and no touch points. -/
def setWord (c : Composer) (w : Text) : Composer := { c.withWord w with pointers := [] }

/-- The composer with the word decoded from a gesture. -/
def setBatchWord (c : Composer) (w : Text) : Composer := { c.withWord w with batch := true }

/-- The composer with the trace of a gesture. -/
def setBatchPointers (c : Composer) (ps : List Pointer) : Composer :=
  { c with pointers := ps, batch := true }

/-- A composer that holds `w` as if it had been typed. -/
def ofWord (w : Text) : Composer := setWord {} w

/-- There is a word. -/
def isComposing (c : Composer) : Bool := !c.word.isEmpty

/-- The word has a digit. -/
def hasDigits (c : Composer) : Bool := 0 < c.counts.digits

/-- The word has more than one capital. -/
def isMostlyCaps (c : Composer) : Bool := 1 < c.counts.capitals

/-- The word is in capitals; for a word of at most one letter a lock decides. -/
def isAllUpper (c : Composer) : Bool :=
  if c.word.length ≤ 1 then c.caps.isLocked else c.counts.capitals == c.word.length

/-- The word was started with shift held for one letter. -/
def wasShifted (c : Composer) : Bool := c.caps.isOneShot

/-- The word was started in a shift state that the keyboard chose. -/
def wasAutoCapitalized (c : Composer) : Bool := c.caps.isAutomatic

/-- The first letter alone is a capital, or will be once there is a word. -/
def isFirstCapital (c : Composer) : Bool :=
  if c.isComposing then c.counts.firstOnly else c.caps != .off

/-! ### Input -/

/-- Something that happens to a composer. -/
inductive Input where
  | key (c : Char) (x y : Int)
  | delete
  | setWord (w : Text)
  | setBatchWord (w : Text)
  | setBatchPointers (ps : List Pointer)
  | setCaps (caps : CapsMode)
  | setResumed (resumed : Bool)
  | setRejected (rejected : Option Text)
  | reset
  deriving DecidableEq, Repr

/-- The composer after an input. -/
def input (c : Composer) : Input → Composer
  | .key ch x y => c.add ch x y
  | .delete => c.deleteLast.2
  | .setWord w => c.setWord w
  | .setBatchWord w => c.setBatchWord w
  | .setBatchPointers ps => c.setBatchPointers ps
  | .setCaps caps => { c with caps }
  | .setResumed resumed => { c with resumed }
  | .setRejected rejected => { c with rejected }
  | .reset => {}

/-- The composer after several inputs. -/
def inputs (c : Composer) (is : List Input) : Composer := is.foldl input c

end Composer

end Typeahead
