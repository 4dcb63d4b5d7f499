import Typeahead.Lexicon.Basic

/-! # Drafts of lexicons

A draft collects words, pairs of words and forced replacements in any order, until a lexicon is
built of it. A word that only comes before others is kept aside as mere context, unless it is added
as a word, before or later. -/

namespace Typeahead

/-- A word of a draft. -/
structure DraftEntry where
  frequency : Nat
  offensive : Bool := false
  nextWords : WordMap Nat := []
  deriving DecidableEq, Repr

/-- A lexicon in the making. -/
structure Draft where
  locale : Locale
  words : WordMap DraftEntry := []
  starts : WordMap Nat := []
  contextOnly : WordMap (WordMap Nat) := []
  replacements : WordMap Text := []
  deriving DecidableEq, Repr

namespace Draft

/-- Adds pairs to a map, the greater frequency winning. -/
def merge (more m : WordMap Nat) : WordMap Nat := more.foldl (fun m n => m.raise n.1 n.2) m

/-- Adds a word, the greater frequency winning; what was known of it as mere context goes with
it. -/
def addWord (d : Draft) (w : Text) (f : Nat) : Draft :=
  let pending := (d.contextOnly.get? w).getD []
  { d with
    contextOnly := d.contextOnly.erase w
    words := d.words.alter w fun old =>
      let e := old.getD { frequency := f }
      some { e with frequency := max e.frequency f, nextWords := merge pending e.nextWords } }

/-- Adds a word that may offend. -/
def addOffensive (d : Draft) (w : Text) (f : Nat) : Draft :=
  let d := d.addWord w f
  { d with words := d.words.alter w (·.map fun e => { e with offensive := true }) }

/-- Adds a word that may follow `before`, which may be the tag of a sentence start. -/
def addPair (d : Draft) (before next : Text) (f : Nat) : Draft :=
  let follow (e : DraftEntry) : DraftEntry := { e with nextWords := e.nextWords.raise next f }
  if before = Slot.startTag then { d with starts := d.starts.raise next f }
  else if d.words.has before then { d with words := d.words.alter before (·.map follow) }
  else
    let raised := d.contextOnly.alter before fun old => some (WordMap.raise next f (old.getD []))
    { d with contextOnly := raised }

/-- Adds a replacement forced upon what is typed, in whatever case. -/
def addReplacement (d : Draft) (typed replacement : Text) : Draft :=
  { d with replacements := d.replacements.set (Text.lower typed) replacement }

/-! ### Building -/

/-- Puts a word in front of the first one that is not more frequent. -/
def insertNext (n : NextWord) : List NextWord → List NextWord
  | [] => [n]
  | m :: rest => if m.frequency ≤ n.frequency then n :: m :: rest else m :: insertNext n rest

/-- The words of a map by falling frequency, those of equal frequency in order. -/
def byFrequency (m : WordMap Nat) : List NextWord :=
  (m.map fun (w, f) => (⟨w, f⟩ : NextWord)).foldr insertNext []

/-- The entries of the lexicon. -/
def entries (d : Draft) : List Entry :=
  d.words.map fun (w, e) => ⟨w, e.frequency, e.offensive, byFrequency e.nextWords⟩

/-- The numbers of the entries by the lower-case form of their words. -/
def keyed (es : List Entry) : WordMap (List Nat) :=
  es.zipIdx.foldl
    (fun m (e, i) => m.alter (Text.lower e.word) fun old => some (old.getD [] ++ [i])) []

/-- The index of the lexicon. -/
def index (d : Draft) : Index := (keyed d.entries).zipIdx.map fun ((k, _), i) => (k, i)

/-- The payload of the lexicon. -/
def payload (d : Draft) : Payload where
  locale := d.locale
  entries := d.entries
  buckets := (keyed d.entries).map (·.2)
  starts := byFrequency d.starts
  contextOnly := d.contextOnly.map fun (w, m) => (w, byFrequency m)
  replacements := d.replacements

/-- The lexicon. -/
def build (d : Draft) : Lexicon := ⟨d.index, d.payload⟩

end Draft

end Typeahead
