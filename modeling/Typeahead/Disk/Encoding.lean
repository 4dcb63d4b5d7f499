import Typeahead.Codec
import Typeahead.Provider

/-! # Files as texts

What the files of a data directory hold is written as text. The ending of a file's name says which
codec reads it; whatever that cannot read is left as the text that it is. -/

namespace Typeahead

namespace Codec

/-- A word that may follow another. -/
def nextWord : Codec NextWord :=
  (pair text nat).map (fun (word, frequency) => ⟨word, frequency⟩) fun n => (n.word, n.frequency)

/-- A word of a lexicon. -/
def entry : Codec Entry :=
  (pair (pair text nat) (pair bool (list nextWord))).map
    (fun ((word, frequency), offensive, nextWords) => ⟨word, frequency, offensive, nextWords⟩)
    fun e => ((e.word, e.frequency), e.offensive, e.nextWords)

/-- The index of a lexicon. -/
def index : Codec Index := list (pair text nat)

/-- All of a lexicon but its index. -/
def payload : Codec Payload :=
  (pair (pair text (pair (list entry) (list (list nat))))
      (pair (list nextWord) (pair (list (pair text (list nextWord))) (list (pair text text))))).map
    (fun ((tag, entries, buckets), starts, contextOnly, replacements) =>
      ⟨⟨tag⟩, entries, buckets, starts, contextOnly, replacements⟩)
    fun p => ((p.locale.tag, p.entries, p.buckets), p.starts, p.contextOnly, p.replacements)

/-- What a store knows of a word. -/
def storeEntry : Codec StoreEntry :=
  (pair (pair nat nat) (pair bool nat)).map
    (fun ((frequency, count), valid, lastUsed) => ⟨frequency, count, valid, lastUsed⟩)
    fun e => ((e.frequency, e.count), e.valid, e.lastUsed)

/-- The tables of a store. -/
def tables : Codec Tables :=
  (pair (list (pair text storeEntry)) (list (pair text (list (pair text nat))))).map
    (fun (words, followers) => ⟨words, followers⟩) fun t => (t.words, t.followers)

end Codec

namespace FileContent

/-- The text of a file, unless it cannot be written. -/
def encode? : FileContent → Option Text
  | text t => some t
  | index i => some (Codec.index.encode i)
  | payload p => some (Codec.payload.encode p)
  | tables t => some (Codec.tables.encode t)
  | unreadable | directory => none

/-- What the file at a path holds, of which the text is known. -/
def decode (path t : Text) : FileContent :=
  let read :=
    if Provider.indexEnding.isSuffixOf path then (Codec.index.decode t).map index
    else if Provider.payloadEnding.isSuffixOf path then (Codec.payload.decode t).map payload
    else if Provider.storeEnding.isSuffixOf path then (Codec.tables.decode t).map tables
    else none
  read.getD (text t)

end FileContent

end Typeahead
