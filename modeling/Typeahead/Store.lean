import Typeahead.Lexicon.Basic

/-! # Stores

A store is a dictionary whose words are learned and forgotten: the history of what was typed, the
user's own words, or contacts. It counts how often a word was used, and how often after which word.
An open store with a file keeps the file's tables next to its own: after each change the rows that
it touched are copied to the file's. -/

namespace Typeahead

/-- What a store knows of a word. -/
structure StoreEntry where
  frequency : Nat := 0
  count : Nat := 0
  valid : Bool := false
  lastUsed : Nat := 0
  deriving DecidableEq, Repr, Inhabited

/-- The tables of a store: its words, and for each word before, the words that followed it with how
often they did. -/
structure Tables where
  words : WordMap StoreEntry := []
  followers : WordMap (WordMap Nat) := []
  deriving DecidableEq, Repr, Inhabited

namespace Tables

/-- The greatest count. -/
def countLimit : Nat := 4294967295

/-- The sum of two counts, as far as counts go. -/
def addCounts (a b : Nat) : Nat := min (a + b) countLimit

/-- The frequency of a word of the history that was used `n` times. -/
def historyFrequency (n : Nat) : Nat := min (90 + 10 * n) 255

/-- The score of a word that followed `n` times. -/
def predictionScore (n : Nat) : Nat := min (140 + 30 * n) 255

/-- The row of followers that a context belongs to. -/
def rowKey? (c : Context) : Option Text :=
  if c.isStart then some Slot.startTag
  else (c.word? 1).filter (!·.isEmpty)

/-- What is known of a word after `n` more uses. -/
def usedEntry (e : StoreEntry) (valid : Bool) (n time : Nat) : StoreEntry :=
  let count := addCounts e.count n
  { count
    frequency := max e.frequency (historyFrequency count)
    valid := e.valid || valid
    lastUsed := max e.lastUsed time }

/-- Counts `n` uses of `w` in a context. -/
def use (t : Tables) (c : Context) (w : Text) (valid : Bool) (n time : Nat) : Tables where
  words := t.words.alter w fun old => some (usedEntry (old.getD {}) valid n time)
  followers :=
    match rowKey? c with
    | none => t.followers
    | some k => t.followers.alter k fun row =>
        some ((row.getD []).alter w fun old => some (addCounts (old.getD 0) n))

/-- What is known of a word after it was added with a frequency. -/
def addedEntry (e : StoreEntry) (f : Nat) : StoreEntry :=
  { e with frequency := max e.frequency f, valid := true }

/-- Adds a word, or raises its frequency. -/
def add (t : Tables) (w : Text) (f : Nat) : Tables :=
  { t with words := t.words.alter w fun old => some (addedEntry (old.getD {}) f) }

/-- The rows that a word follows in. -/
def rowsOf (t : Tables) (w : Text) : List Text :=
  (t.followers.filter fun (_, row) => row.has w).map (·.1)

/-- Removes a word, also where it follows others; rows that are left without words go too. -/
def remove (t : Tables) (w : Text) : Tables where
  words := t.words.erase w
  followers :=
    (t.followers.map fun (k, row) => (k, row.erase w)).filter fun (_, row) => !row.isEmpty

/-- The number of pairs of a word and a follower. -/
def pairCount (t : Tables) : Nat := t.followers.foldl (fun n (_, row) => n + row.length) 0

/-- Copies the entries of some words and some rows of followers from `memory` into a file's
tables. -/
def copyRows (memory file : Tables) (words rows : List Text) : Tables where
  words := words.foldl (fun m w => m.alter w fun _ => memory.words.get? w) file.words
  followers := rows.foldl
    (fun m k => m.alter k fun _ => (memory.followers.get? k).filter (!·.isEmpty)) file.followers

end Tables

/-- A store that refuses all changes: the reason it gives, the words it claims to hold, and the
frequencies it knows of. -/
structure Frozen where
  reason : Text
  claimed : List Text
  frequencies : List (Text × Nat)
  deriving DecidableEq, Repr

/-- The file of an open store: the path by which it was opened, the place that the path led to, and
the tables in it. -/
structure StoreFile where
  path : Text
  place : Text
  tables : Tables
  deriving DecidableEq, Repr

/-- An open store. Its number tells it from others that are open. -/
structure Store where
  number : Nat
  origin : Origin
  locale : Locale
  tables : Tables := {}
  file : Option StoreFile := none
  frozen : Option Frozen := none
  deriving DecidableEq, Repr

namespace Store

/-- The source of the candidates of a store. -/
def source (s : Store) : Source := ⟨s.origin, some s.locale⟩

/-- The path of the store's file. -/
def path (s : Store) : Option Text := s.file.map (·.path)

/-- The place of the store's file. -/
def place (s : Store) : Option Text := s.file.map (·.place)

/-- The store holds the word. -/
def contains (s : Store) (w : Text) : Bool :=
  match s.frozen with
  | some f => f.claimed.contains w
  | none => s.tables.words.has w

/-- The store vouches for the spelling of the word; the history never does. -/
def isValid (s : Store) (w : Text) : Bool :=
  (s.frozen.isSome || s.origin != .history) && s.contains w

/-- The frequency of a word, -1 if it is unknown. -/
def frequency (s : Store) (w : Text) : Int :=
  match s.frozen with
  | some f => ((f.frequencies.find? (·.1 == w)).map fun e => (e.2 : Int)).getD (-1)
  | none => ((s.tables.words.get? w).map fun e => (e.frequency : Int)).getD (-1)

/-- The candidates when nothing was typed. -/
def predictions (s : Store) (q : Query) : List Candidate :=
  ((Tables.rowKey? q.context).bind s.tables.followers.get?).getD [] |>.map fun (w, n) =>
    ⟨w, q.context.flatten, Scoring.weighted (Tables.predictionScore n) q.weight,
      ⟨Kind.prediction⟩, s.source⟩

/-- The candidate that a word makes for what was typed, if it makes one. -/
def candidate? (s : Store) (q : Query) (w : Text) (e : StoreEntry) : Option Candidate :=
  if e.frequency = 0 then none
  else (Scoring.score? q.typed w e.frequency).map fun m =>
    ⟨w, q.context.flatten, Scoring.weighted m.score q.weight, m.kind, s.source⟩

/-- The candidates for what was typed: every word is looked at. -/
def suggestions (s : Store) (q : Query) : List Candidate :=
  if q.typed.isEmpty then s.predictions q
  else s.tables.words.filterMap fun (w, e) => s.candidate? q w e

/-! ### Changes -/

/-- The store with other tables, the given rows copied to its file. -/
def commit (s : Store) (t : Tables) (words rows : List Text) : Store :=
  { s with
    tables := t
    file := s.file.map fun f => { f with tables := t.copyRows f.tables words rows } }

/-- Counts `n` uses of a word in a context. -/
def use (s : Store) (c : Context) (w : Text) (valid : Bool) (n time : Nat) :
    Except Failure Store :=
  match s.frozen with
  | some f => .error (.invalidData f.reason)
  | none =>
    if w.isEmpty then .error (.invalidWord w)
    else .ok (s.commit (s.tables.use c w valid n time) [w] (Tables.rowKey? c).toList)

/-- Adds a word, or raises its frequency. -/
def add (s : Store) (w : Text) (f : Nat) : Except Failure Store :=
  match s.frozen with
  | some f => .error (.invalidData f.reason)
  | none =>
    if w.isEmpty then .error (.invalidWord w) else .ok (s.commit (s.tables.add w f) [w] [])

/-- Removes a word, and says whether the store held it. -/
def remove (s : Store) (w : Text) : Except Failure (Bool × Store) :=
  match s.frozen with
  | some f => .error (.invalidData f.reason)
  | none => .ok (s.contains w, s.commit (s.tables.remove w) [w] (s.tables.rowsOf w))

/-- Removes all words. -/
def clear (s : Store) : Except Failure Store :=
  match s.frozen with
  | some f => .error (.invalidData f.reason)
  | none => .ok { s with tables := {}, file := s.file.map fun f => { f with tables := {} } }

end Store

end Typeahead
