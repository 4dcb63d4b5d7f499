import Typeahead.Group

/-! # Providers

Where the dictionaries of a locale come from: from memory, or from a data directory, in which

* `main-<locale>.fst` and `main-<locale>.bincode` are the two halves of a main dictionary, and
  `main-<locale>+<name>` those of a supplement,
* `<origin>-<locale>.redb` and `<origin>-<locale>-<account>.redb` are stores,
* `blacklist-<locale>.txt` is a blacklist. -/

namespace Typeahead

/-- A source of dictionaries. -/
structure Provider where
  /-- Loads the main dictionary of a locale. -/
  loadMain : Disk → Locale → Except Failure Dictionary
  /-- Opens the store of an origin, a locale and an account under a number, while files at the given
  places are open. -/
  openStore : Disk → List Text → Nat → Origin → Locale → Option Text →
    Except Failure Store × Disk
  /-- The path of the blacklist of a locale, unless it is kept in memory. -/
  blacklistPath : Locale → Option Text

namespace Provider

/-- A provider that keeps everything in memory; its main dictionaries are listed by tag. -/
def memory (mains : List (Text × Dictionary)) : Provider where
  loadMain _ l :=
    match mains.find? (·.1 == l.tag) with
    | some (_, d) => .ok d
    | none => .error .noDictionary
  openStore d _ number o l _ := (.ok { number, origin := o, locale := l }, d)
  blacklistPath _ := none

/-! ### The data directory -/

/-- The ending of the index of a lexicon. -/
def indexEnding : Text := ['.', 'f', 's', 't']

/-- The ending of the payload of a lexicon. -/
def payloadEnding : Text := ['.', 'b', 'i', 'n', 'c', 'o', 'd', 'e']

/-- The name is that of one half of a lexicon. -/
def isHalf (name : Text) : Bool := indexEnding.isSuffixOf name || payloadEnding.isSuffixOf name

/-- The ending of a store. -/
def storeEnding : Text := ['.', 'r', 'e', 'd', 'b']

/-- The ending of a blacklist. -/
def listEnding : Text := ['.', 't', 'x', 't']

/-- The name of a main dictionary, without an ending. -/
def mainName (stem : Text) : Text := ['m', 'a', 'i', 'n', '-'] ++ stem

/-- The name of the store of an origin, a locale and an account. -/
def storeName (o : Origin) (l : Locale) (account : Option Text) : Text :=
  o.name ++ '-' :: l.stem ++ (account.map ('-' :: ·)).getD [] ++ storeEnding

/-- The name of the blacklist of a locale. -/
def listName (l : Locale) : Text :=
  ['b', 'l', 'a', 'c', 'k', 'l', 'i', 's', 't', '-'] ++ l.stem ++ listEnding

/-- The path of the payload that belongs to the index at a path: it has the other ending. A name
that is nothing but an ending keeps it and gets another one. -/
def payloadPath (indexPath : Text) : Text :=
  (if Path.name indexPath = indexEnding then indexPath
    else indexPath.take (indexPath.length - indexEnding.length)) ++ payloadEnding

/-- The paths of the indexes of the lexicons that make up a main dictionary: its own first, then its
supplements in order. Without the directory there is no telling. -/
def mainIndexes (d : Disk) (dir stem : Text) : Except Failure (List Text) :=
  match d.namesIn? dir with
  | none => .error .io
  | some names =>
    let own := Path.join dir (mainName stem ++ indexEnding)
    let more := names.filter fun n =>
      (mainName stem ++ ['+']).isPrefixOf n && indexEnding.isSuffixOf n
    .ok ((if d.exists? own then [own] else []) ++ more.map (Path.join dir))

/-- The indexes for a locale; where its whole tag has none, those of its language. -/
def indexesFor (d : Disk) (dir : Text) (l : Locale) : Except Failure (List Text) :=
  match mainIndexes d dir l.stem with
  | .ok [] => if l.language = l.tag then .ok [] else mainIndexes d dir l.language
  | r => r

/-- The lexicon of the index at a path, asked about normal forms. -/
def loadLexicon (d : Disk) (form : NormalForm) (indexPath : Text) : Except Failure Dictionary :=
  (d.lexicon indexPath (payloadPath indexPath)).map fun l => l.dictionary.normalized form

/-- Loads the main dictionary of a locale from a directory. -/
def loadMainFrom (dir : Text) (form : NormalForm) (d : Disk) (l : Locale) :
    Except Failure Dictionary := do
  match ← indexesFor d dir l with
  | [] => .error .noDictionary
  | [path] => loadLexicon d form path
  | paths => (paths.mapM (loadLexicon d form)).map (Dictionary.collection ⟨.main, some l⟩)

/-- A provider that reads a data directory. -/
def directory (dir : Text) (form : NormalForm) : Provider where
  loadMain := loadMainFrom dir form
  openStore d inUse number o l account :=
    d.openStore inUse number o l (Path.join dir (storeName o l account))
  blacklistPath l := some (Path.join dir (listName l))

/-- The names of the files in a data directory that a locale may ask for, supplements left out. -/
def namesFor (l : Locale) (account : Option Text) (origins : List Origin) : List Text :=
  let mains := [l.stem, l.language].map fun stem => mainName stem ++ indexEnding
  mains ++ mains.map payloadPath ++ origins.map (storeName · l account) ++ [listName l]

end Provider

end Typeahead
