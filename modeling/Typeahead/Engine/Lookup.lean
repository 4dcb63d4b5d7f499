import Typeahead.Engine.State

/-! # Looking up

The candidates of all groups are merged into one ranking, the primary group's first. A word that any
group has blacklisted is left out. Predictions are remembered for each context until something is
learned or forgotten, and answers about spelling until the word is touched again. -/

namespace Typeahead

/-- A request for candidates: the word so far, whether it is a gesture, the context, and whether
offensive words are blocked. -/
structure Request where
  typed : Text := []
  gesture : Bool := false
  context : Context
  block : Bool
  deriving DecidableEq, Repr

namespace Request

/-- The query that a group's dictionaries get. -/
def query (r : Request) (weight : Rat) : Query := ⟨r.typed, r.context, r.block, weight⟩

end Request

/-- A candidate may be shown: no group has blacklisted it, and where the dictionary `d` may have
invented a word of more than two letters for a gesture, it really is in `d`. -/
def isShowable (gs : List Group) (o : Origin) (d : Dictionary) (gesture : Bool) (c : Candidate) :
    Bool :=
  !gs.any (·.isBlacklisted c.word)
    && !(gesture && (o == .main || o == .history) && 2 < c.word.length && c.source.origin == o
      && !d.contains c.word)

namespace Group

/-- The candidates of one dictionary of the group; `none` if it breaks off. -/
def candidatesOf (g : Group) (gs : List Group) (r : Request) (o : Origin) :
    Option (List Candidate) :=
  match g.dictionary? o with
  | none => some []
  | some d =>
    match d.suggestions (r.query (g.weightAmong gs r.gesture)) with
    | .found cs => some (cs.filter (isShowable gs o d r.gesture))
    | .silent => some []
    | .failed => none

/-- The candidates of all dictionaries of the group; `none` if one of them breaks off. -/
def candidates (g : Group) (gs : List Group) (r : Request) : Option (List Candidate) :=
  (Origin.lookupOrder.mapM (g.candidatesOf gs r)).map List.flatten

end Group

/-- Everything that the groups offer, in the order of the groups. A group that breaks off offers
nothing. -/
def offeredBy (gs : List Group) (r : Request) : List Candidate :=
  let reports := gs.zipIdx.map fun (g, i) => (i, g.candidates gs r)
  ((joinReports gs.length reports).filterMap id).flatten

namespace Ranking

/-- Puts up to `n` words of `all` that are not the typed word into the places of typed words. -/
def borrow (all : List Candidate) (isTyped : Text → Bool) : Nat → Ranking → Ranking
  | 0, r => r
  | n + 1, r =>
    match all.find? (fun c => !isTyped c.word && !r.contains c.word),
        r.items.reverse.find? (isTyped ·.word) with
    | some pick, some last => borrow all isTyped n ((r.remove last.word).add pick)
    | _, _ => r

/-- Sees to it that at least two entries differ from the typed word, case aside, where there are
such words. -/
def withTwoOthers (r : Ranking) (all : List Candidate) (typed : Text) : Ranking :=
  if r.items.length ≤ 2 || typed.isEmpty then r
  else
    let isTyped (w : Text) := Text.lower w == Text.lower typed
    let found := ((r.items.filter (!isTyped ·.word)).take 2).length
    borrow all isTyped (2 - found) r

end Ranking

/-- The merged ranking of a request. -/
def mergedRanking (gs : List Group) (r : Request) : Ranking :=
  let all := offeredBy gs r
  let start : Ranking := { capacity := Ranking.defaultCapacity, atStart := r.context.isStart }
  { (start.addAll all).withTwoOthers all r.typed with offered := some all }

/-- The word is blacklisted in no group and valid in one. -/
def isSpelledRight (gs : List Group) (w : Text) : Bool :=
  !gs.any (·.isBlacklisted w) && gs.any (·.isValid w)

namespace Engine

/-- The ranking of a request. -/
def candidates (e : Engine) (r : Request) : Ranking := mergedRanking e.groups r

/-- The predictions remembered for a context. -/
def cachedPredictions (e : Engine) (c : Context) : Option Ranking :=
  (e.predictions.find? (·.1.same c)).map (·.2)

/-- The words predicted in a context: those remembered, or else looked up. -/
def nextWords (e : Engine) (c : Context) (block : Bool) : Ranking :=
  (e.cachedPredictions c).getD (e.candidates { context := c, block })

/-- The engine that remembers the words predicted in a context. -/
def rememberNextWords (e : Engine) (c : Context) (block : Bool) : Engine :=
  match e.cachedPredictions c with
  | some _ => e
  | none => { e with predictions := (c, e.nextWords c block) :: e.predictions }

/-- The word is spelled right, by what is remembered or else by what the groups say. -/
def isSpelledRight (e : Engine) (w : Text) : Bool :=
  (e.spelling.get? w).getD (Typeahead.isSpelledRight e.groups w)

/-- The word is valid in the primary locale. -/
def isPrimaryWord (e : Engine) (w : Text) : Bool := e.groups.head?.any (·.isValid w)

/-- Remembers whether a committed word is spelled right, in lower case and capitalized. -/
def rememberSpelling (e : Engine) (w : Text) : Engine :=
  let lower := Text.lower w
  let lowerRight := Typeahead.isSpelledRight e.groups lower
  let capital := Text.capitalizeOnly w
  let capitalRight := lowerRight || Typeahead.isSpelledRight e.groups capital
  { e with spelling := (e.spelling.put lower lowerRight).put capital capitalRight }

/-- Forgets what is remembered of the spelling of a word, as it stands, in lower case and
capitalized. -/
def forgetSpelling (e : Engine) (w : Text) : Engine :=
  { e with spelling :=
      ((e.spelling.drop w).drop (Text.lower w)).drop (Text.capitalizeOnly w) }

end Engine

end Typeahead
