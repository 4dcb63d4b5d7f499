import Typeahead.Blacklist
import Typeahead.Dictionary

/-! # Groups

A group holds the dictionaries of one locale, its blacklist, and its confidence, which says how much
of what was typed lately was in this locale. The weight of its candidates grows with the confidence;
a confident group gives up half a step while another one is as confident. -/

namespace Typeahead

/-- The dictionaries of one locale. Its number tells it from other groups. -/
structure Group where
  number : Nat
  locale : Locale
  account : Option Text := none
  main : Option Dictionary := none
  subs : List Store := []
  confidence : Nat := 1
  blacklist : Blacklist := {}

instance : Inhabited Group := ⟨{ number := 0, locale := .root }⟩

namespace Group

/-- The group that stands for no locale. -/
def placeholder (number listNumber : Nat) : Group :=
  { number, locale := .root, blacklist := { number := listNumber } }

/-- The store of an origin. -/
def sub? (g : Group) (o : Origin) : Option Store := g.subs.find? (·.origin == o)

/-- The dictionary of an origin. -/
def dictionary? (g : Group) (o : Origin) : Option Dictionary :=
  if o = .main then g.main else (g.sub? o).map (·.dictionary)

/-- The group has a dictionary of an origin for an account. History belongs to one account only. -/
def has (g : Group) (o : Origin) (account : Option Text) : Bool :=
  match o with
  | .main => g.main.isSome
  | .history => account == g.account && (g.sub? o).isSome
  | _ => (g.sub? o).isSome

/-- The main dictionary is there and ready. -/
def isReady (g : Group) : Bool := g.main.any (·.initialized)

/-- The group with the store `s` in place of the one of its number. -/
def putStore (g : Group) (s : Store) : Group :=
  { g with subs := g.subs.map fun t => if t.number = s.number then s else t }

/-! ### Confidence and weight -/

/-- The confidence from which a group is confident. -/
def confident : Nat := 2

/-- One more word was in this locale. -/
def raiseConfidence (g : Group) : Group := { g with confidence := g.confidence + 1 }

/-- The confidence after a word that was not in this locale; a surplus is dropped first. -/
def lowered (c : Nat) : Nat := if confident < c then confident else c - 1

/-- A word was not in this locale. -/
def lowerConfidence (g : Group) : Group := { g with confidence := lowered g.confidence }

/-- What a missing step of confidence takes off the weight. -/
def stepWeight (gesture : Bool) : Rat := toSingle (if gesture then mkRat 5 100 else mkRat 15 100)

/-- The weight of a confidence by itself. -/
def ownWeight (gesture : Bool) (c : Nat) : Rat :=
  toSingle (1 - toSingle (stepWeight gesture * ((confident - c : Nat) : Rat)))

/-- The weight of a confident group while another one is as confident. -/
def contestedWeight (gesture : Bool) : Rat := toSingle (1 - toSingle (stepWeight gesture / 2))

/-- Another group of the list is at least as confident. -/
def isContested (g : Group) (gs : List Group) : Bool :=
  gs.any fun h => h.number != g.number && g.confidence ≤ h.confidence

/-- The weight of the group's candidates among those of all groups. -/
def weightAmong (g : Group) (gs : List Group) (gesture : Bool) : Rat :=
  if gs.length ≤ 1 then 1
  else if g.confidence < confident then ownWeight gesture g.confidence
  else if g.isContested gs then contestedWeight gesture
  else 1

/-! ### Words -/

/-- The word is on the group's blacklist. -/
def isBlacklisted (g : Group) (w : Text) : Bool := g.blacklist.contains w

/-- Some dictionary vouches for the word, and it is not on the blacklist. -/
def isValid (g : Group) (w : Text) : Bool :=
  !w.isEmpty && !g.isBlacklisted w && (g.main.any (·.isValid w) || g.subs.any (·.isValid w))

/-- The group with a word on its blacklist. -/
def blacklistWord (g : Group) (w : Text) : Group := { g with blacklist := g.blacklist.add w }

/-- The group with a word taken off its blacklist. -/
def unblacklistWord (g : Group) (w : Text) : Group := { g with blacklist := g.blacklist.remove w }

/-- The group whose stores of the given origins have forgotten a word. -/
def forgetIn (g : Group) (os : List Origin) (w : Text) : Group :=
  { g with subs := g.subs.map fun s =>
      if os.contains s.origin then
        match s.remove w with
        | .ok (_, s) => s
        | .error _ => s
      else s }

/-- The contacts hold the word. -/
def inContacts (g : Group) (w : Text) : Bool := (g.sub? .contacts).any (·.contains w)

/-- The main dictionary vouches for the word. -/
def inMain (g : Group) (w : Text) : Bool := g.main.any (·.isValid w)

/-- The group without a word: what was learned is forgotten, and what cannot be forgotten is put on
the blacklist. -/
def removeWord (g : Group) (w : Text) : Group :=
  let g := g.forgetIn [.history, .user] w
  if g.inContacts w then (g.forgetIn [.contacts] w).blacklistWord w
  else if g.inMain w then g.blacklistWord w
  else if Text.lower w ≠ w ∧ g.inMain (Text.lower w) then g.blacklistWord (Text.lower w)
  else g

/-- The stores of the group in the order in which they are reported. -/
def reported (g : Group) : List Store := Origin.learned.filterMap g.sub?

end Group

/-- The group of the highest confidence, the earliest among equals. -/
def preferredGroup (gs : List Group) : Option Group :=
  gs.foldl (fun best g =>
    match best with
    | some b => if g.confidence ≤ b.confidence then best else some g
    | none => some g) none

/-- The only group, or the preferred one when it alone is confident and no other has any
confidence. -/
def clearlyPreferredGroup (gs : List Group) : Option Group :=
  match gs with
  | [g] => some g
  | _ =>
    (preferredGroup gs).filter fun p =>
      Group.confident ≤ p.confidence
        && gs.all fun g => g.number == p.number || g.confidence == 0

end Typeahead
