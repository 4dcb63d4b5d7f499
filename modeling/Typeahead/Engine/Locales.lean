import Typeahead.Engine.State

/-! # Changing locales

`Engine.reset` builds the groups of other locales. A locale that was active for the same account
keeps its dictionaries, unless everything is to be loaded anew; its blacklist it keeps in any case.
Main dictionaries that are missing are loaded in the background. -/

namespace Typeahead

/-- What a reset asks for. -/
structure ResetRequest where
  primary : Locale
  secondary : List Locale := []
  contacts : Bool := false
  personalized : Bool := true
  force : Bool := false
  account : Option Text := none
  deriving DecidableEq, Repr

namespace ResetRequest

/-- The locales to be active, each once, the primary one first. -/
def locales (r : ResetRequest) : List Locale :=
  r.secondary.foldl (fun ls l => if ls.contains l then ls else ls ++ [l]) [r.primary]

/-- The origins of the stores that each group is to have. -/
def origins (r : ResetRequest) : List Origin :=
  [.user] ++ (if r.personalized then [.history] else []) ++ (if r.contacts then [.contacts] else [])

end ResetRequest

namespace Engine

/-- A fresh number. -/
def fresh (e : Engine) : Nat × Engine := (e.nextNumber, { e with nextNumber := e.nextNumber + 1 })

/-- Groups that are being built next to an engine: those that are done, and the stores of the one in
the making. -/
structure Building where
  engine : Engine
  groups : List Group := []
  subs : List Store := []

namespace Building

/-- The places of the files of all stores that are open. -/
def placesInUse (b : Building) : List Text :=
  (b.engine.stores ++ b.groups.flatMap (·.subs) ++ b.subs).filterMap (·.place)

/-- Adds the store of an origin: the old group's, or else one that is opened, if it can be. -/
def addSub (l : Locale) (account : Option Text) (old : Option Group) (b : Building) (o : Origin) :
    Building :=
  match old.bind (·.sub? o) with
  | some s => { b with subs := b.subs ++ [s] }
  | none =>
    let (n, e) := b.engine.fresh
    let e := { e with opens := e.opens + 1 }
    match e.provider.openStore e.disk b.placesInUse n o l account with
    | (.ok s, disk) => { b with engine := { e with disk }, subs := b.subs ++ [s] }
    | (.error _, disk) => { b with engine := { e with disk } }

/-- The blacklist of a locale: the one of an old group, or else the one on disk. -/
def listFor (e : Engine) (l : Locale) : Blacklist × Engine :=
  match e.groups.find? (·.locale == l) with
  | some g => (g.blacklist, e)
  | none =>
    let (n, e) := e.fresh
    match e.provider.blacklistPath l with
    | some path => (.load n path e.disk, e)
    | none => ({ number := n }, e)

/-- Adds the group of a locale. -/
def addGroup (r : ResetRequest) (b : Building) (l : Locale) : Building :=
  let old := if r.force then none
    else b.engine.groups.find? fun g => g.locale == l && g.account == r.account
  let b := r.origins.foldl (addSub l r.account old) { b with subs := [] }
  let (blacklist, e) := listFor b.engine l
  let (n, e) := e.fresh
  let g : Group :=
    { number := n, locale := l, account := r.account, main := old.bind (·.main), subs := b.subs,
      blacklist }
  { engine := e, groups := b.groups ++ [g], subs := [] }

end Building

/-- The engine with other groups. What the old ones had and the new ones have not is kept aside, and
closed unless a task waits for it. -/
def replaceGroups (e : Engine) (gs : List Group) : Engine :=
  let stores := (e.groups.flatMap (·.subs)).filter fun s =>
    !gs.any fun g => g.subs.any (·.number == s.number)
  let lists := (e.groups.map (·.blacklist)).filter fun b =>
    !gs.any fun g => g.blacklist.number == b.number
  { e with
    groups := gs
    keptStores := e.keptStores ++ stores
    keptLists := e.keptLists ++ lists }.settle

/-- The engine with a load waiting for each group whose main dictionary is missing or not ready. -/
def queueLoads (e : Engine) (gs : List Group) : Engine :=
  gs.foldl (fun e g => if g.isReady then e else e.queueLoad g) e

/-- The engine with the groups of other locales. Loads that still wait are cancelled. -/
def reset (e : Engine) (r : ResetRequest) : Engine :=
  let e := { e with queue := e.queue.cancelWaiting }
  let b := r.locales.foldl (Building.addGroup r) { engine := e }
  let e := (b.engine.replaceGroups b.groups).queueLoads b.groups
  { e with spelling := e.spelling.clear }.clearPredictions

/-- The engine without an active locale. -/
def close (e : Engine) : Engine :=
  let (n, e) := e.fresh
  let (m, e) := e.fresh
  (e.replaceGroups [.placeholder n m]).clearPredictions

/-- The engine with other settings. -/
def setSettings (e : Engine) (s : Settings) : Engine := { e with settings := s }.clearPredictions

/-- The disk once all stores are closed. -/
def shutDown (e : Engine) : Disk := e.stores.foldl Disk.closeStore e.disk

/-- A new engine over the same disk and provider; what still waited is lost. -/
def restart (e : Engine) : Engine :=
  { Engine.start e.provider e.settings e.shutDown with loads := e.loads, opens := e.opens }

end Engine

end Typeahead
