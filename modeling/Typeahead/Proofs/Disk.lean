import Typeahead.Proofs.Text.Pieces
import Typeahead.Proofs.WordMap
import Typeahead.Provider

/-! # Files that have a place

Where the directory of a path is there and no directory lies in its place (`Disk.HostsAt`), a file
is written and a store is opened without a directory being made (`writeNested_eq`, `openStore_eq`).
What the library writes after that are the tables of stores and the texts of blacklists, in files
with their endings (`Disk.Written`): so all directories stay as they are, every path still leads to
where it led, and no store is written over a blacklist, for a place has the ending of the path that
leads to it (`suffix_of_locate`). Where only stores are opened and closed, all other files stay as
they are (`Disk.Stored`). -/

namespace Typeahead

/-- A key that was set is seen at once, also in a map that is out of order. -/
theorem WordMap.get?_set_any {α : Type} {k j : Text} {v : α} : ∀ m : WordMap α,
    get? (set k v m) j = if j = k then some v else get? m j
  | [] => by
    show get? [(k, v)] j = _
    rw [get?_cons]
    simp only [eq_comm (a := k)]
  | (k', v') :: m => by
    unfold set alter
    split
    · show get? ((k, v) :: (k', v') :: m) j = _
      rw [get?_cons]
      simp only [eq_comm (a := k)]
    · next hc =>
      obtain rfl : k = k' := Std.LawfulEqOrd.eq_of_compare hc
      show get? ((k, v) :: m) j = _
      rw [get?_cons, get?_cons]
      simp only [eq_comm (a := k)]
      split_ifs <;> rfl
    · next hc =>
      have hne : k' ≠ k := ne_of_lt (Std.OrientedCmp.lt_of_gt hc)
      have ih := get?_set_any (k := k) (j := j) (v := v) m
      unfold set at ih
      rw [get?_cons, ih, get?_cons]
      by_cases h : k' = j
      · rw [if_pos h, if_pos h, if_neg fun h' => hne (h.trans h')]
      · rw [if_neg h, if_neg h]

namespace Disk

variable {d d' d'' : Disk} {place path part : Text} {c : FileContent}

theorem ne_nil_of_file (h : d.at? place ≠ some .directory) : place ≠ [] := by
  rintro rfl
  exact h rfl

theorem at?_put (hne : place ≠ []) (c : FileContent) (p : Text) :
    (d.put place c).at? p = if p = place then some c else d.at? p := by
  unfold at? put
  dsimp only
  by_cases hp : p = []
  · have hother : [] ≠ place := fun he => hne he.symm
    rw [hp, if_neg hother]
    rfl
  · have hfull : ¬ p.isEmpty = true := by simpa using hp
    rw [if_neg hfull, if_neg hfull, WordMap.get?_set_any]

/-! ### Following a path -/

/-- Where a part of a path leads from a directory. -/
def turn (place part : Text) : Except Obstacle Text :=
  if !Path.moves part then .ok place
  else if part = ['.', '.'] then .ok (above place)
  else if nameLimit < Text.byteCount part then .error .blocked
  else .ok (place ++ '/' :: part)

theorem enter_eq_ok_iff {p : Text} : d.enter place part = .ok p ↔
    d.at? place = some .directory ∧ turn place part = .ok p := by
  unfold enter turn
  split
  · next h =>
    rw [h]
    exact ⟨fun hc => (nomatch hc), fun hc => (nomatch hc.1)⟩
  · next h =>
    rw [h]
    exact ⟨fun hp => ⟨rfl, hp⟩, fun hp => hp.2⟩
  · next _ hnot h =>
    rw [h]
    refine ⟨fun hc => (nomatch hc), fun hc => absurd (Option.some.inj hc.1) hnot⟩

theorem foldlM_cons_eq_ok_iff {p : Text} {ps : List Text} :
    (part :: ps).foldlM d.enter place = .ok p ↔
      ∃ q, d.enter place part = .ok q ∧ ps.foldlM d.enter q = .ok p := by
  rw [List.foldlM_cons]
  rcases d.enter place part with f | q
  · exact ⟨fun hc => (nomatch hc), fun ⟨_, hc, _⟩ => (nomatch hc)⟩
  · exact ⟨fun hp => ⟨q, rfl, hp⟩, fun ⟨_, hq, hp⟩ => Except.ok.inj hq ▸ hp⟩

theorem foldlM_append_eq_ok_iff {p : Text} {qs : List Text} : ∀ {ps : List Text} {place : Text},
    (ps ++ qs).foldlM d.enter place = .ok p ↔
      ∃ q, ps.foldlM d.enter place = .ok q ∧ qs.foldlM d.enter q = .ok p
  | [], place => ⟨fun hp => ⟨place, rfl, hp⟩, fun ⟨_, hq, hp⟩ => Except.ok.inj hq ▸ hp⟩
  | part :: ps, place => by
    rw [List.cons_append, foldlM_cons_eq_ok_iff]
    simp only [foldlM_cons_eq_ok_iff, foldlM_append_eq_ok_iff]
    constructor
    · rintro ⟨q, hq, r, hr, hp⟩
      exact ⟨r, ⟨q, hq, hr⟩, hp⟩
    · rintro ⟨r, ⟨q, hq, hr⟩, hp⟩
      exact ⟨q, hq, r, hr, hp⟩

/-- A path leads on as long as the directories are there. -/
theorem foldlM_mono (h : ∀ place, d.at? place = some .directory → d'.at? place = some .directory)
    {p : Text} : ∀ {ps : List Text} {place : Text}, ps.foldlM d.enter place = .ok p →
      ps.foldlM d'.enter place = .ok p
  | [], _, hp => hp
  | _ :: _, _, hp => by
    obtain ⟨q, hq, hp⟩ := foldlM_cons_eq_ok_iff.mp hp
    obtain ⟨hdir, hturn⟩ := enter_eq_ok_iff.mp hq
    exact foldlM_cons_eq_ok_iff.mpr ⟨q, enter_eq_ok_iff.mpr ⟨h _ hdir, hturn⟩, foldlM_mono h hp⟩

theorem locate_eq_ok_iff : d.locate path = .ok place ↔
    path ≠ [] ∧ ¬ (path.contains '\x00' || pathLimit < Text.byteCount path) = true ∧
      (Text.pieces (· == '/') path).foldlM d.enter
        (if Path.isAbsolute path then [] else d.home) = .ok place := by
  unfold locate follow
  by_cases hempty : path = []
  · rw [if_pos (by simpa using hempty)]
    exact ⟨fun hp => (nomatch hp), fun hp => absurd hempty hp.1⟩
  · rw [if_neg (by simpa using hempty)]
    by_cases hlong : (path.contains '\x00' || pathLimit < Text.byteCount path) = true
    · rw [if_pos hlong]
      exact ⟨fun hp => (nomatch hp), fun hp => absurd hlong hp.2.1⟩
    · rw [if_neg hlong]
      exact ⟨fun hp => ⟨hempty, hlong, hp⟩, fun hp => hp.2.2⟩

theorem locate_mono (hhome : d'.home = d.home)
    (h : ∀ place, d.at? place = some .directory → d'.at? place = some .directory)
    (hp : d.locate path = .ok place) : d'.locate path = .ok place := by
  obtain ⟨hne, hlimit, hp⟩ := locate_eq_ok_iff.mp hp
  refine locate_eq_ok_iff.mpr ⟨hne, hlimit, ?_⟩
  rw [hhome]
  exact foldlM_mono h hp

/-- **A place has the ending of the path** that leads to it. -/
theorem suffix_of_locate {ending : Text} (hlong : 2 < ending.length) (hslash : '/' ∉ ending)
    (hpath : ending <:+ path) (hp : d.locate path = .ok place) : ending <:+ place := by
  obtain ⟨lead, rfl⟩ := hpath
  have hfree : ∀ a ∈ ending, (a == '/') = false := by
    intro a ha
    rw [beq_eq_false_iff_ne]
    rintro rfl
    exact hslash ha
  obtain ⟨before, last, -, hpieces⟩ := Text.exists_pieces_append hfree lead
  obtain ⟨-, -, hfollow⟩ := locate_eq_ok_iff.mp hp
  rw [hpieces, foldlM_append_eq_ok_iff] at hfollow
  obtain ⟨q, -, hrest⟩ := hfollow
  obtain ⟨p, henter, hlast⟩ := foldlM_cons_eq_ok_iff.mp hrest
  obtain rfl : p = place := Except.ok.inj hlast
  have hlength : 2 < (last ++ ending).length := by
    rw [List.length_append]
    omega
  have hmoves : Path.moves (last ++ ending) = true := by
    unfold Path.moves
    rw [Bool.and_eq_true, Bool.not_eq_true', List.isEmpty_eq_false_iff, bne_iff_ne]
    constructor
    · rintro hnil
      rw [hnil] at hlength
      exact absurd hlength (by decide)
    · rintro hdot
      rw [hdot] at hlength
      exact absurd hlength (by decide)
  have hturn := (enter_eq_ok_iff.mp henter).2
  unfold turn at hturn
  rw [hmoves, Bool.not_true, if_neg Bool.false_ne_true, if_neg ?_] at hturn
  · split_ifs at hturn
    obtain rfl := Except.ok.inj hturn
    exact ⟨q ++ '/' :: last, by simp⟩
  · rintro hdots
    rw [hdots] at hlength
    exact absurd hlength (by decide)

/-! ### Directories that are there -/

theorem isDirectory_iff : d.isDirectory path = true ↔
    ∃ place, d.locate path = .ok place ∧ d.at? place = some .directory := by
  unfold isDirectory get?
  rw [beq_iff_eq]
  split
  · next place hp => exact ⟨fun h => ⟨place, hp, h⟩, fun ⟨_, hq, h⟩ => Except.ok.inj (hp.symm.trans hq) ▸ h⟩
  · next f hp => exact ⟨fun h => (nomatch h), fun ⟨_, hq, _⟩ => (nomatch hp.symm.trans hq)⟩

theorem foldlM_empties {p : Text} : ∀ {ps : List Text} {place : Text},
    (∀ part ∈ ps, part.isEmpty = true) → ps.foldlM d.enter place = .ok p → place = p
  | [], _, _, hp => Except.ok.inj hp
  | part :: ps, place, hps, hp => by
    obtain ⟨q, hq, hp⟩ := foldlM_cons_eq_ok_iff.mp hp
    have hpart : part = [] := by simpa using hps part List.mem_cons_self
    have hturn := (enter_eq_ok_iff.mp hq).2
    rw [hpart] at hturn
    obtain rfl : place = q := Except.ok.inj hturn
    exact foldlM_empties (fun r hr => hps r (List.mem_cons_of_mem _ hr)) hp

/-- The parts of a path up to the last one that is not empty. -/
def trimmedParts (path : Text) : List Text :=
  ((Text.pieces (· == '/') path).reverse.dropWhile (·.isEmpty)).reverse

/-- What stands after the last part that counts is empty. -/
theorem exists_pieces_eq (path : Text) : ∃ empties, (∀ part ∈ empties, part.isEmpty = true) ∧
    Text.pieces (· == '/') path = trimmedParts path ++ empties := by
  refine ⟨((Text.pieces (· == '/') path).reverse.takeWhile (·.isEmpty)).reverse,
    fun part hpart => ?_, ?_⟩
  · exact List.all_eq_true.mp List.all_takeWhile part (List.mem_reverse.mp hpart)
  · rw [trimmedParts, ← List.reverse_append, List.takeWhile_append_dropWhile, List.reverse_reverse]

/-- A directory that is there is not made again. -/
theorem makeDirectory_eq (h : d.isDirectory path = true) : d.makeDirectory path = .error .taken := by
  obtain ⟨place, hp, hdir⟩ := isDirectory_iff.mp h
  obtain ⟨-, hlimit, hp⟩ := locate_eq_ok_iff.mp hp
  obtain ⟨empties, hempties, hpieces⟩ := exists_pieces_eq path
  rw [hpieces, foldlM_append_eq_ok_iff] at hp
  obtain ⟨q, hq, hrest⟩ := hp
  obtain rfl : q = place := foldlM_empties hempties hrest
  unfold makeDirectory follow
  dsimp only
  rw [← trimmedParts, if_neg hlimit, hq]
  show (if (d.at? q).isSome then Except.error Obstacle.taken else _) = _
  rw [hdir]
  rfl

theorem makeDirectories_eq (h : path = [] ∨ d.isDirectory path = true) :
    d.makeDirectories path = (.ok (), d) := by
  unfold makeDirectories
  rcases h with rfl | h
  · rfl
  · by_cases hempty : path.isEmpty = true
    · rw [if_pos hempty]
    · have hnested : d.makeNested (Path.ancestors path) = (true, d) := by
        unfold Path.ancestors makeNested
        rw [makeDirectory_eq h, h]
      rw [if_neg hempty, hnested]

/-! ### Files that have a place -/

/-- **A file has its place**: the directory of its path is there, and the path leads to a place where
no directory lies. -/
structure HostsAt (d : Disk) (path place : Text) : Prop where
  parent : Path.parent path = [] ∨ d.isDirectory (Path.parent path) = true
  locate : d.locate path = .ok place
  file : d.at? place ≠ some .directory

theorem mem_toOption_locate : place ∈ (d.locate path).toOption ↔ d.locate path = .ok place := by
  rcases d.locate path with f | q
  · exact ⟨fun h => (nomatch h), fun h => (nomatch h)⟩
  · exact ⟨fun h => congrArg _ (Option.some.inj h), fun h => congrArg _ (Except.ok.inj h)⟩

theorem exists_hostsAt_iff {p : Text → Prop} : (∃ place, d.HostsAt path place ∧ p place) ↔
    (Path.parent path = [] ∨ d.isDirectory (Path.parent path) = true) ∧
      ∃ place ∈ (d.locate path).toOption, d.at? place ≠ some .directory ∧ p place := by
  constructor
  · rintro ⟨place, h, hp⟩
    exact ⟨h.parent, place, mem_toOption_locate.mpr h.locate, h.file, hp⟩
  · rintro ⟨hparent, place, hplace, hfile, hp⟩
    exact ⟨place, ⟨hparent, mem_toOption_locate.mp hplace, hfile⟩, hp⟩

instance {p : Text → Prop} [DecidablePred p] :
    Decidable (∃ place, d.HostsAt path place ∧ p place) :=
  decidable_of_iff' _ exists_hostsAt_iff

theorem HostsAt.writeNested_eq (h : d.HostsAt path place) (c : FileContent) :
    d.writeNested path c = (.ok (), d.put place c) := by
  unfold writeNested andThen
  rw [makeDirectories_eq h.parent]
  dsimp only
  unfold writeFile
  rw [h.locate]
  dsimp only
  rw [if_neg h.file]

/-- **A store is opened** unless its file holds something else or is open already. -/
theorem HostsAt.openStore_eq (h : d.HostsAt path place) (inUse : List Text) (n : Nat) (o : Origin)
    (l : Locale) : d.openStore inUse n o l path =
      match tables? (d.at? place) with
      | none => (.error .badStore, d)
      | some t =>
        if inUse.contains place then (.error .badStore, d)
        else
          (.ok { number := n, origin := o, locale := l, tables := t, file := some ⟨path, place, t⟩ },
            d.put place (.tables t)) := by
  unfold openStore
  rewrite [makeDirectories_eq h.parent]
  dsimp only
  rewrite [h.locate]
  rfl

theorem HostsAt.text?_eq (h : d.HostsAt path place) : d.text? path =
    match d.at? place with
    | some (.text t) => some t
    | _ => none := by
  unfold text? get?
  rewrite [h.locate]
  rfl

/-! ### What the library writes -/

/-- The disk holds the same directories, and what else was written are tables and texts, in files
with the endings of stores and of blacklists. -/
structure Written (d d' : Disk) : Prop where
  home : d'.home = d.home
  places : ∀ place, d'.at? place = d.at? place ∨ d.at? place ≠ some .directory ∧
    (Provider.storeEnding <:+ place ∧ (∃ t, d'.at? place = some (.tables t)) ∨
      Provider.listEnding <:+ place ∧ ∃ t, d'.at? place = some (.text t))

theorem Written.refl (d : Disk) : Written d d := ⟨rfl, fun _ => .inl rfl⟩

theorem Written.trans (h : Written d d') (h' : Written d' d'') : Written d d'' := by
  refine ⟨h'.home.trans h.home, fun place => ?_⟩
  rcases h'.places place with hsame | ⟨hfile, hwritten⟩
  · rw [hsame]
    exact h.places place
  · right
    refine ⟨fun hdir => hfile ?_, hwritten⟩
    rcases h.places place with hsame | ⟨hnot, -⟩
    · rw [hsame, hdir]
    · exact absurd hdir hnot

theorem Written.directory_iff (h : Written d d') :
    d'.at? place = some .directory ↔ d.at? place = some .directory := by
  rcases h.places place with hsame | ⟨hfile, ⟨-, t, ht⟩ | ⟨-, t, ht⟩⟩
  · rw [hsame]
  · rw [ht]
    exact ⟨fun hc => (nomatch hc), fun hc => absurd hc hfile⟩
  · rw [ht]
    exact ⟨fun hc => (nomatch hc), fun hc => absurd hc hfile⟩

theorem Written.locate_eq (h : Written d d') (hp : d.locate path = .ok place) :
    d'.locate path = .ok place :=
  locate_mono h.home (fun _ hdir => h.directory_iff.mpr hdir) hp

/-- **Files keep their places.** -/
theorem HostsAt.of_written (h : d.HostsAt path place) (hw : Written d d') :
    d'.HostsAt path place := by
  refine ⟨h.parent.imp_right fun hdir => ?_, hw.locate_eq h.locate, fun hdir => ?_⟩
  · obtain ⟨p, hp, hat⟩ := isDirectory_iff.mp hdir
    exact isDirectory_iff.mpr ⟨p, hw.locate_eq hp, hw.directory_iff.mpr hat⟩
  · exact h.file (hw.directory_iff.mp hdir)

theorem written_put_tables (hending : Provider.storeEnding <:+ place)
    (hfile : d.at? place ≠ some .directory) (t : Tables) :
    Written d (d.put place (.tables t)) := by
  refine ⟨rfl, fun p => ?_⟩
  rw [at?_put (ne_nil_of_file hfile)]
  split_ifs with hp
  · rw [hp]
    exact .inr ⟨hfile, .inl ⟨hending, t, rfl⟩⟩
  · exact .inl rfl

theorem written_put_text (hending : Provider.listEnding <:+ place)
    (hfile : d.at? place ≠ some .directory) (t : Text) :
    Written d (d.put place (.text t)) := by
  refine ⟨rfl, fun p => ?_⟩
  rw [at?_put (ne_nil_of_file hfile)]
  split_ifs with hp
  · rw [hp]
    exact .inr ⟨hfile, .inr ⟨hending, t, rfl⟩⟩
  · exact .inl rfl

/-- No place is that of a store and of a blacklist. -/
theorem not_suffix_of_suffix (h : Provider.storeEnding <:+ place) :
    ¬ Provider.listEnding <:+ place := fun h' =>
  absurd (List.suffix_of_suffix_length_le h' h (by decide)) (by decide)

/-- A file that can be read as a store can still be read as one. -/
theorem Written.isSome_tables? (h : Written d d') (hending : Provider.storeEnding <:+ place)
    (hread : (tables? (d.at? place)).isSome = true) : (tables? (d'.at? place)).isSome = true := by
  rcases h.places place with hsame | ⟨-, ⟨-, t, ht⟩ | ⟨hlist, -⟩⟩
  · rw [hsame]
    exact hread
  · rw [ht]
    rfl
  · exact absurd hlist (not_suffix_of_suffix hending)

/-! ### What happens to stores -/

/-- What was written are tables, in files with the ending of stores. -/
structure Stored (d d' : Disk) : Prop extends Written d d' where
  rest : ∀ place, ¬ Provider.storeEnding <:+ place → d'.at? place = d.at? place

theorem Stored.refl (d : Disk) : Stored d d := ⟨Written.refl d, fun _ _ => rfl⟩

theorem Stored.trans (h : Stored d d') (h' : Stored d' d'') : Stored d d'' :=
  ⟨h.toWritten.trans h'.toWritten, fun place hp => (h'.rest place hp).trans (h.rest place hp)⟩

theorem stored_put (hending : Provider.storeEnding <:+ place)
    (hfile : d.at? place ≠ some .directory) (t : Tables) : Stored d (d.put place (.tables t)) := by
  refine ⟨written_put_tables hending hfile t, fun p hp => ?_⟩
  rw [at?_put (ne_nil_of_file hfile), if_neg]
  rintro rfl
  exact hp hending

/-- What all stores in files would be opened with is the same. -/
def SameTables (d d' : Disk) : Prop := ∀ place, tables? (d'.at? place) = tables? (d.at? place)

theorem sameTables_put {t : Tables} (hfile : d.at? place ≠ some .directory)
    (ht : tables? (d.at? place) = some t) : SameTables d (d.put place (.tables t)) := by
  intro p
  rw [at?_put (ne_nil_of_file hfile)]
  split_ifs with hp
  · rw [hp, ht]
    rfl
  · rfl

/-- **Opening a store** writes the tables that it was opened with. -/
theorem HostsAt.stored_openStore (h : d.HostsAt path place)
    (hending : Provider.storeEnding <:+ place) (inUse : List Text) (n : Nat) (o : Origin)
    (l : Locale) : Stored d (d.openStore inUse n o l path).2 ∧
      SameTables d (d.openStore inUse n o l path).2 := by
  rw [h.openStore_eq]
  split
  · exact ⟨Stored.refl d, fun _ => rfl⟩
  · next t ht =>
    split_ifs
    · exact ⟨Stored.refl d, fun _ => rfl⟩
    · exact ⟨stored_put hending h.file t, sameTables_put h.file ht⟩

/-- **Closing a store** writes its tables to its file. -/
theorem stored_closeStore {s : Store} (h : ∀ p, s.place = some p →
    Provider.storeEnding <:+ p ∧ d.at? p ≠ some .directory) : Stored d (d.closeStore s) := by
  unfold closeStore
  split
  · next f hf =>
    obtain ⟨hending, hfile⟩ := h f.place (by rw [Store.place, hf]; rfl)
    exact stored_put hending hfile f.tables
  · exact Stored.refl d

theorem stored_closeStores (ss : List Store) : ∀ {d : Disk}, (∀ s ∈ ss, ∀ p, s.place = some p →
    Provider.storeEnding <:+ p ∧ d.at? p ≠ some .directory) →
    Stored d (ss.foldl closeStore d) := by
  induction ss with
  | nil => exact fun _ => Stored.refl _
  | cons s ss ih =>
    intro d h
    have hfirst := stored_closeStore (h s List.mem_cons_self)
    refine hfirst.trans (ih fun t ht p hp => ?_)
    obtain ⟨hending, hfile⟩ := h t (List.mem_cons_of_mem s ht) p hp
    exact ⟨hending, fun hdir => hfile (hfirst.directory_iff.mp hdir)⟩

end Disk

end Typeahead
