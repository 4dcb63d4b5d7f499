import Typeahead.Proofs.Disk

/-! # Opening a store by any path

Before a store is opened the directories of its path are made, as far as they are missing. That adds
directories where nothing was, and changes nothing else (`Made`); if it succeeds, the directory that
was asked for is there (`isDirectory_of_makeDirectories`). So a store that was opened has its file at
the place that the path leads to then (`exists_of_openStore`), and once it is closed it is opened
again by the same path, with the tables that it left (`HostsAt.reopen_eq`). -/

namespace Typeahead.Disk

variable {d d' d'' : Disk} {place path : Text}

/-! ### Directories that are made -/

/-- Directories were made where nothing was, and nothing else was changed. -/
structure Made (d d' : Disk) : Prop where
  home : d'.home = d.home
  places : ∀ place, d'.at? place = d.at? place ∨
    d.at? place = none ∧ d'.at? place = some .directory

theorem Made.refl (d : Disk) : Made d d := ⟨rfl, fun _ => .inl rfl⟩

theorem Made.trans (h : Made d d') (h' : Made d' d'') : Made d d'' := by
  refine ⟨h'.home.trans h.home, fun place => ?_⟩
  rcases h.places place with hsame | ⟨hnone, hdir⟩
  · rw [← hsame]
    exact h'.places place
  · right
    refine ⟨hnone, ?_⟩
    rcases h'.places place with hsame | ⟨hnone', -⟩
    · rw [hsame, hdir]
    · rw [hdir] at hnone'
      exact nomatch hnone'

theorem Made.directory (h : Made d d') (hdir : d.at? place = some .directory) :
    d'.at? place = some .directory := by
  rcases h.places place with hsame | ⟨-, hthere⟩
  · rw [hsame, hdir]
  · exact hthere

theorem ne_nil_of_missing (h : d.at? place = none) : place ≠ [] := by
  rintro rfl
  exact nomatch h

theorem made_put (hnone : d.at? place = none) : Made d (d.put place .directory) := by
  refine ⟨rfl, fun p => ?_⟩
  rw [at?_put (ne_nil_of_missing hnone)]
  split_ifs with hp
  · rw [hp]
    exact .inr ⟨hnone, rfl⟩
  · exact .inl rfl

theorem follow_eq_ok_iff {ps : List Text} : d.follow path ps = .ok place ↔
    ¬ (path.contains '\x00' || pathLimit < Text.byteCount path) = true ∧
      ps.foldlM d.enter (if Path.isAbsolute path then [] else d.home) = .ok place := by
  unfold follow
  by_cases hlimit : (path.contains '\x00' || pathLimit < Text.byteCount path) = true
  · rw [if_pos hlimit]
    exact ⟨fun hp => (nomatch hp), fun hp => absurd hlimit hp.1⟩
  · rw [if_neg hlimit]
    exact ⟨fun hp => ⟨hlimit, hp⟩, fun hp => hp.2⟩

theorem exists_of_makeDirectory (h : d.makeDirectory path = .ok d') : ∃ place,
    d.follow path (trimmedParts path) = .ok place ∧ d.at? place = none ∧
      d' = d.put place .directory := by
  unfold makeDirectory at h
  dsimp only at h
  rcases hplace : d.follow path (trimmedParts path) with f | place
  · rw [← trimmedParts, hplace] at h
    cases h
  · replace h : (if (d.at? place).isSome then Except.error Obstacle.taken
        else .ok (d.put place .directory)) = .ok d' := by rwa [← trimmedParts, hplace] at h
    split_ifs at h with htaken
    exact ⟨place, rfl, by simpa using htaken, (Except.ok.inj h).symm⟩

theorem foldlM_empties_of_directory (hdir : d.at? place = some .directory) :
    ∀ {ps : List Text}, (∀ part ∈ ps, part.isEmpty = true) → ps.foldlM d.enter place = .ok place
  | [], _ => rfl
  | part :: ps, hps => by
    have hpart : part = [] := by simpa using hps part List.mem_cons_self
    have hrest := foldlM_empties_of_directory hdir fun p hp => hps p (List.mem_cons_of_mem part hp)
    refine foldlM_cons_eq_ok_iff.mpr ⟨place, enter_eq_ok_iff.mpr ⟨hdir, ?_⟩, hrest⟩
    rw [hpart]
    rfl

/-- **A directory that was made** is there. -/
theorem isDirectory_of_makeDirectory (hne : path ≠ []) (h : d.makeDirectory path = .ok d') :
    d'.isDirectory path = true := by
  obtain ⟨place, hfollow, hnone, rfl⟩ := exists_of_makeDirectory h
  have hmade := made_put hnone
  have hdir : (d.put place .directory).at? place = some .directory := by
    rw [at?_put (ne_nil_of_missing hnone), if_pos rfl]
  obtain ⟨hlimit, hfold⟩ := follow_eq_ok_iff.mp hfollow
  obtain ⟨empties, hempties, hpieces⟩ := exists_pieces_eq path
  refine isDirectory_iff.mpr ⟨place, locate_eq_ok_iff.mpr ⟨hne, hlimit, ?_⟩, hdir⟩
  -- the empty parts at the end of the path stay in the new directory
  rw [hpieces, foldlM_append_eq_ok_iff]
  exact ⟨place, foldlM_mono (fun p hp => hmade.directory hp) hfold,
    foldlM_empties_of_directory hdir hempties⟩

theorem made_makeDirectory (h : d.makeDirectory path = .ok d') : Made d d' := by
  obtain ⟨place, -, hnone, rfl⟩ := exists_of_makeDirectory h
  exact made_put hnone

theorem made_makeNested : ∀ {d : Disk} {paths : List Text}, Made d (d.makeNested paths).2
  | d, [] => Made.refl d
  | d, path :: outer => by
    have houter : Made d (d.makeNested outer).2 := made_makeNested
    unfold makeNested
    split
    · next d' hd => exact made_makeDirectory hd
    · split
      · next d' hd =>
        rw [hd] at houter
        split
        · next d'' hd' => exact houter.trans (made_makeDirectory hd')
        · exact houter
      · exact houter
    · exact Made.refl d

/-- **The directories that were made** lead to the first one that was asked for. -/
theorem isDirectory_of_makeNested {outer : List Text} (hne : path ≠ [])
    (h : d.makeNested (path :: outer) = (true, d')) : d'.isDirectory path = true := by
  unfold makeNested at h
  split at h
  · next d₁ hd =>
    obtain rfl : d₁ = d' := congrArg Prod.snd h
    exact isDirectory_of_makeDirectory hne hd
  · split at h
    · next d₁ _ =>
      split at h
      · next d₂ hd =>
        obtain rfl : d₂ = d' := congrArg Prod.snd h
        exact isDirectory_of_makeDirectory hne hd
      · obtain rfl : d₁ = d' := congrArg Prod.snd h
        exact congrArg Prod.fst h
    · next hfailed =>
      rcases hr : d.makeNested outer with ⟨b, d₁⟩
      rw [hr] at h
      exact absurd (hr.trans h) (hfailed d')
  · obtain rfl : d = d' := congrArg Prod.snd h
    exact congrArg Prod.fst h

theorem of_makeDirectories (h : d.makeDirectories path = (.ok (), d')) :
    Made d d' ∧ (path = [] ∨ d'.isDirectory path = true) := by
  unfold makeDirectories at h
  split_ifs at h with hempty
  · obtain rfl : d = d' := congrArg Prod.snd h
    exact ⟨Made.refl d, .inl (List.isEmpty_iff.mp hempty)⟩
  · have hne : path ≠ [] := fun hnil => hempty (List.isEmpty_iff.mpr hnil)
    split at h
    · next d₁ hd =>
      obtain rfl : d₁ = d' := congrArg Prod.snd h
      have hmade : Made d (d.makeNested (Path.ancestors path)).2 := made_makeNested
      rw [hd] at hmade
      exact ⟨hmade, .inr (isDirectory_of_makeNested hne hd)⟩
    · exact nomatch congrArg Prod.fst h

/-! ### Stores that were opened -/

/-- **A store that was opened** has its file at the place that its path leads to, once the missing
directories are made, and starts with the tables that are there. -/
theorem exists_of_openStore {inUse : List Text} {n : Nat} {o : Origin} {l : Locale} {s : Store}
    (h : d.openStore inUse n o l path = (.ok s, d')) : ∃ d₁ place t, Made d d₁ ∧
      d₁.HostsAt path place ∧ tables? (d₁.at? place) = some t ∧ place ∉ inUse ∧
      s = { number := n, origin := o, locale := l, tables := t, file := some ⟨path, place, t⟩ } ∧
      d' = d₁.put place (.tables t) := by
  unfold openStore at h
  split at h
  · exact nomatch congrArg Prod.fst h
  · next d₁ hd =>
    obtain ⟨hmade, hparent⟩ := of_makeDirectories hd
    split at h
    · exact nomatch congrArg Prod.fst h
    · next place hplace =>
      split at h
      · exact nomatch congrArg Prod.fst h
      · next t ht =>
        split_ifs at h with huse
        · exact nomatch congrArg Prod.fst h
        · obtain rfl := Except.ok.inj (congrArg Prod.fst h)
          obtain rfl := congrArg Prod.snd h
          refine ⟨d₁, place, t, hmade, ⟨hparent, hplace, fun hdir => ?_⟩, ht,
            fun hmem => huse (List.contains_iff_mem.mpr hmem), rfl, rfl⟩
          rw [hdir] at ht
          exact nomatch ht

/-- **A file keeps its place** when it is written. -/
theorem HostsAt.put (h : d.HostsAt path place) {c : FileContent} (hc : c ≠ .directory) :
    (d.put place c).HostsAt path place := by
  have hat (p : Text) : (d.put place c).at? p = if p = place then some c else d.at? p :=
    at?_put (ne_nil_of_file h.file) _ p
  have hkept (p : Text) (hp : d.at? p = some .directory) :
      (d.put place c).at? p = some .directory := by
    rw [hat, if_neg, hp]
    rintro rfl
    exact h.file hp
  have hhome : (d.put place c).home = d.home := rfl
  refine ⟨h.parent.imp_right fun hdir => ?_, locate_mono hhome hkept h.locate, fun hdir => ?_⟩
  · obtain ⟨p, hp, hthere⟩ := isDirectory_iff.mp hdir
    exact isDirectory_iff.mpr ⟨p, locate_mono hhome hkept hp, hkept p hthere⟩
  · rw [hat, if_pos rfl] at hdir
    exact hc (Option.some.inj hdir)

theorem HostsAt.put_tables (h : d.HostsAt path place) (t : Tables) :
    (d.put place (.tables t)).HostsAt path place :=
  h.put nofun

/-- **A store that was closed** is opened again by the same path, with the tables of its file. -/
theorem HostsAt.reopen_eq (h : d.HostsAt path place) {s : Store} {t : Tables}
    (hs : s.file = some ⟨path, place, t⟩) {inUse : List Text} (huse : place ∉ inUse) (n : Nat)
    (o : Origin) (l : Locale) : ((d.closeStore s).openStore inUse n o l path).1 =
      .ok { number := n, origin := o, locale := l, tables := t, file := some ⟨path, place, t⟩ } := by
  have hclose : d.closeStore s = d.put place (.tables t) := by
    unfold closeStore
    rw [hs]
  have hat : (d.put place (.tables t)).at? place = some (.tables t) := by
    rw [at?_put (ne_nil_of_file h.file), if_pos rfl]
  have hfree : inUse.contains place = false := by simpa using huse
  rw [hclose, (h.put_tables t).openStore_eq, hat]
  dsimp only [tables?]
  rw [hfree, if_neg Bool.false_ne_true]

end Typeahead.Disk
