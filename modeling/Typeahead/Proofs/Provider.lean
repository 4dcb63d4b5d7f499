import Typeahead.Proofs.Dictionary
import Typeahead.Proofs.Disk.Opening
import Typeahead.Proofs.Store
import Typeahead.Provider

/-! # Providers

A disk is `Disk.Sound` if the tables on it are, and what is written to it keeps it so. From a sound
disk a `Provider.Sound` provider opens sound stores, and it gives regular main dictionaries. The
provider that reads a data directory is sound (`sound_directory`), and so is the one that keeps
everything in memory, if its main dictionaries are regular (`sound_memory`). What these give are
coherent main dictionaries as well (`coherent_directory`, `coherent_memory`). -/

namespace Typeahead

/-- What a map holds after a key was set, it held before, or it is what was set. -/
theorem WordMap.mem_set {α : Type} {k : Text} {v : α} {a : Text × α} : ∀ {m : WordMap α},
    a ∈ WordMap.set k v m → a = (k, v) ∨ a ∈ m
  | [], h => .inl (List.mem_singleton.mp h)
  | e :: m, h => by
    unfold set alter at h
    split at h
    · exact List.mem_cons.mp h
    · exact (List.mem_cons.mp h).imp_right (List.mem_cons_of_mem _)
    · rcases List.mem_cons.mp h with rfl | h
      · exact .inr List.mem_cons_self
      · exact (mem_set h).imp_right (List.mem_cons_of_mem _)

namespace Disk

/-- The tables on the disk are sound. -/
def Sound (d : Disk) : Prop := ∀ place t, (place, FileContent.tables t) ∈ d.files → t.Sound

variable {d d' : Disk} {place path : Text} {c : FileContent}

theorem sound_default : Disk.Sound default := fun _ _ h => absurd h List.not_mem_nil

theorem sound_put (h : d.Sound) (hc : ∀ t, c = .tables t → t.Sound) : (d.put place c).Sound := by
  intro place' t ht
  rcases WordMap.mem_set ht with heq | ht
  · exact hc t (Prod.ext_iff.mp heq).2.symm
  · exact h place' t ht

theorem sound_at (h : d.Sound) {t : Tables} (ht : d.at? place = some (.tables t)) : t.Sound := by
  unfold at? at ht
  split_ifs at ht
  · exact nomatch ht
  · exact h place t (WordMap.mem_of_get? ht)

/-! ### Directories and files -/

theorem sound_makeDirectory (h : d.Sound) (hd : d.makeDirectory path = .ok d') : d'.Sound := by
  obtain ⟨place, -, -, rfl⟩ := exists_of_makeDirectory hd
  exact sound_put h (by simp)

theorem sound_makeNested (h : d.Sound) : ∀ paths, (d.makeNested paths).2.Sound
  | [] => h
  | path :: outer => by
    unfold makeNested
    split
    · next d' hd => exact sound_makeDirectory h hd
    · split
      · next d' hd =>
        have hd' : d'.Sound := by
          have hrest := sound_makeNested h outer
          rwa [hd] at hrest
        split
        · next d'' hd'' => exact sound_makeDirectory hd' hd''
        · exact hd'
      · exact sound_makeNested h outer
    · exact h

theorem sound_makeDirectories (h : d.Sound) (path : Text) : (d.makeDirectories path).2.Sound := by
  have hnested := sound_makeNested h (Path.ancestors path)
  unfold makeDirectories
  split_ifs
  · exact h
  · split
    · next d' hd => rwa [hd] at hnested
    · next d' hd => rwa [hd] at hnested

theorem sound_writeNested (h : d.Sound) (path : Text) (hc : ∀ t, c = .tables t → t.Sound) :
    (d.writeNested path c).2.Sound := by
  have hmade := sound_makeDirectories h (Path.parent path)
  unfold writeNested andThen
  split
  · next d' hd =>
    rw [hd] at hmade
    unfold writeFile
    dsimp only
    split
    · split_ifs
      · exact hmade
      · exact sound_put hmade hc
    · exact hmade
  · next f d' hd => rwa [hd] at hmade

/-! ### Stores -/

theorem sound_tables? (h : d.Sound) {t : Tables} (ht : tables? (d.at? place) = some t) :
    t.Sound := by
  unfold tables? at ht
  split at ht
  · exact Option.some.inj ht ▸ Tables.sound_empty
  · next u hu => exact Option.some.inj ht ▸ sound_at h hu
  · split_ifs at ht
    exact Option.some.inj ht ▸ Tables.sound_empty
  · exact nomatch ht

theorem sound_closeStore (h : d.Sound) {s : Store} (hs : s.Sound) : (d.closeStore s).Sound := by
  unfold closeStore
  split
  · next f hf =>
    refine sound_put h fun t ht => ?_
    obtain rfl := FileContent.tables.inj ht
    exact hs.file f hf ▸ hs.tables
  · exact h

theorem sound_closeStores (ss : List Store) : ∀ {d : Disk}, d.Sound → (∀ s ∈ ss, s.Sound) →
    (ss.foldl closeStore d).Sound := by
  induction ss with
  | nil => exact fun h _ => h
  | cons s ss ih =>
    intro d h hss
    exact ih (sound_closeStore h (hss s List.mem_cons_self)) fun t ht =>
      hss t (List.mem_cons_of_mem _ ht)

end Disk

/-- A sound store that was opened under a number for an origin and a locale. -/
structure Store.IsOpened (n : Nat) (o : Origin) (l : Locale) (s : Store) : Prop
    extends Sound s where
  number : s.number = n
  origin : s.origin = o
  locale : s.locale = l

namespace Disk

theorem sound_openStore {d : Disk} (h : d.Sound) (inUse : List Text) (n : Nat) (o : Origin)
    (l : Locale) (path : Text) : (d.openStore inUse n o l path).2.Sound ∧
      ∀ s, (d.openStore inUse n o l path).1 = .ok s → s.IsOpened n o l := by
  have hmade := sound_makeDirectories h (Path.parent path)
  unfold openStore
  split
  · next f d' hd =>
    rw [hd] at hmade
    exact ⟨hmade, fun s hs => nomatch hs⟩
  · next d' hd =>
    rw [hd] at hmade
    split
    · exact ⟨hmade, fun s hs => nomatch hs⟩
    · next place _ =>
      split
      · exact ⟨hmade, fun s hs => nomatch hs⟩
      · next t ht =>
        have hsound : t.Sound := sound_tables? hmade ht
        split_ifs
        · exact ⟨hmade, fun s hs => nomatch hs⟩
        · refine ⟨sound_put hmade fun u hu => FileContent.tables.inj hu ▸ hsound, fun s hs => ?_⟩
          obtain rfl := Except.ok.inj hs
          exact ⟨⟨rfl, hsound, fun f hf => Option.some.inj hf ▸ rfl⟩, rfl, rfl, rfl⟩

end Disk

namespace Provider

/-- **What the engine relies on** in a provider. -/
structure Sound (p : Provider) : Prop where
  main : ∀ d l m, p.loadMain d l = .ok m → m.Regular
  disk : ∀ d inUse n o l account, d.Sound → (p.openStore d inUse n o l account).2.Sound
  opened : ∀ d inUse n o l account s, d.Sound →
    (p.openStore d inUse n o l account).1 = .ok s → s.IsOpened n o l

/-! ### Main dictionaries -/

section
variable {P : Dictionary → Prop} {d : Disk} {dir : Text} {form : NormalForm} {l : Locale}
  {m : Dictionary}

theorem of_loadLexicon (hlexicon : ∀ l : Lexicon, P (l.dictionary.normalized form)) {path : Text}
    (h : loadLexicon d form path = .ok m) : P m := by
  unfold loadLexicon at h
  rcases hl : d.lexicon path (payloadPath path) with f | l
  · rw [hl] at h
    exact nomatch h
  · rw [hl] at h
    obtain rfl := Except.ok.inj h
    exact hlexicon l

theorem of_mapM (hlexicon : ∀ l : Lexicon, P (l.dictionary.normalized form)) :
    ∀ {paths : List Text} {ms : List Dictionary}, paths.mapM (loadLexicon d form) = .ok ms →
      ∀ m ∈ ms, P m
  | [], ms, h, m, hm => by
    obtain rfl : [] = ms := Except.ok.inj h
    exact absurd hm List.not_mem_nil
  | path :: paths, ms, h, m, hm => by
    rw [List.mapM_cons] at h
    rcases hfirst : loadLexicon d form path with f | first
    · rw [hfirst] at h
      exact nomatch h
    · rcases hrest : paths.mapM (loadLexicon d form) with f | rest
      · rw [hfirst, hrest] at h
        exact nomatch h
      · rw [hfirst, hrest] at h
        obtain rfl : first :: rest = ms := Except.ok.inj h
        rcases List.mem_cons.mp hm with rfl | hm
        · exact of_loadLexicon hlexicon hfirst
        · exact of_mapM hlexicon hrest m hm

/-- **A main dictionary from a directory** is a lexicon that is asked about normal forms, or several
of them as one. -/
theorem loadMainFrom_induction (hlexicon : ∀ l : Lexicon, P (l.dictionary.normalized form))
    (hcollection : ∀ source ms, (∀ m ∈ ms, P m) → P (.collection source ms))
    (h : loadMainFrom dir form d l = .ok m) : P m := by
  unfold loadMainFrom at h
  rcases hpaths : indexesFor d dir l with f | paths
  · rw [hpaths] at h
    exact nomatch h
  · rw [hpaths] at h
    rcases paths with _ | ⟨path, _ | ⟨path', rest⟩⟩
    · exact nomatch h
    · exact of_loadLexicon hlexicon h
    · replace h : ((path :: path' :: rest).mapM (loadLexicon d form)).map
          (Dictionary.collection ⟨.main, some l⟩) = .ok m := h
      rcases hms : (path :: path' :: rest).mapM (loadLexicon d form) with f | ms
      · rw [hms] at h
        exact nomatch h
      · rw [hms] at h
        obtain rfl := Except.ok.inj h
        exact hcollection _ ms (of_mapM hlexicon hms)

end

/-! ### The two providers -/

theorem of_memory {P : Dictionary → Prop} {mains : List (Text × Dictionary)}
    (h : ∀ m ∈ mains, P m.2) {d : Disk} {l : Locale} {m : Dictionary}
    (hm : (memory mains).loadMain d l = .ok m) : P m := by
  unfold memory at hm
  dsimp only at hm
  split at hm
  · next tag m' hfind => exact Except.ok.inj hm ▸ h _ (List.mem_of_find?_eq_some hfind)
  · exact nomatch hm

theorem sound_memory {mains : List (Text × Dictionary)} (h : ∀ m ∈ mains, m.2.Regular) :
    (memory mains).Sound where
  main _ _ _ hm := of_memory h hm
  disk _ _ _ _ _ _ hd := hd
  opened d inUse n o l account s _ hs := by
    obtain rfl := Except.ok.inj hs
    exact ⟨⟨rfl, Tables.sound_empty, fun f hf => nomatch hf⟩, rfl, rfl, rfl⟩

theorem sound_lexicon (tag : Text) (l : Lexicon) : (memory [(tag, l.dictionary)]).Sound :=
  sound_memory fun m hm => by
    rw [List.mem_singleton.mp hm]
    exact l.regular_lexicon

theorem sound_directory (dir : Text) (form : NormalForm) : (directory dir form).Sound where
  main _ _ _ hm := loadMainFrom_induction (fun l => l.regular_lexicon.normalized form)
    (fun source _ => Dictionary.regular_collection source) hm
  disk _ inUse n o l _ hd := (Disk.sound_openStore hd inUse n o l _).1
  opened _ inUse n o l _ s hd hs := (Disk.sound_openStore hd inUse n o l _).2 s hs

/-- The main dictionaries of the provider are coherent. -/
def Coherent (p : Provider) : Prop := ∀ d l m, p.loadMain d l = .ok m → m.Coherent

theorem coherent_memory {mains : List (Text × Dictionary)} (h : ∀ m ∈ mains, m.2.Coherent) :
    (memory mains).Coherent := fun _ _ _ hm => of_memory h hm

theorem coherent_directory (dir : Text) (form : NormalForm) : (directory dir form).Coherent :=
  fun _ _ _ hm => loadMainFrom_induction
    (fun l => (Dictionary.coherent_lexicon l).normalized form)
    (fun source _ => Dictionary.coherent_collection source) hm

end Provider

end Typeahead
