import Mathlib.Data.List.Basic
import Typeahead.Proofs.Disk.Opening

/-! # The names of stores

The name of a store joins its origin, its locale and its account with dashes. The origin can be read
off the name, but locales and accounts may hold dashes themselves: an account that begins with the
rest of another locale (`ReadsOn`) makes the same name, and otherwise names differ as soon as the
identities do (`storeName_eq_iff`). Where the parts of two names lead down from the directory
(`Path.IsPlain`), the names are all that tells the places apart (`exists_place_eq`), so the same is
true of the files: `same_file_iff` says when two stores that a directory opens have one file. -/

namespace Typeahead

open Text

/-! ### Names that lead down -/

/-- Every part of a name leads to something in the directory before. -/
def Path.IsPlain (name : Text) : Prop :=
  ∀ part ∈ pieces (· == '/') name, Path.moves part = true ∧ part ≠ ['.', '.']

instance {name : Text} : Decidable (Path.IsPlain name) := by
  unfold Path.IsPlain
  infer_instance

namespace Disk

variable {d d' : Disk} {place dir name : Text}

/-- Where a path leads does not depend on what else is on the disk. -/
theorem foldlM_turn {p : Text} : ∀ {ps : List Text} {place : Text},
    ps.foldlM d.enter place = .ok p → ps.foldlM turn place = .ok p
  | [], _, hp => hp
  | part :: ps, place, hp => by
    obtain ⟨q, hq, hp⟩ := foldlM_cons_eq_ok_iff.mp hp
    rw [List.foldlM_cons, (enter_eq_ok_iff.mp hq).2]
    exact foldlM_turn hp

theorem foldlM_plain {p : Text} : ∀ {ps : List Text} {place : Text},
    (∀ part ∈ ps, Path.moves part = true ∧ part ≠ ['.', '.']) →
    ps.foldlM d.enter place = .ok p → p = place ++ ps.flatMap ('/' :: ·)
  | [], place, _, hp => by
    obtain rfl := Except.ok.inj hp
    exact (List.append_nil _).symm
  | part :: ps, place, hplain, hp => by
    obtain ⟨q, hq, hp⟩ := foldlM_cons_eq_ok_iff.mp hp
    obtain ⟨hmoves, hdots⟩ := hplain part List.mem_cons_self
    have hturn := (enter_eq_ok_iff.mp hq).2
    unfold turn at hturn
    rw [hmoves, Bool.not_true, if_neg Bool.false_ne_true, if_neg hdots] at hturn
    split_ifs at hturn
    have hrest := foldlM_plain (fun r hr => hplain r (List.mem_cons_of_mem part hr)) hp
    rw [hrest, ← Except.ok.inj hturn, List.flatMap_cons, List.append_assoc]

/-- The parts of the path of a directory, before those of a name in it. -/
theorem exists_pieces_join (dir : Text) : ∃ before, ∀ name, Path.isAbsolute name = false →
    pieces (· == '/') (Path.join dir name) = before ++ pieces (· == '/') name ∧
      Path.isAbsolute (Path.join dir name) = Path.isAbsolute dir := by
  by_cases hdir : dir = []
  · refine ⟨[], fun name hname => ?_⟩
    have hjoin : Path.join dir name = name := by
      unfold Path.join
      rw [hname, hdir]
      rfl
    rw [hjoin, hname, hdir]
    exact ⟨rfl, rfl⟩
  · obtain ⟨lead, hlead, hslash⟩ : ∃ lead, Path.withSlash dir = lead ++ ['/'] ∧
        (lead ++ ['/']).head? = dir.head? := by
      unfold Path.withSlash
      split_ifs with hended
      · have hlast : dir.getLast? = some '/' := by simpa [hdir] using hended
        obtain ⟨lead, rfl⟩ := List.getLast?_eq_some_iff.mp hlast
        exact ⟨lead, rfl, rfl⟩
      · refine ⟨dir, rfl, ?_⟩
        rw [List.head?_append]
        obtain ⟨c, rest, rfl⟩ := List.exists_cons_of_ne_nil hdir
        rfl
    refine ⟨pieces (· == '/') lead, fun name hname => ?_⟩
    have hjoin : Path.join dir name = lead ++ '/' :: name := by
      unfold Path.join
      rw [hname, if_neg Bool.false_ne_true, hlead, List.append_assoc]
      rfl
    rw [hjoin]
    refine ⟨@pieces_append_cons (· == '/') '/' (beq_self_eq_true '/') lead name, ?_⟩
    unfold Path.isAbsolute
    rw [← hslash, List.head?_append, List.head?_append]
    rfl

/-- **The place of a plain name** is below that of the directory, wherever this is, and ends with the
name. -/
theorem exists_place_eq (home dir : Text) : ∃ q : Text, ∀ d : Disk, d.home = home →
    ∀ name place, Path.isAbsolute name = false → Path.IsPlain name →
      d.locate (Path.join dir name) = .ok place → place = q ++ '/' :: name := by
  obtain ⟨before, hbefore⟩ := exists_pieces_join dir
  have hfollow (d : Disk) (hd : d.home = home) (name place : Text)
      (hname : Path.isAbsolute name = false) (hplain : Path.IsPlain name)
      (hp : d.locate (Path.join dir name) = .ok place) :
      ∃ q, before.foldlM turn (if Path.isAbsolute dir then [] else home) = .ok q ∧
        place = q ++ '/' :: name := by
    obtain ⟨hpieces, habsolute⟩ := hbefore name hname
    obtain ⟨-, -, hfold⟩ := locate_eq_ok_iff.mp hp
    rw [hpieces, habsolute, hd, foldlM_append_eq_ok_iff] at hfold
    obtain ⟨q, hq, hrest⟩ := hfold
    refine ⟨q, foldlM_turn hq, ?_⟩
    rw [foldlM_plain hplain hrest, flatMap_pieces]
  rcases hq : before.foldlM turn (if Path.isAbsolute dir then [] else home) with f | q
  · refine ⟨[], fun d hd name place hname hplain hp => ?_⟩
    obtain ⟨r, hr, -⟩ := hfollow d hd name place hname hplain hp
    exact nomatch hq.symm.trans hr
  · refine ⟨q, fun d hd name place hname hplain hp => ?_⟩
    obtain ⟨r, hr, hplace⟩ := hfollow d hd name place hname hplain hp
    rw [hplace, Except.ok.inj (hq.symm.trans hr)]

end Disk

namespace Provider

variable {o o' : Origin} {l l' : Locale} {a a' : Option Text}

/-! ### What a name tells -/

/-- What an account adds to the name of a store. -/
def accountText (a : Option Text) : Text := (a.map ('-' :: ·)).getD []

/-- An account begins with the rest of a longer locale, and goes on with the other account. -/
def ReadsOn (l : Locale) (a : Option Text) (l' : Locale) (a' : Option Text) : Prop :=
  ∃ more, l'.stem = l.stem ++ '-' :: more ∧ a = some (more ++ accountText a')

/-- Two locales and accounts that the names of stores do not tell apart. -/
def LooksAlike (l : Locale) (a : Option Text) (l' : Locale) (a' : Option Text) : Prop :=
  l.stem = l'.stem ∧ a = a' ∨ ReadsOn l a l' a' ∨ ReadsOn l' a' l a

theorem storeName_eq (o : Origin) (l : Locale) (a : Option Text) :
    storeName o l a = o.name ++ '-' :: (l.stem ++ accountText a) ++ storeEnding := by
  unfold storeName accountText
  simp only [List.append_assoc, List.cons_append]

theorem name_injective : Function.Injective Origin.name := by
  intro o o' h
  cases o <;> cases o' <;> first | rfl | exact absurd h (by decide)

/-- The name of an origin ends with the first dash. -/
theorem takeWhile_name (o : Origin) (rest : Text) :
    (o.name ++ '-' :: rest).takeWhile (· != '-') = o.name := by
  have hfree : o.name.all (· != '-') = true := by cases o <;> rfl
  rw [List.takeWhile_append_of_pos (List.all_eq_true.mp hfree)]
  exact List.append_nil _

theorem accountText_injective : Function.Injective accountText := by
  intro a a' h
  cases a with
  | none =>
    cases a' with
    | none => rfl
    | some b' => exact nomatch h
  | some b =>
    cases a' with
    | none => exact nomatch h
    | some b' => exact congrArg some (List.cons.inj h).2

/-- The rest of the longer locale stands at the front of the account. -/
theorem readsOn_of_append {more : Text} (hstem : l'.stem = l.stem ++ more) (hne : more ≠ [])
    (ha : accountText a = more ++ accountText a') : ReadsOn l a l' a' := by
  obtain ⟨c, rest, rfl⟩ := List.exists_cons_of_ne_nil hne
  cases a with
  | none => exact nomatch ha
  | some b =>
    obtain ⟨rfl, hb⟩ := List.cons.inj ha
    exact ⟨rest, hstem, congrArg some hb⟩

theorem label_eq_of_readsOn (h : ReadsOn l a l' a') :
    l.stem ++ accountText a = l'.stem ++ accountText a' := by
  obtain ⟨more, hstem, rfl⟩ := h
  rw [hstem, List.append_assoc]
  rfl

theorem label_eq_iff :
    l.stem ++ accountText a = l'.stem ++ accountText a' ↔ LooksAlike l a l' a' := by
  constructor
  · intro h
    rcases List.append_eq_append_iff.mp h with ⟨more, hstem, ha⟩ | ⟨more, hstem, ha⟩
    · by_cases hmore : more = []
      · rw [hmore, List.append_nil] at hstem
        rw [hmore, List.nil_append] at ha
        exact .inl ⟨hstem.symm, accountText_injective ha⟩
      · exact .inr (.inl (readsOn_of_append hstem hmore ha))
    · by_cases hmore : more = []
      · rw [hmore, List.append_nil] at hstem
        rw [hmore, List.nil_append] at ha
        exact .inl ⟨hstem, accountText_injective ha.symm⟩
      · exact .inr (.inr (readsOn_of_append hstem hmore ha))
  · rintro (⟨hstem, rfl⟩ | h | h)
    · rw [hstem]
    · exact label_eq_of_readsOn h
    · exact (label_eq_of_readsOn h).symm

/-- **Two stores have one name** exactly if their origins are the same, and what is told of their
locales and accounts reads the same. -/
theorem storeName_eq_iff : storeName o l a = storeName o' l' a' ↔ o = o' ∧ LooksAlike l a l' a' := by
  rw [storeName_eq, storeName_eq, List.append_left_inj, ← label_eq_iff]
  constructor
  · intro h
    have hname := congrArg (List.takeWhile (· != '-')) h
    rw [takeWhile_name, takeWhile_name] at hname
    obtain rfl := name_injective hname
    exact ⟨rfl, (List.cons.inj (List.append_cancel_left h)).2⟩
  · rintro ⟨rfl, hlabel⟩
    rw [hlabel]

/-- With the same locale, accounts are told apart. -/
theorem looksAlike_iff_of_stem_eq (hstem : l.stem = l'.stem) : LooksAlike l a l' a' ↔ a = a' := by
  refine ⟨fun h => ?_, fun h => .inl ⟨hstem, h⟩⟩
  rw [← label_eq_iff, hstem] at h
  exact accountText_injective (List.append_cancel_left h)

/-! ### Names without slashes -/

theorem getLast?_storeName : (storeName o l a).getLast? = some 'b' := by
  rw [storeName_eq, List.getLast?_append]
  rfl

theorem isAbsolute_storeName : Path.isAbsolute (storeName o l a) = false := by
  rw [storeName_eq]
  cases o <;> rfl

/-- Without slashes a name is its only part. -/
theorem isPlain_storeName (hl : '/' ∉ l.tag) (ha : ∀ b ∈ a, '/' ∉ b) :
    Path.IsPlain (storeName o l a) := by
  have hstem : '/' ∉ l.stem := by
    intro hmem
    obtain ⟨c, hc, hslash⟩ := List.mem_map.mp hmem
    split_ifs at hslash
    · exact absurd hslash (by decide)
    · exact hl (hslash ▸ hc)
  have haccount : '/' ∉ accountText a := by
    cases a with
    | none => exact List.not_mem_nil
    | some b =>
      intro hmem
      rcases List.mem_cons.mp hmem with hdash | hmem
      · exact absurd hdash (by decide)
      · exact ha b rfl hmem
  have hname : '/' ∉ o.name := by cases o <;> decide
  have hfree : ∀ c ∈ storeName o l a, (c == '/') = false := by
    intro c hc
    rw [beq_eq_false_iff_ne]
    rintro rfl
    rw [storeName_eq, List.mem_append, List.mem_append, List.mem_cons, List.mem_append] at hc
    rcases hc with (hc | hc | hc | hc) | hc
    · exact hname hc
    · exact absurd hc (by decide)
    · exact hstem hc
    · exact haccount hc
    · exact absurd hc (by decide)
  have hlast := getLast?_storeName (o := o) (l := l) (a := a)
  intro part hpart
  rw [pieces_of_forall hfree, List.mem_singleton] at hpart
  rw [hpart]
  constructor
  · unfold Path.moves
    rw [Bool.and_eq_true, Bool.not_eq_true', List.isEmpty_eq_false_iff, bne_iff_ne]
    constructor
    · intro hnil
      rw [hnil] at hlast
      exact nomatch hlast
    · intro hdot
      rw [hdot] at hlast
      exact absurd hlast (by decide)
  · intro hdots
    rw [hdots] at hlast
    exact absurd hlast (by decide)

/-! ### Files that are shared -/

/-- The place of a store that a directory opens. -/
theorem place_eq_of_openStore {dir : Text} {form : NormalForm} {d : Disk} {inUse : List Text}
    {n : Nat} {s : Store} (h : ((directory dir form).openStore d inUse n o l a).1 = .ok s) :
    ∃ (d₁ : Disk) (place : Text), d₁.home = d.home ∧
      d₁.locate (Path.join dir (storeName o l a)) = .ok place ∧ s.place = some place := by
  obtain ⟨d₁, place, t, hmade, hhosts, -, -, rfl, -⟩ := Disk.exists_of_openStore (Prod.ext h rfl)
  exact ⟨d₁, place, hmade.home, hhosts.locate, rfl⟩

/-- **Two stores have one file** exactly if their origins are the same and what is told of their
locales and accounts reads the same: then the locales and the accounts are the same, or one of the
accounts begins with the rest of the other locale. -/
theorem same_file_iff {dir : Text} {form : NormalForm} {d d' : Disk} {inUse inUse' : List Text}
    {n n' : Nat} {s s' : Store} (hhome : d'.home = d.home)
    (h : ((directory dir form).openStore d inUse n o l a).1 = .ok s)
    (h' : ((directory dir form).openStore d' inUse' n' o' l' a').1 = .ok s')
    (hplain : Path.IsPlain (storeName o l a)) (hplain' : Path.IsPlain (storeName o' l' a')) :
    s.place = s'.place ↔ o = o' ∧ LooksAlike l a l' a' := by
  obtain ⟨q, hq⟩ := Disk.exists_place_eq d.home dir
  obtain ⟨d₁, place, hhome₁, hlocate, hplace⟩ := place_eq_of_openStore h
  obtain ⟨d₂, place', hhome₂, hlocate', hplace'⟩ := place_eq_of_openStore h'
  rw [hplace, hplace', hq d₁ hhome₁ _ _ isAbsolute_storeName hplain hlocate,
    hq d₂ (hhome₂.trans hhome) _ _ isAbsolute_storeName hplain' hlocate', ← storeName_eq_iff]
  constructor
  · intro hsame
    exact (List.cons.inj (List.append_cancel_left (Option.some.inj hsame))).2
  · intro hsame
    rw [hsame]

/-- Two accounts of one locale have files of their own. -/
theorem same_file_iff_two_accounts :
    let dir := "/d".toList
    let d : Disk := { files := [(dir, .directory)] }
    let en : Locale := ⟨"en".toList⟩
    let file (a : String) : StoreFile :=
      ⟨"/d/user-en-".toList ++ a.toList ++ storeEnding,
        "/d/user-en-".toList ++ a.toList ++ storeEnding, {}⟩
    let s : Store := { number := 0, origin := .user, locale := en, file := some (file "work") }
    let s' : Store := { number := 1, origin := .user, locale := en, file := some (file "home") }
    (((directory dir .nfc).openStore d [] 0 .user en (some "work".toList)).1 = .ok s ∧
      ((directory dir .nfc).openStore d [] 1 .user en (some "home".toList)).1 = .ok s' ∧
      Path.IsPlain (storeName .user en (some "work".toList)) ∧
      Path.IsPlain (storeName .user en (some "home".toList))) ∧ s.place ≠ s'.place := by
  intro dir d en file s s'
  have h : ((directory dir .nfc).openStore d [] 0 .user en (some "work".toList)).1 = .ok s := by
    decide +kernel
  have h' : ((directory dir .nfc).openStore d [] 1 .user en (some "home".toList)).1 = .ok s' := by
    decide +kernel
  have hplain := isPlain_storeName (o := .user) (l := en) (a := some "work".toList) (by decide)
    (by decide)
  have hplain' := isPlain_storeName (o := .user) (l := en) (a := some "home".toList) (by decide)
    (by decide)
  refine ⟨⟨h, h', hplain, hplain'⟩, fun hsame => ?_⟩
  obtain ⟨-, halike⟩ := (same_file_iff rfl h h' hplain hplain').mp hsame
  exact absurd ((looksAlike_iff_of_stem_eq rfl).mp halike) (by decide)

/-- The store of an account is opened for a locale that ends with the account's name, and holds the
words of the account; and a locale with dots leads to the store of another origin. -/
theorem account_opened_as_locale :
    let dir := "/d".toList
    let p := directory dir .nfc
    let d : Disk := { files := [(dir, .directory)] }
    let work := p.openStore d [] 0 .user ⟨"en".toList⟩ (some "work".toList)
    let left := (work.1.bind (·.add "synergy".toList 250)).toOption.elim work.2 work.2.closeStore
    let opened (d : Disk) (o : Origin) (tag : String) :=
      (p.openStore d [] 1 o ⟨tag.toList⟩ none).1.toOption
    (work.1.toOption.bind (·.place) = some "/d/user-en-work.redb".toList ∧
      (opened d .user "en-work").bind (·.place) = some "/d/user-en-work.redb".toList ∧
      (opened left .user "en-work").map (·.tables.words.keys) = some ["synergy".toList]) ∧
      (opened d .history "en").bind (·.place) = some "/d/history-en.redb".toList ∧
      (opened d .user "x/../history-en").bind (·.place) = some "/d/history-en.redb".toList := by
  decide +kernel

end Provider

end Typeahead
