import Mathlib.Data.Finset.Max
import Mathlib.Data.List.Nodup
import Typeahead.Proofs.Blacklist
import Typeahead.Proofs.Disk.Opening

/-! # Blacklists that are loaded again

The words of a blacklist are kept in increasing order (`increasing_edited`), so that the same words
are the same list (`Increasing.ext`). Hence what is read from the file of some words is these words
exactly if each of them can stand on a line of its own (`Increasing.parse_render_eq_iff`): a word
that has a line feed is cut there, an empty one is not seen, and of the words that end with a
carriage return the longest one is not read from any line. A list that was written has its file in
place and is read from it (`exists_of_persist`), and to write it again changes nothing. -/

namespace Typeahead

namespace Blacklist

variable {v w : Text} {ws ws' : List Text}

/-! ### Words in order -/

/-- The words increase strictly. -/
def Increasing (ws : List Text) : Prop := ws.Pairwise fun v w => compare v w = .lt

theorem Increasing.nodup (h : Increasing ws) : ws.Nodup :=
  h.imp fun {_ _} hlt => WordMap.ne_of_lt hlt

/-- **The same words** in increasing order are the same list. -/
theorem Increasing.ext (h : Increasing ws) (h' : Increasing ws') (hmem : ∀ v, v ∈ ws ↔ v ∈ ws') :
    ws = ws' := by
  have hperm : ws.Perm ws' := (List.perm_ext_iff_of_nodup h.nodup h'.nodup).mpr hmem
  refine hperm.eq_of_pairwise (fun a b _ _ hab hba => ?_) h h'
  exact absurd rfl (WordMap.ne_of_lt (WordMap.lt_trans hab hba))

theorem increasing_insertWord (w : Text) (h : Increasing ws) : Increasing (insertWord w ws) := by
  induction ws with
  | nil => exact List.pairwise_singleton _ w
  | cons x ws ih =>
    obtain ⟨hx, hws⟩ := List.pairwise_cons.mp h
    unfold insertWord
    split
    · next hlt =>
      refine List.pairwise_cons.mpr ⟨fun y hy => ?_, h⟩
      rcases List.mem_cons.mp hy with rfl | hy
      · exact hlt
      · exact WordMap.lt_trans hlt (hx y hy)
    · exact h
    · next hgt =>
      refine List.pairwise_cons.mpr ⟨fun y hy => ?_, ih hws⟩
      rcases mem_insertWord.mp hy with rfl | hy
      · exact Std.OrientedCmp.lt_of_gt hgt
      · exact hx y hy

theorem increasing_parse (t : Text) : Increasing (parse t) :=
  List.foldlRecOn (motive := Increasing) _ _ List.Pairwise.nil
    fun _ h w _ => increasing_insertWord w h

theorem increasing_load (n : Nat) (path : Text) (d : Disk) : Increasing (load n path d).words := by
  unfold load
  dsimp only
  cases d.text? path with
  | none => exact List.Pairwise.nil
  | some t => exact increasing_parse t

/-! ### Lists that are changed -/

/-- A change of a list. -/
inductive Edit where
  | add (word : Text)
  | remove (word : Text)
  deriving DecidableEq, Repr

/-- The list after a change. -/
def edit (b : Blacklist) : Edit → Blacklist
  | .add w => b.add w
  | .remove w => b.remove w

/-- The list after some changes. -/
def edited (b : Blacklist) (es : List Edit) : Blacklist := es.foldl edit b

theorem path_edited (b : Blacklist) (es : List Edit) : (b.edited es).path = b.path := by
  refine List.foldlRecOn (motive := fun c : Blacklist => c.path = b.path) _ _ rfl ?_
  rintro c hc (w | w) - <;> exact hc

/-- **The words stay in order** whatever is added and removed. -/
theorem increasing_edited {b : Blacklist} (h : Increasing b.words) (es : List Edit) :
    Increasing (b.edited es).words := by
  refine List.foldlRecOn (motive := fun c : Blacklist => Increasing c.words) _ _ h ?_
  rintro c hc (w | w) -
  · exact increasing_insertWord w hc
  · exact List.Pairwise.filter _ hc

/-! ### Words that are read as they are -/

theorem newline_not_mem_of_mem_linesOf (h : v ∈ linesOf w) : '\n' ∉ v := by
  obtain ⟨⟨p, hp, rfl⟩, -⟩ := mem_linesOf_iff.mp h
  intro hmem
  have hpiece : '\n' ∈ p := by
    unfold Text.dropReturn at hmem
    split_ifs at hmem
    · exact List.mem_of_mem_dropLast hmem
    · exact hmem
  exact absurd (Text.sep_eq_false_of_mem_pieces hp _ hpiece) (by decide)

/-- Only from a line with one more carriage return is a word read that ends with one. -/
theorem eq_concat_of_mem_linesOf (hw : '\n' ∉ w) (hv : v.getLast? = some '\r')
    (h : v ∈ linesOf w) : w = v ++ ['\r'] := by
  have hfree : ∀ a ∈ w, (a == '\n') = false := by
    intro a ha
    rw [beq_eq_false_iff_ne]
    rintro rfl
    exact hw ha
  obtain ⟨⟨p, hp, hpv⟩, -⟩ := mem_linesOf_iff.mp h
  rw [Text.pieces_of_forall hfree] at hp
  obtain rfl := List.mem_singleton.mp hp
  unfold Text.dropReturn at hpv
  split_ifs at hpv with hreturn
  · obtain ⟨lead, rfl⟩ := List.getLast?_eq_some_iff.mp hreturn
    rw [List.dropLast_concat] at hpv
    rw [hpv]
  · rw [hpv] at hreturn
    exact absurd hv hreturn

/-- No words are such that each of them has one beside it that is one character longer. -/
theorem exists_not_mem_concat (c : Char) (hw : w ∈ ws) (p : Text → Prop) (hp : p w) :
    ∃ v ∈ ws, p v ∧ ¬ (p (v ++ [c]) ∧ v ++ [c] ∈ ws) := by
  classical
  obtain ⟨v, hv, hlongest⟩ := (ws.toFinset.filter p).exists_max_image List.length
    ⟨w, Finset.mem_filter.mpr ⟨List.mem_toFinset.mpr hw, hp⟩⟩
  obtain ⟨hv, hpv⟩ := Finset.mem_filter.mp hv
  refine ⟨v, List.mem_toFinset.mp hv, hpv, fun ⟨hpc, hmem⟩ => ?_⟩
  have hle := hlongest (v ++ [c]) (Finset.mem_filter.mpr ⟨List.mem_toFinset.mpr hmem, hpc⟩)
  rw [List.length_append, List.length_singleton] at hle
  omega

/-- **Words are read as they were written** exactly if each of them can stand on a line. -/
theorem Increasing.parse_render_eq_iff (h : Increasing ws) :
    parse (render ws) = ws ↔ ∀ w ∈ ws, w.IsLine := by
  constructor
  · intro hsame
    have hread (w : Text) (hw : w ∈ ws) : ∃ u ∈ ws, w ∈ linesOf u := by
      rw [← hsame] at hw
      exact mem_parse_render_iff.mp hw
    have hfree (w : Text) (hw : w ∈ ws) : '\n' ∉ w := by
      obtain ⟨u, -, hu⟩ := hread w hw
      exact newline_not_mem_of_mem_linesOf hu
    intro w hw
    obtain ⟨u, -, hu⟩ := hread w hw
    refine ⟨(mem_linesOf_iff.mp hu).2, hfree w hw, fun hreturn => ?_⟩
    -- the longest word of the list that ends with a carriage return is read from a longer one
    obtain ⟨v, hv, hvr, hno⟩ :=
      exists_not_mem_concat '\r' hw (fun v => v.getLast? = some '\r') hreturn
    obtain ⟨u, hu, hmem⟩ := hread v hv
    have hlonger := eq_concat_of_mem_linesOf (hfree u hu) hvr hmem
    rw [hlonger] at hu
    exact hno ⟨List.getLast?_concat, hu⟩
  · intro hlines
    refine (increasing_parse _).ext h fun v => ?_
    rw [mem_parse_render_iff]
    constructor
    · rintro ⟨w, hw, hv⟩
      rw [linesOf_of_isLine (hlines w hw)] at hv
      rwa [List.mem_singleton.mp hv]
    · intro hv
      refine ⟨v, hv, ?_⟩
      rw [linesOf_of_isLine (hlines v hv)]
      exact List.mem_singleton_self v

end Blacklist

/-! ### Files that are written twice -/

theorem WordMap.set_set {α : Type} (k : Text) (v : α) : ∀ m : WordMap α,
    set k v (set k v m) = set k v m
  | [] => by
    have hk : compare k k = .eq := Std.ReflOrd.compare_self
    show alter k _ [(k, v)] = _
    rw [alter, hk]
    rfl
  | (j, u) :: m => by
    have hk : compare k k = .eq := Std.ReflOrd.compare_self
    have ih := set_set k v m
    unfold set at ih ⊢
    rw [alter]
    split
    · show alter k _ ((k, v) :: (j, u) :: m) = _
      rw [alter, hk]
    · show alter k _ ((k, v) :: m) = _
      rw [alter, hk]
    · next hgt =>
      rw [alter, hgt]
      exact congrArg _ ih

namespace Blacklist

variable {d d' : Disk} {path : Text} {b : Blacklist}

/-- **A list that was written** has its file in place, with its words in it. -/
theorem exists_of_persist (hpath : b.path = some path) (h : b.persist d = (.ok (), d')) :
    ∃ (d₁ : Disk) (place : Text), d₁.HostsAt path place ∧
      d' = d₁.put place (.text (render b.words)) := by
  unfold persist at h
  rw [hpath] at h
  dsimp only at h
  unfold Disk.writeNested Disk.andThen at h
  split at h
  · next d₁ hd =>
    obtain ⟨-, hparent⟩ := Disk.of_makeDirectories hd
    dsimp only at h
    unfold Disk.writeFile at h
    split at h
    · next place hplace =>
      split_ifs at h with hdir
      · exact nomatch congrArg Prod.fst h
      · exact ⟨d₁, place, ⟨hparent, hplace, hdir⟩, (congrArg Prod.snd h).symm⟩
    · exact nomatch congrArg Prod.fst h
  · exact nomatch congrArg Prod.fst h

/-- It is read from there. -/
theorem words_load_of_persist (hpath : b.path = some path) (h : b.persist d = (.ok (), d'))
    (n : Nat) : (load n path d').words = parse (render b.words) := by
  obtain ⟨d₁, place, hhosts, rfl⟩ := exists_of_persist hpath h
  have hthere : (d₁.put place (.text (render b.words))).HostsAt path place := hhosts.put nofun
  show Disk.listed _ path = _
  rw [hthere.listed_eq, Disk.at?_put (Disk.ne_nil_of_file hhosts.file), if_pos rfl]

/-- **To write a list again** changes nothing. -/
theorem persist_persist (hpath : b.path = some path) (h : b.persist d = (.ok (), d')) :
    b.persist d' = (.ok (), d') := by
  obtain ⟨d₁, place, hhosts, rfl⟩ := exists_of_persist hpath h
  have hthere : (d₁.put place (.text (render b.words))).HostsAt path place := hhosts.put nofun
  have hput : (d₁.put place (.text (render b.words))).put place (.text (render b.words)) =
      d₁.put place (.text (render b.words)) := by
    unfold Disk.put
    rw [WordMap.set_set]
  rw [hthere.persist_eq hpath, hput]

/-- **A list that is loaded again** after any changes. Where its file has its place the list is
written; and if it is written, by whatever path, what is loaded then is what is read of its words,
which are these words exactly if each of them can stand on a line of its own. To write the list
again leaves the disk as it is. -/
theorem reloaded_iff (n m : Nat) (path : Text) (d₀ d : Disk) (es : List Edit) :
    let b := (load n path d₀).edited es
    let d' := (b.persist d).2
    ((∃ place, d.HostsAt path place) → (b.persist d).1 = .ok ()) ∧
      ((b.persist d).1 = .ok () →
        ((load m path d').words = b.words ↔ ∀ w ∈ b.words, w.IsLine) ∧
          (∀ v, (load m path d').contains v = true ↔
            ∃ w, b.contains w = true ∧ v ∈ linesOf w) ∧
          b.persist d' = (.ok (), d')) := by
  intro b d'
  have hpath : b.path = some path := path_edited _ es
  constructor
  · rintro ⟨place, hhosts⟩
    rw [hhosts.persist_eq hpath]
  · intro hok
    have hwritten : b.persist d = (.ok (), d') := Prod.ext hok rfl
    have hwords := words_load_of_persist hpath hwritten m
    refine ⟨?_, fun v => ?_, persist_persist hpath hwritten⟩
    · rw [hwords]
      exact (increasing_edited (increasing_load n path d₀) es).parse_render_eq_iff
    · unfold contains
      rw [List.contains_iff_mem, hwords, mem_parse_render_iff]
      simp only [List.contains_iff_mem]

/-- The file holds a word that is taken off the list, and one that stays. -/
theorem reloaded_iff_two_words :
    let path := "/list".toList
    let d : Disk := { files := [(path, .text "hello\nteh\n".toList)] }
    let b := (load 0 path d).edited [.add "recieve".toList, .remove "hello".toList]
    let d' := (b.persist d).2
    (d.HostsAt path path ∧ b.words = ["recieve".toList, "teh".toList] ∧ ∀ w ∈ b.words, w.IsLine) ∧
      (b.persist d).1 = .ok () ∧ (load 1 path d').words = b.words ∧
        b.persist d' = (.ok (), d') := by
  intro path d b d'
  have hhosts : d.HostsAt path path := ⟨.inr (by decide +kernel), rfl, by decide⟩
  have hwords : b.words = ["recieve".toList, "teh".toList] := by decide +kernel
  have hlines : ∀ w ∈ b.words, w.IsLine := by
    rw [hwords]
    decide
  obtain ⟨hplaced, hreloaded⟩ := reloaded_iff 0 1 path d d
    [.add "recieve".toList, .remove "hello".toList]
  have hok : (b.persist d).1 = .ok () := hplaced ⟨path, hhosts⟩
  obtain ⟨hsame, -, htwice⟩ := hreloaded hok
  exact ⟨⟨hhosts, hwords, hlines⟩, hok, hsame.mpr hlines, htwice⟩

/-- A word with a line feed in it comes back as two words, one with a carriage return at its end
without it, and the empty word not at all. -/
theorem word_cut_at_line_feed :
    let path := "/list".toList
    let b (w : Text) := (load 0 path {}).edited [.add w]
    let reloaded (w : Text) := (load 0 path ((b w).persist {}).2).words
    (∀ w, (b w).words = [w]) ∧
      (∀ w ∈ ["a\nb".toList, "a\r".toList, []], ((b w).persist {}).1 = .ok ()) ∧
      reloaded "a\nb".toList = ["a".toList, "b".toList] ∧
      reloaded "a\r".toList = ["a".toList] ∧ reloaded [] = [] := by
  intro path b reloaded
  exact ⟨fun _ => rfl, by decide +kernel, by decide +kernel, by decide +kernel, by decide +kernel⟩

end Blacklist

end Typeahead
