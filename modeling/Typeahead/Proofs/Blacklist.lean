import Typeahead.Blacklist
import Typeahead.Proofs.Disk

/-! # Files of blacklists

The words of a list are written one after another, each with a line feed behind it, and nothing in
them is escaped: what is read from the file is what is read of each of them
(`mem_parse_render_iff`). A word that can stand on a line of its own is read back from the file of
every list that has it (`mem_parse_render`). So where the file has its place, it holds such words as
soon as the list is written (`mem_listed_persist`), and it is changed by nothing that is written
elsewhere (`listed_congr`). -/

namespace Typeahead

/-- The text can stand on a line of its own: it is not empty, has no line feed in it and no carriage
return at its end. -/
def Text.IsLine (w : Text) : Prop := w ≠ [] ∧ '\n' ∉ w ∧ w.getLast? ≠ some '\r'

instance (w : Text) : Decidable w.IsLine := by
  unfold Text.IsLine
  infer_instance

namespace Blacklist

variable {v w : Text} {ws : List Text}

theorem mem_insertWord : v ∈ insertWord w ws ↔ v = w ∨ v ∈ ws := by
  induction ws with
  | nil => simp [insertWord]
  | cons x ws ih =>
    unfold insertWord
    split
    · exact List.mem_cons
    · next hx =>
      rw [Std.LawfulEqOrd.eq_of_compare hx, List.mem_cons, or_self_left]
    · rw [List.mem_cons, ih, List.mem_cons, or_left_comm]

theorem mem_foldl_insertWord (vs : List Text) : ∀ ws : List Text,
    v ∈ vs.foldl (fun ws w => insertWord w ws) ws ↔ v ∈ vs ∨ v ∈ ws := by
  induction vs with
  | nil => exact fun ws => by simp
  | cons u vs ih =>
    intro ws
    rw [List.foldl_cons, ih, mem_insertWord, List.mem_cons]
    tauto

/-! ### Reading what was written -/

/-- What is read of a word that was written: it is cut where it has line feeds, a carriage return
before a line feed is lost, and nothing is read from an empty line. -/
def linesOf (w : Text) : List Text :=
  ((Text.pieces (· == '\n') w).map Text.dropReturn).filter (!·.isEmpty)

theorem mem_linesOf_iff : v ∈ linesOf w ↔
    (∃ p ∈ Text.pieces (· == '\n') w, Text.dropReturn p = v) ∧ v ≠ [] := by
  unfold linesOf
  rw [List.mem_filter, List.mem_map, Bool.not_eq_true', List.isEmpty_eq_false_iff]

/-- A word that can stand on a line is read as it is. -/
theorem linesOf_of_isLine (hw : w.IsLine) : linesOf w = [w] := by
  have hfree : ∀ a ∈ w, (a == '\n') = false := by
    intro a ha
    rw [beq_eq_false_iff_ne]
    rintro rfl
    exact hw.2.1 ha
  have hreturn : Text.dropReturn w = w := by rw [Text.dropReturn, if_neg hw.2.2]
  rw [linesOf, Text.pieces_of_forall hfree, List.map_singleton, hreturn]
  simpa using hw.1

/-- The pieces of a file are those of its words, and an empty one behind the last line feed. -/
theorem pieces_render (ws : List Text) : Text.pieces (· == '\n') (render ws) =
    ws.flatMap (Text.pieces (· == '\n')) ++ [[]] := by
  induction ws with
  | nil => rfl
  | cons w ws ih =>
    have hrender : render (w :: ws) = w ++ '\n' :: render ws := by
      show (w ++ ['\n']) ++ render ws = _
      rw [List.append_assoc]
      rfl
    rw [hrender, Text.pieces_append_cons (by rfl), ih, List.flatMap_cons, List.append_assoc]

theorem lines_render (ws : List Text) : Text.lines (render ws) =
    (ws.flatMap (Text.pieces (· == '\n'))).map Text.dropReturn := by
  unfold Text.lines
  dsimp only
  rw [pieces_render, List.dropLast_concat, List.getLast?_concat]
  exact List.append_nil _

/-- **What is read from a file** is what is read of the words in it. -/
theorem mem_parse_render_iff : v ∈ parse (render ws) ↔ ∃ w ∈ ws, v ∈ linesOf w := by
  unfold parse
  rw [mem_foldl_insertWord, List.mem_filter, lines_render, List.mem_map, Bool.not_eq_true',
    List.isEmpty_eq_false_iff]
  simp only [List.not_mem_nil, or_false, List.mem_flatMap, mem_linesOf_iff]
  constructor
  · rintro ⟨⟨p, ⟨w, hw, hp⟩, hv⟩, hne⟩
    exact ⟨w, hw, ⟨p, hp, hv⟩, hne⟩
  · rintro ⟨w, hw, ⟨p, hp, hv⟩, hne⟩
    exact ⟨⟨p, ⟨w, hw, hp⟩, hv⟩, hne⟩

/-- **A word is read back** from the file of a list that has it. -/
theorem mem_parse_render (hw : w.IsLine) (h : w ∈ ws) : w ∈ parse (render ws) := by
  refine mem_parse_render_iff.mpr ⟨w, h, ?_⟩
  rw [linesOf_of_isLine hw]
  exact List.mem_singleton_self w

end Blacklist

namespace Disk

variable {d d' : Disk} {path place w : Text} {b : Blacklist}

/-- The words that a blacklist gets from its file. -/
def listed (d : Disk) (path : Text) : List Text := (Blacklist.load 0 path d).words

theorem HostsAt.listed_eq (h : d.HostsAt path place) : d.listed path =
    match d.at? place with
    | some (.text t) => Blacklist.parse t
    | _ => [] := by
  unfold listed Blacklist.load
  dsimp only
  rw [h.text?_eq]
  rcases d.at? place with _ | _ | _ | _ | _ | _ | _ <;> rfl

/-- What is written elsewhere does not change the words in the file. -/
theorem listed_congr (h : d.HostsAt path place) (h' : d'.HostsAt path place)
    (hsame : d'.at? place = d.at? place) : d'.listed path = d.listed path := by
  rw [h'.listed_eq, h.listed_eq, hsame]

theorem HostsAt.persist_eq (h : d.HostsAt path place) (hpath : b.path = some path) :
    b.persist d = (.ok (), d.put place (.text (Blacklist.render b.words))) := by
  unfold Blacklist.persist
  rw [hpath]
  exact h.writeNested_eq _

theorem written_persist (h : d.HostsAt path place) (hpath : b.path = some path)
    (hending : Provider.listEnding <:+ place) : Written d (b.persist d).2 := by
  rw [h.persist_eq hpath]
  exact written_put_text hending h.file _

/-- **A list that was written** is in its file. -/
theorem mem_listed_persist (h : d.HostsAt path place) (hpath : b.path = some path)
    (hending : Provider.listEnding <:+ place) (hw : w.IsLine) (hmem : b.contains w = true) :
    w ∈ (b.persist d).2.listed path := by
  have hwritten := written_persist h hpath hending
  rw [(h.of_written hwritten).listed_eq, h.persist_eq hpath, at?_put (ne_nil_of_file h.file),
    if_pos rfl]
  exact Blacklist.mem_parse_render hw (by simpa [Blacklist.contains] using hmem)

/-- A list that is written elsewhere leaves the file as it is. -/
theorem listed_persist_of_ne {path' place' : Text} (h : d.HostsAt path place)
    (h' : d.HostsAt path' place') (hpath : b.path = some path')
    (hending : Provider.listEnding <:+ place') (hne : place' ≠ place) :
    (b.persist d).2.listed path = d.listed path := by
  have hwritten := written_persist h' hpath hending
  refine listed_congr h (h.of_written hwritten) ?_
  rw [h'.persist_eq hpath, at?_put (ne_nil_of_file h'.file), if_neg hne.symm]

/-- What happens to stores leaves the files of blacklists as they are. -/
theorem Stored.listed_eq (hs : Stored d d') (h : d.HostsAt path place)
    (hending : Provider.listEnding <:+ place) : d'.listed path = d.listed path :=
  listed_congr h (h.of_written hs.toWritten)
    (hs.rest place fun hstore => not_suffix_of_suffix hstore hending)

end Disk

end Typeahead
