import Mathlib.Data.Finset.Card
import Mathlib.Data.List.Nodup
import Typeahead.Engine.Lookup
import Typeahead.Proofs.Ranking.Merge

/-! # Borrowing other words

A merged ranking may be filled with spellings of the typed word that differ in case alone. Up to two
of them then give way to other words among all that was offered (`withTwoOthers`).

One round is a `swap`: the last spelling of the typed word goes, and a word that is not held comes.
The place is free by then, so the candidate is never refused, wherever it ranks; the items change by
nothing but these two (`Ordered.swap_perm`). What a round does to a ranking is therefore an instance
of `Borrowing`, which says what is kept and how many other words are gained, and which composes
(`Borrowing.trans`). By induction on the rounds, as many words are gained as there are rounds, or
words to borrow (`borrowing_borrow`); the places do not run out, since a ranking of more than two
items has more spellings of the typed word than rounds. -/

namespace Typeahead.Ranking

variable {r s t : Ranking} {all : List Candidate} {isTyped : Text → Bool} {pick last : Candidate}

/-- The items that are not of the typed word. -/
def others (isTyped : Text → Bool) (r : Ranking) : List Candidate :=
  r.items.filter (!isTyped ·.word)

/-- The words of `all` that can be borrowed: those that are not the typed word and not held. -/
def borrowable (all : List Candidate) (isTyped : Text → Bool) (r : Ranking) : Finset Text :=
  ((all.filter fun c => !isTyped c.word && !r.contains c.word).map (·.word)).toFinset

theorem mem_borrowable {w : Text} : w ∈ borrowable all isTyped r ↔
    (∃ c ∈ all, c.word = w) ∧ isTyped w = false ∧ r.contains w = false := by
  simp only [borrowable, List.mem_toFinset, List.mem_map, List.mem_filter, Bool.and_eq_true,
    Bool.not_eq_true']
  constructor
  · rintro ⟨c, ⟨hc, hother, hnew⟩, rfl⟩
    exact ⟨⟨c, hc, rfl⟩, hother, hnew⟩
  · rintro ⟨⟨c, hc, rfl⟩, hother, hnew⟩
    exact ⟨c, ⟨hc, hother, hnew⟩, rfl⟩

/-! ### One round -/

/-- The word of an item removed, the item is gone and nothing else. -/
theorem Ordered.remove_perm (h : r.Ordered) (hlast : last ∈ r.items) :
    (last :: (r.remove last.word).items).Perm r.items := by
  obtain ⟨a, before, after, -, ha, hr, herase⟩ :=
    List.exists_of_eraseP (p := (·.word == last.word)) hlast (beq_self_eq_true last.word)
  have hmem : a ∈ r.items := by rw [hr]; simp
  obtain rfl : a = last := List.inj_on_of_nodup_map h.distinct hmem hlast (by simpa using ha)
  rw [show (r.remove a.word).items = before ++ after from herase, hr]
  exact List.perm_middle.symm

/-- What one round does: `pick` comes for `last`. -/
def swap (r : Ranking) (last pick : Candidate) : Ranking := (r.remove last.word).add pick

/-- **The swap is never refused**: the items afterwards are those before, `pick` for `last`. -/
theorem Ordered.swap_perm_of_new (h : r.Ordered) (hlast : last ∈ r.items)
    (hnew : (r.remove last.word).contains pick.word = false) :
    (last :: (r.swap last pick).items).Perm (pick :: r.items) := by
  have hremove := h.remove_perm hlast
  have hroom : (insert pick (r.remove last.word).items).length ≤ r.capacity := by
    calc (insert pick (r.remove last.word).items).length
        = (last :: (r.remove last.word).items).length := length_insert _ _
      _ = r.items.length := hremove.length_eq
      _ ≤ r.capacity := h.bounded
  have hitems : (r.swap last pick).items = insert pick (r.remove last.word).items := by
    rw [swap, items_add (h.remove last.word) hnew]
    exact List.take_of_length_le hroom
  rw [hitems]
  refine ((insert_perm pick _).cons last).trans ?_
  exact (List.Perm.swap pick last _).trans (hremove.cons pick)

theorem Ordered.swap_perm (h : r.Ordered) (hlast : last ∈ r.items)
    (hpick : r.contains pick.word = false) :
    (last :: (r.swap last pick).items).Perm (pick :: r.items) := by
  refine h.swap_perm_of_new hlast (contains_eq_false.mpr fun d hd => ?_)
  exact contains_eq_false.mp hpick d ((h.remove_perm hlast).subset (List.mem_cons_of_mem last hd))

/-- A word that was removed is not held. -/
theorem Ordered.contains_remove (h : r.Ordered) (hlast : last ∈ r.items) :
    (r.remove last.word).contains last.word = false := by
  have hwords := (((h.remove_perm hlast).map (·.word)).nodup_iff).mpr h.distinct
  rw [List.map_cons, List.nodup_cons] at hwords
  exact contains_eq_false.mpr fun d hd hw => hwords.1 (List.mem_map.mpr ⟨d, hd, hw⟩)

/-- What is not of the typed word is held after the swap if it was before, or is what came. -/
theorem Ordered.mem_swap_iff {d : Candidate} (h : r.Ordered) (hlast : last ∈ r.items)
    (htyped : isTyped last.word = true) (hpick : r.contains pick.word = false)
    (hd : isTyped d.word = false) :
    d ∈ (r.swap last pick).items ↔ d = pick ∨ d ∈ r.items := by
  have hne : d ≠ last := by
    rintro rfl
    rw [hd] at htyped
    exact nomatch htyped
  have hmem : d ∈ last :: (r.swap last pick).items ↔ d ∈ pick :: r.items :=
    (h.swap_perm hlast hpick).mem_iff
  rwa [List.mem_cons, List.mem_cons, or_iff_right hne] at hmem

theorem contains_eq_true {w : Text} : r.contains w = true ↔ ∃ d ∈ r.items, d.word = w := by
  simp [contains]

theorem Ordered.contains_swap {w : Text} (h : r.Ordered) (hlast : last ∈ r.items)
    (htyped : isTyped last.word = true) (hother : isTyped pick.word = false)
    (hpick : r.contains pick.word = false) (hw : isTyped w = false) :
    (r.swap last pick).contains w = (w == pick.word || r.contains w) := by
  rw [Bool.eq_iff_iff, Bool.or_eq_true, beq_iff_eq, contains_eq_true, contains_eq_true]
  constructor
  · rintro ⟨d, hd, rfl⟩
    rcases (h.mem_swap_iff hlast htyped hpick hw).mp hd with rfl | hd
    · exact .inl rfl
    · exact .inr ⟨d, hd, rfl⟩
  · rintro (rfl | ⟨d, hd, rfl⟩)
    · exact ⟨pick, (h.mem_swap_iff hlast htyped hpick hother).mpr (.inl rfl), rfl⟩
    · exact ⟨d, (h.mem_swap_iff hlast htyped hpick hw).mpr (.inr hd), rfl⟩

/-- The swap takes one word from those that can be borrowed. -/
theorem Ordered.borrowable_swap (h : r.Ordered) (hlast : last ∈ r.items)
    (htyped : isTyped last.word = true) (hother : isTyped pick.word = false)
    (hpick : r.contains pick.word = false) :
    borrowable all isTyped (r.swap last pick) =
      (borrowable all isTyped r).erase pick.word := by
  ext w
  rw [Finset.mem_erase, mem_borrowable, mem_borrowable]
  constructor
  · rintro ⟨hall, hw, hnew⟩
    rw [h.contains_swap hlast htyped hother hpick hw, Bool.or_eq_false_iff,
      beq_eq_false_iff_ne] at hnew
    exact ⟨hnew.1, hall, hw, hnew.2⟩
  · rintro ⟨hne, hall, hw, hnew⟩
    refine ⟨hall, hw, ?_⟩
    rw [h.contains_swap hlast htyped hother hpick hw, hnew, Bool.or_false, beq_eq_false_iff_ne]
    exact hne

/-! ### Rounds -/

/-- From `r` to `s` other words were borrowed, `gained` of them: the items are as many as before,
sorted and of distinct words, and the other words of `r` are all there. -/
structure Borrowing (isTyped : Text → Bool) (r s : Ranking) (gained : Nat) : Prop where
  ordered : s.Ordered
  length : s.items.length = r.items.length
  kept : ∀ d ∈ r.items, isTyped d.word = false → d ∈ s.items
  others : (others isTyped s).length = (others isTyped r).length + gained

theorem Borrowing.refl (h : r.Ordered) : Borrowing isTyped r r 0 :=
  ⟨h, rfl, fun _ hd _ => hd, rfl⟩

theorem Borrowing.trans {m n : Nat} (h : Borrowing isTyped r s m) (h' : Borrowing isTyped s t n) :
    Borrowing isTyped r t (n + m) := by
  refine ⟨h'.ordered, h'.length.trans h.length, fun d hd hother => ?_, ?_⟩
  · exact h'.kept d (h.kept d hd hother) hother
  · rw [h'.others, h.others]
    omega

/-- **One round** gains one word. -/
theorem Ordered.borrowing_swap (h : r.Ordered) (hlast : last ∈ r.items)
    (htyped : isTyped last.word = true) (hother : isTyped pick.word = false)
    (hpick : r.contains pick.word = false) :
    Borrowing isTyped r (r.swap last pick) 1 := by
  have hswap := h.swap_perm hlast hpick
  refine ⟨(h.remove last.word).add pick, ?_, fun d hd hd' => ?_, ?_⟩
  · exact Nat.succ.inj hswap.length_eq
  · exact (h.mem_swap_iff hlast htyped hpick hd').mpr (.inr hd)
  · have hfilter := (hswap.filter (!isTyped ·.word)).length_eq
    rw [List.filter_cons_of_neg (by simp [htyped]), List.filter_cons_of_pos (by simp [hother]),
      List.length_cons] at hfilter
    exact hfilter

/-- There is a spelling of the typed word unless all items are others. -/
theorem exists_last_typed (h : (others isTyped r).length < r.items.length) :
    ∃ last, r.items.reverse.find? (isTyped ·.word) = some last := by
  refine Option.isSome_iff_exists.mp (List.find?_isSome.mpr ?_)
  by_contra hnone
  have hall : others isTyped r = r.items := List.filter_eq_self.mpr fun d hd => by
    rw [Bool.not_eq_true']
    exact Bool.eq_false_iff.mpr fun htyped => hnone ⟨d, List.mem_reverse.mpr hd, htyped⟩
  rw [hall] at h
  exact Nat.lt_irrefl _ h

/-- **All rounds**: as long as spellings of the typed word are left, every round gains a word until
there is none to borrow. -/
theorem borrowing_borrow : ∀ {n : Nat} {r : Ranking}, r.Ordered →
    (others isTyped r).length + n ≤ r.items.length →
    Borrowing isTyped r (borrow all isTyped n r) (min n (borrowable all isTyped r).card)
  | 0, r, h, _ => by
    rw [Nat.zero_min]
    exact Borrowing.refl h
  | n + 1, r, h, hplaces => by
    have hless : (others isTyped r).length < r.items.length := by omega
    obtain ⟨last, hlast⟩ := exists_last_typed hless
    rcases hfind : all.find? (fun c => !isTyped c.word && !r.contains c.word) with _ | pick
    · have hnone : borrowable all isTyped r = ∅ := by
        refine Finset.eq_empty_of_forall_notMem fun w hw => ?_
        obtain ⟨⟨c, hc, rfl⟩, hother, hnew⟩ := mem_borrowable.mp hw
        exact List.find?_eq_none.mp hfind c hc (by simp [hother, hnew])
      rw [borrow, hfind, hnone, Finset.card_empty, Nat.min_zero]
      exact Borrowing.refl h
    · have hmem : last ∈ r.items := List.mem_reverse.mp (List.mem_of_find?_eq_some hlast)
      have htyped : isTyped last.word = true := by simpa using List.find?_some hlast
      obtain ⟨hother, hnew⟩ : isTyped pick.word = false ∧ r.contains pick.word = false := by
        simpa using List.find?_some hfind
      have hround := h.borrowing_swap hmem htyped hother hnew
      have hrest : (others isTyped (r.swap last pick)).length + n ≤
          (r.swap last pick).items.length := by
        rw [hround.others, hround.length]
        omega
      have hword : pick.word ∈ borrowable all isTyped r :=
        mem_borrowable.mpr ⟨⟨pick, List.mem_of_find?_eq_some hfind, rfl⟩, hother, hnew⟩
      have hcard : (borrowable all isTyped r).card =
          (borrowable all isTyped (r.swap last pick)).card + 1 := by
        rw [h.borrowable_swap hmem htyped hother hnew, Finset.card_erase_add_one hword]
      rw [hcard, Nat.add_min_add_right, borrow, hfind, hlast]
      exact hround.trans (borrowing_borrow hround.ordered hrest)

/-! ### Two other words -/

/-- The word is a spelling of `typed` that differs at most in case. -/
def isSpellingOf (typed w : Text) : Bool := Text.lower w == Text.lower typed

theorem withTwoOthers_of_small {typed : Text} (h : r.items.length ≤ 2 ∨ typed = []) :
    r.withTwoOthers all typed = r := by
  rw [withTwoOthers, if_pos (by simpa using h)]

theorem withTwoOthers_of_large {typed : Text} (hlarge : 2 < r.items.length) (htyped : typed ≠ []) :
    r.withTwoOthers all typed =
      borrow all (isSpellingOf typed) (2 - (others (isSpellingOf typed) r).length) r := by
  have hsmall : (decide (r.items.length ≤ 2) || typed.isEmpty) = false := by
    simp [Nat.not_le.mpr hlarge, htyped]
  have hfound : 2 - ((others (isSpellingOf typed) r).take 2).length =
      2 - (others (isSpellingOf typed) r).length := by
    rw [List.length_take]
    omega
  rw [withTwoOthers, hsmall, ← hfound]
  rfl

theorem Ordered.withTwoOthers (h : r.Ordered) (all : List Candidate) (typed : Text) :
    (r.withTwoOthers all typed).Ordered := by
  by_cases hsmall : r.items.length ≤ 2 ∨ typed = []
  · rw [withTwoOthers_of_small hsmall]
    exact h
  · rw [not_or, Nat.not_le] at hsmall
    have hle : (Ranking.others (isSpellingOf typed) r).length ≤ r.items.length :=
      List.length_filter_le _ _
    rw [withTwoOthers_of_large hsmall.1 hsmall.2]
    exact (borrowing_borrow h (by omega)).ordered

/-- **What a request finds** is sorted, of distinct words, and no more than the capacity. -/
theorem ordered_mergedRanking (gs : List Group) (q : Request) : (mergedRanking gs q).Ordered := by
  have h := ((ordered_new defaultCapacity q.context.isStart).addAll
    (offeredBy gs q)).withTwoOthers (offeredBy gs q) q.typed
  exact ⟨h.sorted, h.distinct, h.bounded⟩

/-- **Two other words**: whatever was done to a ranking before, nothing changes if it has at most
two items or if nothing is typed. Otherwise as many items stay, sorted strictly and of distinct
words, among them all that are not spellings of the typed word; and of such others there are two, or
as many as could be borrowed, or all those that were there. -/
theorem two_others (capacity : Nat) (atStart : Bool) (offered : Option (List Candidate))
    (xs : List Change) (all : List Candidate) (typed : Text) :
    let r : Ranking := { (new capacity atStart).changes xs with offered := offered }
    let out := r.withTwoOthers all typed
    let k := (others (isSpellingOf typed) r).length
    (r.items.length ≤ 2 ∨ typed = [] → out = r) ∧
      (2 < r.items.length → typed ≠ [] →
        out.items.length = r.items.length ∧
        out.items.Pairwise (fun a b => a.rank b = .lt) ∧ (out.items.map (·.word)).Nodup ∧
        (∀ d ∈ r.items, Text.lower d.word ≠ Text.lower typed → d ∈ out.items) ∧
        (others (isSpellingOf typed) out).length =
          max k (min 2 (k + (borrowable all (isSpellingOf typed) r).card))) := by
  intro r out k
  have h : ((new capacity atStart).changes xs).Ordered := (ordered_new capacity atStart).changes xs
  have hr : r.Ordered := ⟨h.sorted, h.distinct, h.bounded⟩
  refine ⟨withTwoOthers_of_small, fun hlarge htyped => ?_⟩
  have hk : k ≤ r.items.length := List.length_filter_le _ _
  have hout : Borrowing (isSpellingOf typed) r out
      (min (2 - k) (borrowable all (isSpellingOf typed) r).card) := by
    rw [show out = _ from withTwoOthers_of_large hlarge htyped]
    exact borrowing_borrow hr (by omega)
  refine ⟨hout.length, hout.ordered.sorted, hout.ordered.distinct, fun d hd hne => ?_, ?_⟩
  · exact hout.kept d hd (beq_eq_false_iff_ne.mpr hne)
  · rw [hout.others]
    omega

/-- Four spellings of one word fill a ranking: the last two give way. -/
theorem two_others_for_spellings :
    let c (w : String) (score : Int) : Candidate :=
      ⟨w.toList, [], score, ⟨Kind.correction⟩, ⟨.main, none⟩⟩
    let all := [c "Us" 900, c "us" 800, c "US" 700, c "uS" 600, c "use" 500, c "bus" 400]
    let r : Ranking := { (new 4 false).changes [.addAll all] with offered := none }
    let out := r.withTwoOthers all "us".toList
    2 < r.items.length ∧ "us".toList ≠ [] ∧
      (borrowable all (isSpellingOf "us".toList) r).card = 2 ∧
      (others (isSpellingOf "us".toList) out).length = 2 ∧
      out.items = [c "Us" 900, c "us" 800, c "use" 500, c "bus" 400] := by
  intro c all r out
  have hlarge : 2 < r.items.length := by decide +kernel
  have htyped : "us".toList ≠ [] := by decide
  have hcard : (borrowable all (isSpellingOf "us".toList) r).card = 2 := by decide +kernel
  have hk : (others (isSpellingOf "us".toList) r).length = 0 := by decide +kernel
  have h := (two_others 4 false none [.addAll all] all "us".toList).2 hlarge htyped
  refine ⟨hlarge, htyped, hcard, ?_, by decide +kernel⟩
  calc (others (isSpellingOf "us".toList) out).length
      = max (others (isSpellingOf "us".toList) r).length
          (min 2 ((others (isSpellingOf "us".toList) r).length +
            (borrowable all (isSpellingOf "us".toList) r).card)) := h.2.2.2.2
    _ = 2 := by rw [hk, hcard]; rfl

end Typeahead.Ranking
