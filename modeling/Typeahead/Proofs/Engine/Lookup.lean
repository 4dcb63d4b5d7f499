import Mathlib.Data.List.Basic
import Typeahead.Engine.Lookup
import Typeahead.Proofs.Ranking.Merge

/-! # What a lookup gives

The reports of the groups are joined in the order of the groups (`offeredBy_eq`). A candidate that
is offered is one that a dictionary of a group found and that may be shown (`mem_offeredBy_iff`,
`mem_candidates_iff`); the words that the merged ranking shows, among its items or next to them, are
those of the candidates offered (`mem_words_mergedRanking`). Predictions are looked up or were
remembered (`nextWords_cases`). -/

namespace Typeahead

/-! ### Joining reports -/

theorem set_replicate {α : Type} (done rest : List α) (a b : α) :
    (done ++ a :: rest).set done.length b = (done ++ [b]) ++ rest := by
  rw [List.set_append_right _ _ (Nat.le_refl _), Nat.sub_self, List.set_cons_zero,
    List.append_assoc, List.singleton_append]

/-- Reports that come in order are joined in order. -/
theorem joinReports_zipIdx {α β : Type} (f : α → Option β) (l : List α) :
    joinReports l.length (l.zipIdx.map fun (a, i) => (i, f a)) = l.map f := by
  have hfold : ∀ (l : List α) (done : List (Option β)),
      ((l.zipIdx done.length).map fun (a, i) => (i, f a)).foldl
        (fun slots report => slots.set report.1 report.2) (done ++ List.replicate l.length none) =
          done ++ l.map f := by
    intro l
    induction l with
    | nil => exact fun done => rfl
    | cons a l ih =>
      intro done
      have h := ih (done ++ [f a])
      rw [List.length_append, List.length_singleton] at h
      rw [List.zipIdx_cons, List.map_cons, List.foldl_cons, List.length_cons, List.replicate_succ]
      dsimp only
      rw [set_replicate, h, List.map_cons, List.append_assoc, List.singleton_append]
  exact hfold l []

/-! ### Candidates of groups -/

theorem mem_flatten_of_mapM {α β : Type} {f : α → Option (List β)} {b : β} : ∀ {l : List α}
    {bss : List (List β)}, l.mapM f = some bss →
    (b ∈ bss.flatten ↔ ∃ a ∈ l, ∃ bs, f a = some bs ∧ b ∈ bs)
  | [], bss, h => by
    have hnil : bss = [] := (Option.some.inj h).symm
    simp [hnil]
  | a :: l, bss, h => by
    rw [List.mapM_cons] at h
    obtain ⟨bs, hbs, h⟩ := Option.bind_eq_some_iff.mp h
    obtain ⟨rest, hrest, h⟩ := Option.bind_eq_some_iff.mp h
    obtain rfl : bs :: rest = bss := Option.some.inj h
    rw [List.flatten_cons, List.mem_append, mem_flatten_of_mapM hrest]
    constructor
    · rintro (hb | ⟨x, hx, hfound⟩)
      · exact ⟨a, List.mem_cons_self, bs, hbs, hb⟩
      · exact ⟨x, List.mem_cons_of_mem _ hx, hfound⟩
    · rintro ⟨x, hx, ys, hys, hb⟩
      rcases List.mem_cons.mp hx with rfl | hx
      · exact .inl (Option.some.inj (hys.symm.trans hbs) ▸ hb)
      · exact .inr ⟨x, hx, ys, hys, hb⟩

theorem mapM_isSome {α β : Type} {f : α → Option β} : ∀ {l : List α},
    (∀ a ∈ l, (f a).isSome) → (l.mapM f).isSome
  | [], _ => rfl
  | a :: l, h => by
    obtain ⟨b, hb⟩ := Option.isSome_iff_exists.mp (h a List.mem_cons_self)
    obtain ⟨bs, hbs⟩ := Option.isSome_iff_exists.mp
      (mapM_isSome fun x hx => h x (List.mem_cons_of_mem _ hx))
    rw [List.mapM_cons, hb, hbs]
    rfl

variable {g : Group} {gs : List Group} {r : Request} {c : Candidate} {cs : List Candidate}

/-- A candidate of a group was found by one of its dictionaries and may be shown. -/
theorem Group.mem_candidates_iff (h : g.candidates gs r = some cs) : c ∈ cs ↔
    ∃ o ∈ Origin.lookupOrder, ∃ d found, g.dictionary? o = some d ∧
      d.suggestions (r.query (g.weightAmong gs r.gesture)) = .found found ∧ c ∈ found ∧
      isShowable gs o d r.gesture c = true := by
  obtain ⟨bss, hbss, rfl⟩ := Option.map_eq_some_iff.mp h
  rw [mem_flatten_of_mapM hbss]
  refine exists_congr fun o => and_congr_right fun _ => ?_
  unfold candidatesOf
  rcases hd : g.dictionary? o with _ | d
  · simp
  · dsimp only
    rcases hs : d.suggestions (r.query (g.weightAmong gs r.gesture)) with found | _ | _
    · simp [hs]
    · simp [hs]
    · simp [hs]

/-- A group whose main dictionary gives an answer does not break off. -/
theorem Group.exists_candidates {d : Dictionary} (hd : g.main = some d)
    (hfound : d.suggestions (r.query (g.weightAmong gs r.gesture)) = .found cs) :
    ∃ all, g.candidates gs r = some all := by
  refine Option.isSome_iff_exists.mp ?_
  unfold candidates
  rw [Option.isSome_map]
  refine mapM_isSome fun o _ => ?_
  unfold candidatesOf
  rcases ho : g.dictionary? o with _ | d'
  · rfl
  · by_cases hmain : o = .main
    · rw [dictionary?, if_pos hmain, hd] at ho
      obtain rfl := Option.some.inj ho
      dsimp only
      rw [hfound]
      rfl
    · rw [dictionary?, if_neg hmain] at ho
      obtain ⟨s, -, rfl⟩ := Option.map_eq_some_iff.mp ho
      rfl

/-! ### The merged ranking -/

theorem offeredBy_eq (gs : List Group) (r : Request) :
    offeredBy gs r = (gs.filterMap (·.candidates gs r)).flatten := by
  unfold offeredBy
  dsimp only
  rw [joinReports_zipIdx (fun g : Group => g.candidates gs r) gs, List.filterMap_map]
  rfl

theorem mem_offeredBy_iff : c ∈ offeredBy gs r ↔
    ∃ g ∈ gs, ∃ cs, g.candidates gs r = some cs ∧ c ∈ cs := by
  rw [offeredBy_eq, List.mem_flatten]
  constructor
  · rintro ⟨cs, hcs, hc⟩
    obtain ⟨g, hg, hcand⟩ := List.mem_filterMap.mp hcs
    exact ⟨g, hg, cs, hcand, hc⟩
  · rintro ⟨g, hg, cs, hcand, hc⟩
    exact ⟨cs, List.mem_filterMap.mpr ⟨g, hg, hcand⟩, hc⟩

namespace Ranking

/-- The words of a ranking's items, and of all that was offered next to them. -/
def words (r : Ranking) : List Text := (r.items ++ r.offered.getD []).map (·.word)

theorem mem_items_addAll {d : Candidate} : ∀ {cs : List Candidate} {r : Ranking},
    d ∈ (r.addAll cs).items → d ∈ r.items ∨ d ∈ cs
  | [], _, h => .inl h
  | c :: cs, r, h => by
    rcases mem_items_addAll (r := r.add c) h with h | h
    · rcases mem_items_add h with rfl | h
      · exact .inr List.mem_cons_self
      · exact .inl h
    · exact .inr (List.mem_cons_of_mem _ h)

theorem mem_items_borrow {all : List Candidate} {isTyped : Text → Bool} {d : Candidate} :
    ∀ {n : Nat} {r : Ranking}, d ∈ (borrow all isTyped n r).items → d ∈ r.items ∨ d ∈ all
  | 0, _, h => .inl h
  | n + 1, r, h => by
    unfold borrow at h
    split at h
    · next pick last hpick hlast =>
      rcases mem_items_borrow h with h | h
      · rcases mem_items_add h with rfl | h
        · exact .inr (List.mem_of_find?_eq_some hpick)
        · exact .inl (List.mem_of_mem_eraseP h)
      · exact .inr h
    · exact .inl h

theorem mem_items_withTwoOthers {r : Ranking} {all : List Candidate} {typed : Text} {d : Candidate}
    (h : d ∈ (r.withTwoOthers all typed).items) : d ∈ r.items ∨ d ∈ all := by
  unfold withTwoOthers at h
  split_ifs at h
  · exact .inl h
  · exact mem_items_borrow h

end Ranking

theorem mem_offeredBy_of_mem_items (h : c ∈ (mergedRanking gs r).items) : c ∈ offeredBy gs r := by
  rcases Ranking.mem_items_withTwoOthers h with h | h
  · rcases Ranking.mem_items_addAll h with h | h
    · exact absurd h List.not_mem_nil
    · exact h
  · exact h

/-- **The words that a lookup shows** are those of the candidates offered. -/
theorem mem_words_mergedRanking {w : Text} :
    w ∈ (mergedRanking gs r).words ↔ ∃ c ∈ offeredBy gs r, c.word = w := by
  have hoffered : (mergedRanking gs r).offered.getD [] = offeredBy gs r := rfl
  rw [Ranking.words, hoffered, List.mem_map]
  refine exists_congr fun c => and_congr_left fun _ => ?_
  rw [List.mem_append]
  exact ⟨fun h => h.elim mem_offeredBy_of_mem_items id, .inr⟩

/-! ### Predictions -/

namespace Engine

/-- Predictions are looked up, or they were remembered for a context that says the same. -/
theorem nextWords_cases (e : Engine) (c : Context) (block : Bool) :
    e.nextWords c block = e.candidates { context := c, block } ∨
      ∃ p ∈ e.predictions, p.1.same c = true ∧ e.nextWords c block = p.2 := by
  unfold nextWords cachedPredictions
  rcases hfind : e.predictions.find? (·.1.same c) with _ | p
  · left
    rw [hfind]
    rfl
  · have hsame := List.find?_some hfind
    refine .inr ⟨p, List.mem_of_find?_eq_some hfind, hsame, ?_⟩
    rw [hfind]
    rfl

/-- What comes to be remembered was looked up. -/
theorem mem_predictions_rememberNextWords {e : Engine} {c : Context} {block : Bool}
    {p : Context × Ranking} (h : p ∈ (e.rememberNextWords c block).predictions) :
    p ∈ e.predictions ∨ p = (c, e.candidates { context := c, block }) := by
  unfold rememberNextWords at h
  split at h
  · exact .inl h
  · next hcached =>
    rcases List.mem_cons.mp h with rfl | h
    · right
      rw [nextWords, hcached]
      rfl
    · exact .inl h

end Engine

end Typeahead
