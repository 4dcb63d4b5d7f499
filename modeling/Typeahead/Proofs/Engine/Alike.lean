import Typeahead.Proofs.Engine.Lookup
import Typeahead.Proofs.Engine.Sound

/-! # Groups that predict alike

What a group predicts depends on its main dictionary, its confidence, the blacklists, and what its
stores say of words that follow others. Groups that agree on all of this are `Alike`; if each group
of an engine is, a lookup predicts the same (`mergedRanking_map`). What is added to a store, and
what it is asked to forget but does not hold, changes no prediction (`Ran.alike`). -/

namespace Typeahead

/-- What a store's predictions depend on. -/
def Store.following (s : Store) : Source × WordMap (WordMap Nat) := (s.source, s.tables.followers)

theorem Store.predictions_of_following {s s' : Store} (h : s'.following = s.following) (q : Query) :
    s'.predictions q = s.predictions q := by
  obtain ⟨hsource, hfollowers⟩ := Prod.ext_iff.mp h
  have hsource' : s'.source = s.source := hsource
  have hfollowers' : s'.tables.followers = s.tables.followers := hfollowers
  unfold predictions
  rw [hsource', hfollowers']

namespace Group

/-- What of a group bears on predictions, besides its stores. -/
def outlook (g : Group) : Option Dictionary × Nat × List Text :=
  (g.main, g.confidence, g.blacklist.words)

/-- A group that predicts alike among groups that do. -/
structure Alike (g g' : Group) : Prop where
  number : g'.number = g.number
  outlook : g'.outlook = g.outlook
  subs : ∀ o, (g'.sub? o).map Store.following = (g.sub? o).map Store.following

variable {g g' : Group} {gs : List Group} {f : Group → Group} {c c' : Context} {block : Bool}

theorem Alike.refl (g : Group) : g.Alike g := ⟨rfl, rfl, fun _ => rfl⟩

/-- New versions of stores with the same rows of followers. -/
theorem Alike.of_subs {k : Store → Store} (hnumber : g'.number = g.number)
    (houtlook : g'.outlook = g.outlook) (hsubs : g'.subs = g.subs.map k)
    (hk : ∀ s ∈ g.subs, (k s).following = s.following) : g.Alike g' := by
  have horigin (s : Store) (hs : s ∈ g.subs) : (k s).origin = s.origin :=
    congrArg (·.1.origin) (hk s hs)
  refine ⟨hnumber, houtlook, fun o => ?_⟩
  rw [sub?_map hsubs horigin, Option.map_map]
  refine Option.map_congr fun s hs => ?_
  exact hk s (mem_of_sub? hs).1

/-! ### Groups that predict alike -/

theorem bans_map (hf : ∀ g ∈ gs, g.Alike (f g)) (w : Text) :
    (gs.map f).any (·.isBlacklisted w) = gs.any (·.isBlacklisted w) :=
  any_map_of_forall fun g hg => congrArg (·.2.2.contains w) (hf g hg).outlook

theorem weightAmong_map (hf : ∀ g ∈ gs, g.Alike (f g)) (hg : g ∈ gs) (gesture : Bool) :
    (f g).weightAmong (gs.map f) gesture = g.weightAmong gs gesture := by
  have hconfidence (k : Group) (hk : k ∈ gs) : (f k).confidence = k.confidence :=
    congrArg (·.2.1) (hf k hk).outlook
  have hcontested : (f g).isContested (gs.map f) = g.isContested gs := by
    unfold isContested
    rw [(hf g hg).number, hconfidence g hg]
    refine any_map_of_forall fun k hk => ?_
    rw [(hf k hk).number, hconfidence k hk]
  unfold weightAmong
  rw [List.length_map, hcontested, hconfidence g hg]

theorem candidatesOf_map (hf : ∀ g ∈ gs, g.Alike (f g)) (hg : g ∈ gs) (o : Origin) :
    (f g).candidatesOf (gs.map f) { context := c, block } o =
      g.candidatesOf gs { context := c, block } o := by
  have hshow (d d' : Dictionary) : isShowable (gs.map f) o d false = isShowable gs o d' false := by
    funext x
    simp [isShowable, bans_map hf]
  unfold candidatesOf
  rw [weightAmong_map hf hg]
  by_cases ho : o = .main
  · have hmain : (f g).main = g.main := congrArg (·.1) (hf g hg).outlook
    rw [dictionary?, dictionary?, if_pos ho, if_pos ho, hmain]
    split
    · rfl
    · next d _ => rw [hshow d d]
  · have hsubs := (hf g hg).subs o
    rw [dictionary?, dictionary?, if_neg ho, if_neg ho]
    rcases hs : g.sub? o with _ | s
    · rw [hs] at hsubs
      rw [Option.map_eq_none_iff.mp hsubs]
      rfl
    · rw [hs] at hsubs
      obtain ⟨s', hs', hfollowing⟩ := Option.map_eq_some_iff.mp hsubs
      rw [hs']
      show some (List.filter _ (s'.predictions _)) = some (List.filter _ (s.predictions _))
      rw [Store.predictions_of_following hfollowing, hshow s'.dictionary s.dictionary]

theorem candidates_congr {gs' : List Group} {r r' : Request}
    (h : ∀ o, g'.candidatesOf gs' r' o = g.candidatesOf gs r o) :
    g'.candidates gs' r' = g.candidates gs r := by
  have hof : g'.candidatesOf gs' r' = g.candidatesOf gs r := funext h
  rw [candidates, hof, candidates]

/-- Every dictionary of a sound group is regular. -/
theorem Sound.regular (h : g.Sound) {o : Origin} {d : Dictionary} (hd : g.dictionary? o = some d) :
    d.Regular := by
  unfold dictionary? at hd
  split_ifs at hd
  · exact h.main d hd
  · obtain ⟨s, -, rfl⟩ := Option.map_eq_some_iff.mp hd
    exact s.regular_store

theorem candidates_context (h : g.Sound) (hsame : c.same c' = true) :
    g.candidates gs { context := c', block } = g.candidates gs { context := c, block } := by
  have hof (o : Origin) : g.candidatesOf gs { context := c', block } o =
      g.candidatesOf gs { context := c, block } o := by
    unfold candidatesOf
    split
    · rfl
    · next d hd =>
      have hcontext : d.suggestions
          (({ context := c', block } : Request).query (g.weightAmong gs false)) =
          d.suggestions (({ context := c, block } : Request).query (g.weightAmong gs false)) :=
        (h.regular hd).context (({ context := c, block } : Request).query _) c' hsame
      dsimp only
      rw [hcontext]
  exact candidates_congr hof

end Group

variable {gs : List Group} {f : Group → Group} {c c' : Context} {block : Bool}

theorem mergedRanking_of_offered {gs gs' : List Group} {r r' : Request}
    (htyped : r'.typed = r.typed) (hstart : r'.context.isStart = r.context.isStart)
    (hoffered : offeredBy gs' r' = offeredBy gs r) :
    mergedRanking gs' r' = mergedRanking gs r := by
  unfold mergedRanking
  dsimp only
  rw [htyped, hstart, hoffered]

/-- **Groups that predict alike** one by one predict alike together. -/
theorem mergedRanking_map (hf : ∀ g ∈ gs, g.Alike (f g)) :
    mergedRanking (gs.map f) { context := c, block } =
      mergedRanking gs { context := c, block } := by
  refine mergedRanking_of_offered rfl rfl ?_
  rw [offeredBy_eq, offeredBy_eq, List.filterMap_map]
  refine congrArg List.flatten (List.filterMap_congr fun g hg => ?_)
  exact Group.candidates_congr (Group.candidatesOf_map hf hg)

/-- Contexts that say the same have the same predictions. -/
theorem mergedRanking_context (hsound : ∀ g ∈ gs, g.Sound) (hsame : c.same c' = true) :
    mergedRanking gs { context := c', block } = mergedRanking gs { context := c, block } := by
  refine mergedRanking_of_offered rfl (Context.readsLike_of_same hsame).isStart.symm ?_
  rw [offeredBy_eq, offeredBy_eq]
  exact congrArg List.flatten (List.filterMap_congr fun g hg =>
    Group.candidates_context (hsound g hg) hsame)

/-! ### New versions of stores -/

theorem Store.following_of_add {s s' : Store} (h : s.Sound) {w : Text} {n : Nat}
    (hadd : s.add w n = .ok s') : s'.following = s.following := by
  rw [add_eq h] at hadd
  split_ifs at hadd
  obtain rfl := Except.ok.inj hadd
  rfl

/-- A word that a store did not hold was not predicted either. -/
theorem Store.following_of_remove {s s' : Store} (h : s.Sound) {w : Text}
    (hremove : s.remove w = .ok (false, s')) : s'.following = s.following := by
  rw [remove_eq h] at hremove
  obtain ⟨hheld, rfl⟩ := Prod.ext_iff.mp (Except.ok.inj hremove)
  show (s.source, (s.tables.remove w).followers) = (s.source, s.tables.followers)
  rw [Tables.followers_remove h.tables hheld]

/-- What a task writes while no predictions are forgotten predicts as before. -/
theorem Task.Writes.following {t : Task} {s s' : Store} (hwrites : t.Writes s false s')
    (h : s.Sound) : s'.following = s.following := by
  cases hwrites with
  | promote hadd => exact Store.following_of_add h hadd
  | unlearn hremove => exact Store.following_of_remove h hremove

namespace Engine

variable {e e' : Engine} {s s' : Store} {t : Task}

theorem alike_putStore (h : e.Consistent) (hs : s ∈ e.stores) (hu : s.Updates s')
    (hfollowing : s'.following = s.following) {g : Group} (hg : g ∈ e.groups) :
    g.Alike (g.putStore s') := by
  refine Group.Alike.of_subs rfl rfl rfl fun u hmem => ?_
  split_ifs with hn
  · rw [h.eq_of_number (mem_stores_of_mem_subs hg hmem) hs (hn.trans hu.number)]
    exact hfollowing
  · rfl

/-- **After a task** nothing is remembered, or the groups predict alike if main dictionaries,
confidences and blacklists are the same. -/
theorem Ran.alike (hran : e.Ran t e') (h : e.Consistent) : e'.predictions = [] ∨
    e'.predictions = e.predictions ∧ ∃ f : Group → Group, e'.groups = e.groups.map f ∧
      ∀ g ∈ e.groups, (f g).outlook = g.outlook → g.Alike (f g) := by
  cases hran with
  | nothing => exact .inr ⟨rfl, id, (List.map_id _).symm, fun g _ _ => Group.Alike.refl g⟩
  | @store _ s s' forgets hs hwrites =>
    cases forgets with
    | true => exact .inl rfl
    | false =>
      have hsound := h.soundStores s hs
      exact .inr ⟨rfl, (·.putStore s'), rfl, fun g hg _ =>
        alike_putStore h hs (hwrites.updates hsound) (hwrites.following hsound) hg⟩
  | list => exact .inr ⟨rfl, id, (List.map_id _).symm, fun g _ _ => Group.Alike.refl g⟩
  | @main g l d hg =>
    refine .inr ⟨rfl, _, rfl, fun k hk houtlook => ?_⟩
    dsimp only at houtlook ⊢
    split_ifs with hn
    · rw [if_pos hn] at houtlook
      obtain rfl : k = g := List.inj_on_of_nodup_map h.distinct hk hg hn
      exact ⟨rfl, houtlook, fun _ => rfl⟩
    · exact Group.Alike.refl k

end Engine

end Typeahead
