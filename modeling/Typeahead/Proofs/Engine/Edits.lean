import Mathlib.Data.List.Induction
import Typeahead.Proofs.Engine.Orderly

/-! # Actions that keep the groups

All actions but a change of locales, a new start and a step of the waiting work leave the groups
with their locales and main dictionaries. They may change stores, confidences and blacklists, and
what they queue are no loads, and writes of the groups' own blacklists only (`edits_perform`). A word
leaves a blacklist only where it is typed. -/

namespace Typeahead

/-- The action keeps the groups and does no waiting work. -/
def Action.IsEdit : Action → Prop
  | .reset _ | .close | .restart | .work => False
  | _ => True

/-- An action keeps the groups, or it is one of four others. -/
@[elab_as_elim]
theorem Action.edit_cases {motive : Action → Prop} (edit : ∀ a : Action, a.IsEdit → motive a)
    (reset : ∀ r, motive (.reset r)) (close : motive .close) (restart : motive .restart)
    (work : motive .work) (a : Action) : motive a := by
  cases a with
  | reset r => exact reset r
  | close => exact close
  | restart => exact restart
  | work => exact work
  | setSettings | clearPredictions | commit | unlearn | remove | clearHistory | suggest | predict |
    add => exact edit _ trivial

/-- The words that an action commits. -/
def Action.typed : Action → List Text
  | .commit text .. => Text.words text
  | _ => []

/-- The group with other stores, another confidence and another blacklist, from which only words of
`ws` may be missing. -/
structure Group.Edits (ws : List Text) (g g' : Group) : Prop where
  number : g'.number = g.number
  locale : g'.locale = g.locale
  main : g'.main = g.main
  listNumber : g'.blacklist.number = g.blacklist.number
  listPath : g'.blacklist.path = g.blacklist.path
  kept : ∀ w, w ∉ ws → g.isBlacklisted w = true → g'.isBlacklisted w = true

namespace Group

variable {ws : List Text} {g g' g'' : Group}

theorem Edits.refl (ws : List Text) (g : Group) : g.Edits ws g :=
  ⟨rfl, rfl, rfl, rfl, rfl, fun _ _ h => h⟩

theorem Edits.trans (h : g.Edits ws g') (h' : g'.Edits ws g'') : g.Edits ws g'' :=
  ⟨h'.number.trans h.number, h'.locale.trans h.locale, h'.main.trans h.main,
    h'.listNumber.trans h.listNumber, h'.listPath.trans h.listPath,
    fun w hw hban => h'.kept w hw (h.kept w hw hban)⟩

theorem edits_forgetIn (ws : List Text) (g : Group) (os : List Origin) (w : Text) :
    g.Edits ws (g.forgetIn os w) := ⟨rfl, rfl, rfl, rfl, rfl, fun _ _ h => h⟩

theorem edits_putStore (ws : List Text) (g : Group) (s : Store) : g.Edits ws (g.putStore s) :=
  ⟨rfl, rfl, rfl, rfl, rfl, fun _ _ h => h⟩

theorem edits_blacklistWord (ws : List Text) (g : Group) (w : Text) :
    g.Edits ws (g.blacklistWord w) := by
  refine ⟨rfl, rfl, rfl, rfl, rfl, fun v _ hban => ?_⟩
  rw [isBlacklisted_blacklistWord, hban, Bool.or_true]

theorem edits_removeWord (ws : List Text) (g : Group) (w : Text) : g.Edits ws (g.removeWord w) :=
  removeWord_induction (P := g.Edits ws) (Edits.refl ws g)
    (fun k os hk => hk.trans (edits_forgetIn ws k os w))
    fun k v _ hk => hk.trans (edits_blacklistWord ws k v)

theorem edits_clearedHistory (ws : List Text) (g : Group) :
    g.Edits ws (Engine.clearedHistory g) := by
  unfold Engine.clearedHistory
  split
  · exact edits_putStore ws g _
  · exact Edits.refl ws g

theorem Relisted.edits (h : Relisted ws g g') : g.Edits ws g' := by
  refine ⟨?_, ?_, ?_, ?_, ?_, fun w hw hban => (h.kept w hw).trans hban⟩ <;> rw [h.rest]

end Group

namespace Engine

variable {ws : List Text} {e e' : Engine}

/-- The groups are edited, and more tasks wait. -/
structure Edits (ws : List Text) (e e' : Engine) : Prop where
  provider : e'.provider = e.provider
  disk : e'.disk = e.disk
  nextNumber : e'.nextNumber = e.nextNumber
  loading : e'.loading = e.loading
  keptLists : e'.keptLists = e.keptLists
  groups : ∃ f : Group → Group, e'.groups = e.groups.map f ∧ ∀ g : Group, g.Edits ws (f g)
  queue : ∃ ts : List Task, e'.queue = e.queue.pushAll ts ∧
    ∀ t ∈ ts, t.isLoad = false ∧ ∀ n, t.list? = some n → n ∈ e.listNumbers

/-- Changes of the groups while nothing comes to wait. -/
theorem edits_of_groups {f : Group → Group} (hf : ∀ g : Group, g.Edits ws (f g))
    (hgroups : e'.groups = e.groups.map f) (hprovider : e'.provider = e.provider)
    (hdisk : e'.disk = e.disk) (hnext : e'.nextNumber = e.nextNumber)
    (hloading : e'.loading = e.loading) (hkept : e'.keptLists = e.keptLists)
    (hqueue : e'.queue = e.queue) : e.Edits ws e' :=
  ⟨hprovider, hdisk, hnext, hloading, hkept, ⟨f, hgroups, hf⟩, ⟨[], hqueue, by simp⟩⟩

/-- Changes of nothing that matters here. -/
theorem edits_of_same (hgroups : e'.groups = e.groups) (hprovider : e'.provider = e.provider)
    (hdisk : e'.disk = e.disk) (hnext : e'.nextNumber = e.nextNumber)
    (hloading : e'.loading = e.loading) (hkept : e'.keptLists = e.keptLists)
    (hqueue : e'.queue = e.queue) : e.Edits ws e' :=
  edits_of_groups (f := id) (Group.Edits.refl ws) (by rw [hgroups, List.map_id]) hprovider hdisk
    hnext hloading hkept hqueue

theorem edits_rememberNextWords (ws : List Text) (e : Engine) (c : Context) (block : Bool) :
    e.Edits ws (e.rememberNextWords c block) := by
  rw [rememberNextWords_eq]
  exact edits_of_same rfl rfl rfl rfl rfl rfl rfl

theorem edits_putStore (ws : List Text) (e : Engine) (s : Store) : e.Edits ws (e.putStore s) :=
  edits_of_groups (f := (·.putStore s)) (Group.edits_putStore ws · s) rfl rfl rfl rfl rfl rfl rfl

theorem isLoad_of_isAbout {labels : List (Nat × Origin)} {lists : List Nat} {t : Task}
    (h : t.IsAbout labels lists ws) : t.isLoad = false ∧ ∀ n, t.list? = some n → n ∈ lists := by
  cases t with
  | learn | promote => exact ⟨rfl, fun n hn => nomatch hn⟩
  | unlearn | loadMain => exact False.elim h
  | writeList n =>
    refine ⟨rfl, fun m hm => ?_⟩
    obtain rfl := Option.some.inj hm
    exact h

theorem edits_commit (h : e.Orderly) (text : Text) (auto : Bool) (c : Context) (time : Nat)
    (block : Bool) : e.Edits (Text.words text) (e.commit text auto c time block) := by
  obtain ⟨e', hcommits, heq⟩ := commits_commit h.toNumbered text auto c time block
  obtain ⟨f, hf, hrelisted⟩ := hcommits.groups
  obtain ⟨ts, hqueue, hts⟩ := hcommits.queue
  rw [heq]
  refine ⟨?_, ?_, ?_, ?_, ?_, ⟨f, hf, fun g => (hrelisted g).edits⟩,
    ⟨ts, hqueue, fun t ht => isLoad_of_isAbout (hts t ht)⟩⟩
  all_goals
    show _ = _
    unfold rememberSpelling
    rw [hcommits.rest]

theorem edits_remove (h : e.Orderly) (w : Text) : e.Edits ws (e.removeWord w) := by
  rw [removeWord_eq_map h.toNumbered]
  refine ⟨rfl, rfl, rfl, rfl, rfl, ⟨_, rfl, fun g => Group.edits_removeWord ws g w⟩, ⟨_, rfl, ?_⟩⟩
  intro t ht
  obtain ⟨g, hg, ht⟩ := List.mem_flatMap.mp ht
  obtain rfl := (mem_listWrites.mp ht).2.2
  refine ⟨rfl, fun n hn => ?_⟩
  obtain rfl := Option.some.inj hn
  rw [(Group.edits_removeWord ws g w).listNumber]
  exact List.mem_map.mpr ⟨g, hg, rfl⟩

/-- **An action that keeps the groups** edits them, and what it queues are no loads. -/
theorem edits_perform (h : e.Orderly) {a : Action} (ha : a.IsEdit) :
    e.Edits a.typed (e.perform a) := by
  cases a with
  | reset | close | restart | work => exact False.elim ha
  | setSettings s => exact edits_of_same rfl rfl rfl rfl rfl rfl rfl
  | clearPredictions => exact edits_of_same rfl rfl rfl rfl rfl rfl rfl
  | commit text auto c time block => exact edits_commit h text auto c time block
  | unlearn w why =>
    obtain ⟨ts, hts, heq⟩ := unlearn_eq e w why
    show e.Edits [] (e.unlearn w why)
    rw [heq]
    refine ⟨rfl, rfl, rfl, rfl, rfl, ⟨id, (List.map_id _).symm, Group.Edits.refl []⟩,
      ⟨ts, rfl, fun t ht => ?_⟩⟩
    obtain ⟨g, s, -, -, rfl⟩ := hts t ht
    exact ⟨rfl, fun n hn => nomatch hn⟩
  | remove w => exact edits_remove h w
  | clearHistory =>
    exact edits_of_groups (Group.edits_clearedHistory []) rfl rfl rfl rfl rfl rfl rfl
  | suggest r =>
    show e.Edits [] (e.suggest r).2
    rcases suggest_eq e r with heq | heq
    · rw [heq]
      exact edits_of_same rfl rfl rfl rfl rfl rfl rfl
    · rw [heq]
      exact edits_rememberNextWords [] e r.context r.settings.blocksOffensive
  | predict c block => exact edits_rememberNextWords [] e c block
  | add place o w f =>
    show e.Edits [] (e.addWord place o w f)
    rcases addWord_cases e place o w f with heq | ⟨g, s, s', -, -, -, heq⟩
    · rw [heq]
      exact edits_of_same rfl rfl rfl rfl rfl rfl rfl
    · rw [heq]
      exact edits_putStore [] e s'

/-! ### The provider -/

theorem Ran.provider_eq {t : Task} (h : e.Ran t e') : e'.provider = e.provider := by
  cases h <;> rfl

theorem provider_perform (h : e.Orderly) (a : Action) : (e.perform a).provider = e.provider := by
  cases a using Action.edit_cases with
  | edit a ha => exact (edits_perform h ha).provider
  | reset r =>
    show (e.reset r).provider = e.provider
    rw [reset_eq]
    exact (opened_built e r).provider
  | close => rfl
  | restart => rfl
  | work =>
    show e.runNext.provider = e.provider
    rcases runNext_cases h.free with ⟨-, heq⟩ | ⟨q, rest, e', -, hran, -, heq⟩
    · rw [heq]
    · rw [heq]
      exact hran.provider_eq

theorem provider_after (p : Provider) (s : Settings) (d : Disk) (as : List Action) :
    ((start p s d).after as).provider = p := by
  induction as using List.reverseRecOn with
  | nil => rfl
  | append_singleton as a ih =>
    rw [after, List.foldl_concat, ← after, provider_perform (orderly_after p s d as), ih]

end Engine

end Typeahead
