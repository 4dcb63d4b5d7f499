import Typeahead.Proofs.Engine.Taught
import Typeahead.Proofs.Text.Lower

/-! # Texts that are committed word by word

The words of a text can be committed at once or one by one (`commitEach`). Either way the first word
leaves the same respelling, and from the third word on each one is counted in the row of the word
before it. The second word is counted in a row that may be respelled, and there the two ways differ:
at once its context is the one that was respelled for the first word already, so the new respelling
reaches the row; word by word it is the one that was given, and if the first word opened the
sentence before, too, it is respelled there and not in the row (`Context.Repeats`,
`Group.lessons_cases`). Otherwise the histories are the same (`commit_eq_commitEach_iff`). -/

namespace Typeahead

open Context

/-- The word that is committed is the one that the pending respelling changes: it opened one sentence
of the context, and it opens another one, with both in the window of the next word. -/
def Context.Repeats (p : Option Respelling) (c : Context) (w : Text) : Prop :=
  Text.decapitalize w ≠ w ∧ (∃ s ∈ p, s.written = w) ∧ openings w c.slots = 1 ∧
    openings w (c.next (.word w)).slots = 2

instance (p : Option Respelling) (c : Context) (w : Text) : Decidable (c.Repeats p w) := by
  unfold Context.Repeats
  infer_instance

namespace Context

variable {p : Option Respelling} {c : Context} {w : Text}

theorem startsFirst_window (h : startsFirst (c.slots.take (c.window - 1)) = true) :
    c.window ≠ 0 := by
  intro hzero
  rw [hzero] at h
  exact Bool.false_ne_true h

/-- In the window of the next word there is one sentence more, if the word begins it. -/
theorem openings_next (h : startsFirst (c.slots.take (c.window - 1)) = true) :
    openings w (c.next (.word w)).slots = openings w (c.slots.take (c.window - 1)) + 1 := by
  obtain hzero | ⟨m, hm⟩ := c.window_cases
  · exact absurd hzero (startsFirst_window h)
  · rw [hm, Nat.add_sub_cancel] at h ⊢
    have hopens : opensWith w (.word w) (c.slots.take m) = true := by
      rw [opensWith, h]
      simp [Slot.word?]
    rw [slots_next_of_window hm, openings, if_pos hopens, Nat.add_comm]

/-- A word that repeats opens a sentence that the next word's window shows, and begins a new one. -/
theorem Repeats.startsFirst (h : c.Repeats p w) :
    startsFirst (c.slots.take (c.window - 1)) = true ∧
      openings w (c.slots.take (c.window - 1)) = 1 := by
  obtain ⟨-, -, hone, htwo⟩ := h
  have hle : openings w (c.slots.take (c.window - 1)) ≤ openings w c.slots :=
    openings_take_le w c.slots _
  cases hstart : Context.startsFirst (c.slots.take (c.window - 1)) with
  | true =>
    rw [openings_next hstart] at htwo
    exact ⟨rfl, by omega⟩
  | false =>
    exfalso
    obtain hzero | ⟨m, hm⟩ := c.window_cases
    · rw [slots_next_of_window_zero hzero] at htwo
      exact nomatch htwo
    · rw [hm, Nat.add_sub_cancel] at hstart hle
      have hopens : ¬ opensWith w (.word w) (c.slots.take m) = true := by
        rw [opensWith, hstart]
        exact Bool.false_ne_true
      rw [slots_next_of_window hm, openings, if_neg hopens] at htwo
      omega

end Context

namespace Engine

variable {p : Option Respelling} {s : Respelling} {c : Context} {w : Text} {l : List Slot}

/-- The row of the second word, when the pending respelling is the one of the first. -/
theorem rowKey?_respelled_next_of_written (hs : s.Regular) (hw : s.written = w) (c : Context) :
    Tables.rowKey? (respelled (some s) (c.next (.word w))).1 =
      if startsFirst (c.slots.take (c.window - 1)) = true ∧
          openings w (c.slots.take (c.window - 1)) = 0
      then some (Text.decapitalize w) else rowAfter c.window w := by
  have hne : w ≠ [] := hw ▸ hs.written
  rw [rowKey?_respelled_next hs hne, hs.learned, hw]
  simp only [true_and]

theorem rowKey?_respelled_next_of_ne (hs : s.Regular) (hw : w ≠ []) (hne : s.written ≠ w)
    (c : Context) :
    Tables.rowKey? (respelled (some s) (c.next (.word w))).1 = rowAfter c.window w := by
  rw [rowKey?_respelled_next hs hw, if_neg fun h => hne h.1]

/-- A respelling of the context leaves a word that opens an earlier sentence, unless it repeats. -/
theorem openings_respelled_iff (hs : s.Regular)
    (hl : changeOldest s.written s.learned c.slots = some l) (hw : Text.decapitalize w ≠ w)
    (hstart : startsFirst (c.slots.take (c.window - 1)) = true)
    (hnot : ¬ c.Repeats (some s) w) :
    openings w (l.take (c.window - 1)) = 0 ↔ openings w (c.slots.take (c.window - 1)) = 0 := by
  by_cases hsw : s.written = w
  · have hlearned : s.learned = Text.decapitalize w := by rw [hs.learned, hsw]
    rw [hsw, hlearned] at hl
    have hpos : openings w c.slots ≠ 0 := fun hzero => by
      rw [changeOldest_eq_none_iff.mpr hzero] at hl
      exact nomatch hl
    rw [openings_take_changeOldest (hsw ▸ hs.written) hw hl]
    split_ifs with hall
    · have hone : openings w c.slots ≠ 1 := fun hone =>
        hnot ⟨hw, ⟨s, rfl, hsw⟩, hone, by rw [openings_next hstart, hall, hone]⟩
      omega
    · rfl
  · have hlearned : w ≠ s.learned := fun hwl => by
      refine hw ?_
      rw [hwl, hs.learned, Text.decapitalize_decapitalize]
    rw [openings_changeOldest_of_ne hs.written (Ne.symm hsw) hlearned hl]

end Engine

namespace Group

variable {g : Group} {block auto : Bool} {time : Nat} {p : Option Respelling} {c : Context}
  {w v : Text} {ws : List Text}

open Engine

/-- A respelling that stays pending is pending after a word that is not blocked, or the word's own
one is. -/
theorem exists_respells_fst {s : Respelling} (hblock : g.blocks block w = false)
    (hs : (respelled (some s) c).2 = some s) (auto : Bool) :
    ∃ r, (g.respells block (some s) c auto w).1 = some r ∧ (r = s ∨ r.written = w) := by
  unfold respells
  rw [hblock, if_neg Bool.false_ne_true]
  obtain hsame | ⟨-, hown⟩ :=
    learnedForm_snd g (respelled (some s) c).2 (auto || (respelled (some s) c).1.isStart) w
  · exact ⟨s, hsame.trans hs, .inl rfl⟩
  · exact ⟨_, hown, .inr rfl⟩

theorem respells_snd (hblock : g.blocks block w = false) :
    (g.respells block p c auto w).2 = (respelled p c).1 := by
  unfold respells
  rw [hblock, if_neg Bool.false_ne_true]

/-- **The row of the second word** is the same in the context that was respelled for the first word
and in the one that was given, unless the first word repeats. -/
theorem rowKey?_second (hp : ∀ s ∈ p, s.Regular) (hw : w ≠ [])
    (hnot : g.blocks block w = false → ¬ c.Repeats p w) :
    Tables.rowKey? (g.secondContext block p c auto w) =
      Tables.rowKey? (respelled (g.respells block p c auto w).1 (c.next (.word w))).1 := by
  obtain ⟨hregular, -⟩ := respells_keeps hp hw g block c auto
  cases hblock : g.blocks block w with
  | true =>
    unfold secondContext respells
    rw [hblock, if_pos rfl]
  | false =>
    rw [secondContext, respells_snd hblock]
    obtain ⟨heq, -⟩ | ⟨s, l, rfl, hl, heq⟩ := respelled_cases p c
    · rw [heq]
    · obtain ⟨r, hr, -⟩ := exists_respells_fst (w := w) hblock (congrArg Prod.snd heq) auto
      have hrr : r.Regular := hregular r hr
      rw [hr, heq]
      by_cases hrw : r.written = w
      · rw [rowKey?_respelled_next_of_written hrr hrw, rowKey?_respelled_next_of_written hrr hrw]
        dsimp only
        rw [startsFirst_changeOldest (hp s rfl).written hl]
        by_cases hstart : startsFirst (c.slots.take (c.window - 1)) = true
        · by_cases hsmall : Text.decapitalize w = w
          · have hrow : rowAfter c.window w = some w := if_neg (startsFirst_window hstart)
            rw [hsmall, hrow, ite_self, ite_self]
          · simp only [hstart, true_and,
              openings_respelled_iff (hp s rfl) hl hsmall hstart (hnot hblock)]
        · rw [if_neg fun h => hstart h.1, if_neg fun h => hstart h.1]
      · rw [rowKey?_respelled_next_of_ne hrr hw hrw, rowKey?_respelled_next_of_ne hrr hw hrw]

/-- **A word that repeats** is respelled in the row of the second word at once, and is not word by
word. -/
theorem rowKey?_second_of_repeats (hp : ∀ s ∈ p, s.Regular) (hblock : g.blocks block w = false)
    (h : c.Repeats p w) (auto : Bool) :
    Tables.rowKey? (g.secondContext block p c auto w) = some (Text.decapitalize w) ∧
      Tables.rowKey? (respelled (g.respells block p c auto w).1 (c.next (.word w))).1 = some w := by
  obtain ⟨hstart, hin⟩ := h.startsFirst
  obtain ⟨hw, ⟨s, hs, hsw⟩, hone, -⟩ := h
  obtain rfl := hs
  have hne : w ≠ [] := hsw ▸ (hp s rfl).written
  obtain ⟨hregular, -⟩ := respells_keeps hp hne g block c auto
  obtain ⟨-, hnone⟩ | ⟨s', l, hs', hl, heq⟩ := respelled_cases (some s) c
  · have hzero := hnone s rfl
    rw [hsw, hone] at hzero
    exact nomatch hzero
  · obtain rfl := Option.some.inj hs'
    obtain ⟨r, hr, hrw⟩ := exists_respells_fst hblock (congrArg Prod.snd heq) auto
    replace hrw : r.written = w := hrw.elim (fun hsame => hsame ▸ hsw) id
    have hrr : r.Regular := hregular r hr
    rw [secondContext, hr, respells_snd hblock, heq]
    have hlearned : s.learned = Text.decapitalize w := by rw [(hp s rfl).learned, hsw]
    rw [hsw, hlearned] at hl
    constructor
    · rw [rowKey?_respelled_next_of_written hrr hrw]
      dsimp only
      refine if_pos ⟨(startsFirst_changeOldest hne hl _).trans hstart, ?_⟩
      rw [openings_take_changeOldest hne hw hl, hin, hone, if_pos rfl]
    · rw [rowKey?_respelled_next_of_written hrr hrw, hin,
        if_neg fun hzero => Nat.one_ne_zero hzero.2]
      exact if_neg (startsFirst_window hstart)

/-- The lessons of words that are committed one by one. -/
def lessonsEach (g : Group) (block : Bool) (time : Nat) (p : Option Respelling) (c : Context)
    (auto : Bool) (ws : List Text) : List Lesson :=
  g.lessonsIn block time p c auto
    (fun w => (respelled (g.respells block p c auto w).1 (c.next (.word w))).1) ws

/-- **At once or word by word**: the same lessons, or the second one in another row. -/
theorem lessons_cases (hp : ∀ s ∈ p, s.Regular) (hws : ∀ w ∈ ws, w ≠ []) (g : Group)
    (block : Bool) (time : Nat) (c : Context) (auto : Bool) :
    (g.lessons block time p c auto ws = g.lessonsEach block time p c auto ws ∧
      ∀ w v rest, ws = w :: v :: rest → c.Repeats p w → g.blocks block w = false →
        g.blocks block v = true) ∨
    ∃ w v rest, ws = w :: v :: rest ∧ c.Repeats p w ∧ g.blocks block w = false ∧
      g.blocks block v = false ∧ ∃ ls rs,
        g.lessons block time p c auto ws = ls ++
          ⟨some (Text.decapitalize w), g.formOf false v, 0 < g.mainFrequency v, time⟩ :: rs ∧
        g.lessonsEach block time p c auto ws = ls ++
          ⟨some w, g.formOf false v, 0 < g.mainFrequency v, time⟩ :: rs := by
  match ws with
  | [] => exact .inl ⟨rfl, nofun⟩
  | [w] => exact .inl ⟨rfl, nofun⟩
  | w :: v :: rest =>
    by_cases hrepeats : g.blocks block w = false ∧ c.Repeats p w
    · obtain ⟨hblock, hrepeats⟩ := hrepeats
      obtain ⟨hrow, hrow'⟩ := rowKey?_second_of_repeats hp hblock hrepeats auto
      rw [lessons, lessonsEach, lessonsIn, lessonsIn, hrow, hrow', followUps, followUps, lesson?,
        lesson?]
      cases hv : g.blocks block v with
      | true =>
        refine .inl ⟨by rw [if_pos rfl, if_pos rfl], ?_⟩
        rintro w' v' rest' heq - -
        obtain ⟨-, heq⟩ := List.cons.inj heq
        rw [← (List.cons.inj heq).1]
        exact hv
      | false =>
        rw [if_neg Bool.false_ne_true, if_neg Bool.false_ne_true]
        exact .inr ⟨w, v, rest, rfl, hrepeats, hblock, hv, _, _, rfl, rfl⟩
    · refine .inl ⟨?_, fun w' v' rest' heq hr hb => absurd ⟨?_, ?_⟩ hrepeats⟩
      · rw [lessons, lessonsEach, lessonsIn, lessonsIn, rowKey?_second hp (hws w List.mem_cons_self)
          fun hb hr => hrepeats ⟨hb, hr⟩]
      · rw [(List.cons.inj heq).1]
        exact hb
      · rw [(List.cons.inj heq).1]
        exact hr

/-- **What the lessons make of tables**: the same, unless the first word repeats. -/
theorem taught_lessons_eq_iff {t : Tables} (ht : t.Sound) (hp : ∀ s ∈ p, s.Regular)
    (hws : ∀ w ∈ ws, w ≠ []) (g : Group) (block : Bool) (time : Nat) (c : Context) (auto : Bool) :
    t.taught (g.lessons block time p c auto ws) = t.taught (g.lessonsEach block time p c auto ws) ↔
      ∀ w v rest, ws = w :: v :: rest → c.Repeats p w → g.blocks block w = false →
        g.blocks block v = false →
          (t.taught (g.lessons block time p c auto ws)).times w (g.formOf false v) =
              some Tables.countLimit ∧
            (t.taught (g.lessonsEach block time p c auto ws)).times (Text.decapitalize w)
              (g.formOf false v) = some Tables.countLimit := by
  have hrows : ∀ l ∈ g.lessons block time p c auto ws, l.row ≠ some [] :=
    row_ne_of_mem_lessonsIn hws g block time p c auto _
  have hrows' : ∀ l ∈ g.lessonsEach block time p c auto ws, l.row ≠ some [] :=
    row_ne_of_mem_lessonsIn hws g block time p c auto _
  obtain ⟨hsame, hblocked⟩ | ⟨w, v, rest, rfl, hrepeats, hw, hv, ls, rs, hlessons, hlessons'⟩ :=
    lessons_cases hp hws g block time c auto
  · refine iff_of_true (congrArg t.taught hsame) fun w v rest heq hrepeats hw hv => ?_
    rw [hblocked w v rest heq hrepeats hw] at hv
    exact nomatch hv
  · rw [hlessons] at hrows ⊢
    rw [hlessons'] at hrows' ⊢
    rw [Tables.taught_eq_iff_of_rows hrepeats.1 hrows hrows' ht]
    constructor
    · rintro hlimits w' v' rest' hws' - - -
      rw [List.cons.injEq, List.cons.injEq] at hws'
      obtain ⟨hw', hv', -⟩ := hws'
      rw [← hw', ← hv']
      exact hlimits
    · exact fun hlimits => hlimits w v rest rfl hrepeats hw hv

end Group

namespace Engine

variable {e : Engine} {g : Group} {h : Store} {c : Context} {w : Text} {ws : List Text}
  {auto block : Bool} {time : Nat}

/-- The engine after words were committed one by one, each in the context of those before it. -/
def commitEach (time : Nat) (block : Bool) : Engine → Context → Bool → List Text → Engine
  | e, _, _, [] => e
  | e, c, auto, w :: ws =>
    commitEach time block (e.commit w auto c time block) (c.next (.word w)) false ws

theorem sound_commitEach (time : Nat) (block : Bool) : ∀ (ws : List Text) {e : Engine}
    (c : Context) (auto : Bool), e.Sound → (commitEach time block e c auto ws).Sound
  | [], _, _, _, hsound => hsound
  | w :: ws, _, c, auto, hsound =>
    sound_commitEach time block ws _ _ (sound_commit hsound w auto c time block)

theorem subs_commitEach (time : Nat) (block : Bool) : ∀ (ws : List Text) {e : Engine}
    (c : Context) (auto : Bool), e.Sound → (commitEach time block e c auto ws).subs = e.subs
  | [], _, _, _, _ => rfl
  | w :: ws, _, c, auto, hsound =>
    (subs_commitEach time block ws _ _ (sound_commit hsound w auto c time block)).trans
      (subs_commit hsound.toNumbered w auto c time block)

/-- **One word** that is committed: its lesson is queued, and the group is the same but for its
blacklist and its confidence. -/
theorem commit_step (hsound : e.Consistent) (hregular : e.RegularRespelling)
    (hone : e.groups = [g]) (hsub : g.sub? .history = some h) (hw : Text.words w = [w])
    (c : Context) (auto : Bool) (time : Nat) (block : Bool) :
    Queues h.number (·.taught (g.firstLesson? block time e.respelling c auto w).toList) e
        (e.commit w auto c time block) ∧
      (e.commit w auto c time block).respelling = (g.respells block e.respelling c auto w).1 ∧
      ∃ g', (e.commit w auto c time block).groups = [g'] ∧ g'.main = g.main ∧
        g'.sub? .history = some h := by
  have hlearner : e.learner w auto = g := learner_of_single hone w auto
  have hne : w ≠ [] := ne_nil_of_words hw
  refine ⟨?_, ?_, ?_⟩
  · have hqueues := queues_commit hsound hregular (hlearner ▸ hsub) c time block
    rw [hlearner, hw, Group.lessons, Group.lessonsIn, Group.followUps, List.append_nil] at hqueues
    exact hqueues
  · have hfound := group?_learner hsound.toNumbered (hlearner ▸ hsub)
    rw [hlearner] at hfound
    have hstep := learn_step (nodup_prepared hsound.toNumbered w auto) hfound hsub hne c auto time
      block rfl
    rw [commit_eq, hw, hlearner]
    unfold learnWords
    rw [hfound, Option.getD_some]
    exact hstep.2.1.trans (by rw [respelling_prepared])
  · obtain ⟨e', hcommits, heq⟩ := commits_commit hsound.toNumbered w auto c time block
    obtain ⟨f, hf, hrelisted⟩ := hcommits.groups
    refine ⟨f g, ?_, ?_, ?_⟩
    · rw [heq]
      show e'.groups = _
      rw [hf, hone]
      rfl
    · rw [(hrelisted g).rest]
    · rw [Group.sub?, subs_of_relisted (hrelisted g)]
      exact hsub

/-- Words that are committed one by one within a sentence. -/
theorem queues_commitEach_followUps (time : Nat) (block : Bool) : ∀ (ws : List Text) {e : Engine}
    {g : Group} {c : Context}, e.Sound → e.RegularRespelling → e.groups = [g] →
    g.sub? .history = some h → c.isStart = false → (∀ w ∈ ws, Text.words w = [w]) →
    Queues h.number (·.taught (g.followUps block time c.window
      (Tables.rowKey? (respelled e.respelling c).1) ws)) e (commitEach time block e c false ws)
  | [], e, _, _, _, _, _, _, _, _ => Queues.refl h.number e
  | w :: ws, e, g, c, hsound, hregular, hone, hsub, hstart, hws => by
    have hword : Text.words w = [w] := hws w List.mem_cons_self
    have hw : w ≠ [] := ne_nil_of_words hword
    obtain ⟨hstep, hrespelling, g', hone', hmain, hsub'⟩ :=
      commit_step hsound.toConsistent hregular hone hsub hword c false time block
    have hregular' := hregular.commit hsound.distinct w false c time block
    have hrest := queues_commitEach_followUps time block ws
      (sound_commit hsound w false c time block) hregular' hone' hsub' (isStart_next_word c w)
      fun v hv => hws v (List.mem_cons_of_mem w hv)
    rw [rowKey?_respelled_next_of_not_isStart hregular' hstart hw, Group.followUps_congr hmain,
      show (c.next (.word w)).window = c.window from rfl] at hrest
    rw [Group.followUps, ← Group.firstLesson?_of_not_isStart hregular hstart]
    exact hstep.append hrest

/-- **Words that are committed one by one** are learned as these lessons. -/
theorem queues_commitEach (hsound : e.Sound) (hregular : e.RegularRespelling)
    (hone : e.groups = [g]) (hsub : g.sub? .history = some h)
    (hws : ∀ w ∈ ws, Text.words w = [w]) (c : Context) (auto : Bool) (time : Nat) (block : Bool) :
    Queues h.number (·.taught (g.lessonsEach block time e.respelling c auto ws)) e
      (commitEach time block e c auto ws) := by
  cases ws with
  | nil => exact Queues.refl h.number e
  | cons w ws =>
    obtain ⟨hstep, hrespelling, g', hone', hmain, hsub'⟩ := commit_step hsound.toConsistent hregular
      hone hsub (hws w List.mem_cons_self) c auto time block
    have hrest := queues_commitEach_followUps time block ws
      (sound_commit hsound w auto c time block)
      (hregular.commit hsound.distinct w auto c time block) hone' hsub' (isStart_next_word c w)
      fun v hv => hws v (List.mem_cons_of_mem w hv)
    rw [hrespelling, Group.followUps_congr hmain] at hrest
    exact hstep.append hrest

theorem histories_commitEach (hsound : e.Sound) (hregular : e.RegularRespelling)
    (hone : e.groups = [g]) (hsub : g.sub? .history = some h)
    (hws : ∀ w ∈ ws, Text.words w = [w]) (c : Context) (auto : Bool) (time : Nat) (block : Bool) :
    (commitEach time block e c auto ws).drain.histories = e.drain.histories.map fun s =>
      s.withTables (s.tables.taught (g.lessonsEach block time e.respelling c auto ws)) :=
  (queues_commitEach hsound hregular hone hsub hws c auto time block).histories_of_single hsound
    (sound_commitEach time block ws c auto hsound) hone hsub

/-- **At once or word by word** the same is learned, unless the first word repeats: then the second
word is counted in another row, and it takes two counts at the limit to hide that. -/
theorem commit_eq_commitEach_iff {p : Provider} {d : Disk} (hp : p.Sound) (hd : d.Sound)
    (s : Settings) (as : List Action) (hone : ((start p s d).after as).groups.length = 1)
    (text : Text) (auto : Bool) (c : Context) (time : Nat) (block : Bool) :
    let e := (start p s d).after as
    let once := e.commit text auto c time block
    let each := commitEach time block e c auto (Text.words text)
    once.drain.histories = each.drain.histories ↔
      ∀ w v rest, Text.words text = w :: v :: rest → c.Repeats e.respelling w →
        ∀ g ∈ e.groups, g.blocks block w = false → g.blocks block v = false →
          (∀ h ∈ once.drain.histories,
            h.tables.times w (g.formOf false v) = some Tables.countLimit) ∧
          ∀ h ∈ each.drain.histories,
            h.tables.times (Text.decapitalize w) (g.formOf false v) =
              some Tables.countLimit := by
  intro e once each
  have hsound : e.Sound := sound_after hp hd s as
  have hregular : e.RegularRespelling := regular_after p s d as
  obtain ⟨g, hg⟩ := List.length_eq_one_iff.mp hone
  have honce : once.Sound := sound_commit hsound text auto c time block
  have heach : each.Sound := sound_commitEach time block (Text.words text) c auto hsound
  rcases hsub : g.sub? .history with _ | h
  · have hnone := (histories_eq_nil_iff hsound.toConsistent hg).mpr hsub
    have hnone₁ : once.histories = [] := by
      rw [histories, subs_commit hsound.toNumbered]
      exact hnone
    have hnone₂ : each.histories = [] := by
      rw [histories, subs_commitEach time block _ c auto hsound]
      exact hnone
    rw [histories_drain_of_nil honce hnone₁, histories_drain_of_nil heach hnone₂]
    simp
  · have hwords : ∀ w ∈ Text.words text, w ≠ [] := fun w hw => ne_nil_of_mem_words hw
    have hiff (s : Store) (hs : s ∈ e.drain.histories) := Group.taught_lessons_eq_iff
      (sound_of_mem_histories_drain hsound hs).tables hregular hwords g block time c auto
    rw [histories_commit_of_single hsound hregular hg hsub,
      histories_commitEach hsound hregular hg hsub fun w => Text.words_of_mem_words,
      List.map_inj_left]
    constructor
    · intro hall w v rest hws hrepeats g' hg' hw hv
      obtain rfl : g' = g := List.mem_singleton.mp (hg ▸ hg')
      have hlimits (s : Store) (hs : s ∈ e.drain.histories) :=
        (hiff s hs).mp (congrArg Store.tables (hall s hs)) w v rest hws hrepeats hw hv
      exact ⟨List.forall_mem_map.mpr fun s hs => (hlimits s hs).1,
        List.forall_mem_map.mpr fun s hs => (hlimits s hs).2⟩
    · intro hlimits s hs
      refine congrArg s.withTables ((hiff s hs).mpr fun w v rest hws hrepeats hw hv => ?_)
      have hmem : g ∈ e.groups := hg ▸ List.mem_singleton_self g
      obtain ⟨hat, hapart⟩ := hlimits w v rest hws hrepeats g hmem hw hv
      exact ⟨List.forall_mem_map.mp hat s hs, List.forall_mem_map.mp hapart s hs⟩

/-- A sentence begins with the word that began the one before, which is out of sight by then. -/
theorem commit_eq_commitEach_iff_next_sentence :
    let l := (({ locale := ⟨"en".toList⟩ } : Draft).addWord "hello".toList 100).build
    let p := Provider.memory [("en".toList, l.dictionary)]
    let as : List Action := [.reset { primary := ⟨"en".toList⟩ }, .work,
      .commit "Hello".toList false .start 1 true, .work]
    let e := (start p {} default).after as
    let text := "Hello dear world".toList
    let c : Context := ⟨3, [.sentenceStart, .word "Hello".toList, .sentenceStart]⟩
    let once := e.commit text false c 2 true
    let each := commitEach 2 true e c false (Text.words text)
    (∃ h ∈ once.drain.histories, h.tables.times "hello".toList "dear".toList = some 1) ∧
      once.drain.histories = each.drain.histories := by
  intro l p as e text c once each
  have hp : p.Sound := Provider.sound_lexicon _ l
  have hone : e.groups.length = 1 := by decide +kernel
  have hwords : Text.words text = ["Hello".toList, "dear".toList, "world".toList] := by
    decide +kernel
  have hnot : ¬ c.Repeats e.respelling "Hello".toList := by decide +kernel
  refine ⟨by decide +kernel, ?_⟩
  refine (commit_eq_commitEach_iff hp Disk.sound_default {} as hone text false c 2 true).mpr
    fun w v rest hws hrepeats => ?_
  rw [(List.cons.inj (hwords.symm.trans hws)).1] at hnot
  exact absurd hrepeats hnot

/-- A sentence begins with the word that began the one before, which is still in sight: at once the
word after it follows the small form, and word by word it follows the capitalized one. -/
theorem repeated_word_is_followed_twice :
    let l := ((({ locale := ⟨"en".toList⟩ } : Draft).addWord "hello".toList 100).addWord
      "world".toList 100).build
    let p := Provider.memory [("en".toList, l.dictionary)]
    let e := (start p {} default).after [.reset { primary := ⟨"en".toList⟩ }, .work,
      .commit "Hello".toList false .start 1 true, .work]
    let text := "Hello world".toList
    let c : Context := ⟨4, [.sentenceStart, .word "Hello".toList, .sentenceStart]⟩
    let once := e.commit text false c 2 true
    let each := commitEach 2 true e c false (Text.words text)
    e.groups.length = 1 ∧ e.settings.promotesWords = false ∧
      once.drain.histories.map (·.tables.times "hello".toList "world".toList) = [some 1] ∧
      each.drain.histories.map (·.tables.times "hello".toList "world".toList) = [none] ∧
      each.drain.histories.map (·.tables.times "Hello".toList "world".toList) = [some 1] := by
  decide +kernel

end Engine

end Typeahead
