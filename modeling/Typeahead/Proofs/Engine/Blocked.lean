import Typeahead.Proofs.Engine.Taught

/-! # Words that may be offensive

A word is not learned when it may be offensive, which is asked of the word as it was committed, and
by its frequency: an offensive word is taken to be one that the main dictionary has at frequency 0
(`Group.blocks_eq_false_iff`). A lexicon marks its offensive words whatever their frequency is, and
the form that is learned may be another word of it (`Group.mem_forms_lessons`). So a text leaves the
counts of the offensive words as they were exactly if none of its words that has another frequency
is learned in an offensive form, save one that was used as often as can be counted
(`offensive_uses_iff`). -/

namespace Typeahead

/-- **Lessons leave a count**, exactly if none is about the word, or the count is at its limit. -/
theorem Tables.uses_taught_eq_iff {t : Tables} {ls : List Lesson} (ht : t.Sound)
    (hls : ∀ l ∈ ls, l.row ≠ some []) (v : Text) : (t.taught ls).uses v = t.uses v ↔
      (v ∈ ls.map (·.form) → t.uses v = some countLimit) := by
  rw [uses_taught hls ht, iterate_bump_eq_iff, or_iff_not_imp_left, ← ne_eq,
    ← Nat.pos_iff_ne_zero, List.countP_pos_iff]
  simp

namespace Group

variable {g : Group} {block auto : Bool} {time window : Nat} {row : Option Text}
  {p : Option Respelling} {c : Context} {v w : Text} {ws : List Text}

theorem mem_forms_lesson? {first : Bool} :
    v ∈ (g.lesson? block time row first w).toList.map (·.form) ↔
      g.blocks block w = false ∧ g.formOf first w = v := by
  unfold lesson?
  cases g.blocks block w <;> simp [eq_comm]

theorem mem_forms_followUps : ∀ {ws : List Text} {row : Option Text},
    v ∈ (g.followUps block time window row ws).map (·.form) ↔
      ∃ w ∈ ws, g.blocks block w = false ∧ g.formOf false w = v
  | [], row => by simp [followUps]
  | w :: ws, row => by
    rw [followUps, List.map_append, List.mem_append, mem_forms_lesson?, mem_forms_followUps,
      List.exists_mem_cons_iff]

/-- **The forms that are learned** of a text: only its first word can begin a sentence. -/
theorem mem_forms_lessons (hp : ∀ s ∈ p, s.Regular) :
    v ∈ (g.lessons block time p c auto ws).map (·.form) ↔
      ∃ i w, ws[i]? = some w ∧ g.blocks block w = false ∧
        g.formOf (i == 0 && (auto || c.isStart)) w = v := by
  cases ws with
  | nil => simp [lessons, lessonsIn]
  | cons w ws =>
    rw [lessons, lessonsIn, List.map_append, List.mem_append, firstLesson?, mem_forms_lesson?,
      mem_forms_followUps, (Engine.respelled_keeps hp c).2]
    constructor
    · rintro (⟨hblock, hform⟩ | ⟨u, hu, hblock, hform⟩)
      · exact ⟨0, w, rfl, hblock, hform⟩
      · obtain ⟨i, hi⟩ := List.mem_iff_getElem?.mp hu
        exact ⟨i + 1, u, hi, hblock, hform⟩
    · rintro ⟨i, u, hi, hblock, hform⟩
      cases i with
      | zero =>
        obtain rfl := Option.some.inj hi
        exact .inl ⟨hblock, hform⟩
      | succ i => exact .inr ⟨u, List.mem_of_getElem? hi, hblock, hform⟩

theorem blocks_eq_false_iff {l : Lexicon} (hmain : g.main = some l.dictionary) :
    g.blocks true w = false ↔ l.frequency w ≠ 0 := by
  have hfrequency : g.mainFrequency w = l.frequency w := by
    rw [mainFrequency, hmain]
    rfl
  rw [blocks, hfrequency, Bool.and_true, decide_eq_false_iff_not]

end Group

namespace Engine

/-- **The offensive words** of a text are not counted, exactly if none of its words that is not of
frequency 0 is learned in an offensive form; a count at its limit stays all the same. -/
theorem offensive_uses_iff {p : Provider} {d : Disk} (hp : p.Sound) (hd : d.Sound) (s : Settings)
    (as : List Action) (text : Text) (auto : Bool) (c : Context) (time : Nat) {l : Lexicon}
    (hmain : (((start p s d).after as).learner text auto).main = some l.dictionary) {h : Store}
    (hsub : (((start p s d).after as).learner text auto).sub? .history = some h) :
    ∃ before ∈ ((start p s d).after as).drain.histories,
      ∃ after ∈ (((start p s d).after as).commit text auto c time true).drain.histories,
        before.number = h.number ∧ after.number = h.number ∧
        ((∀ v, l.isOffensive v = true → after.tables.uses v = before.tables.uses v) ↔
          ∀ i w, (Text.words text)[i]? = some w → l.frequency w ≠ 0 → ∀ v,
            (((start p s d).after as).learner text auto).formOf
              (i == 0 && (auto || c.isStart)) w = v → l.isOffensive v = true →
            before.tables.uses v = some Tables.countLimit) := by
  have hsound := sound_after hp hd s as
  have hregular := regular_after p s d as
  generalize (start p s d).after as = e at *
  have hcommitted := sound_commit hsound text auto c time true
  obtain ⟨k, hmap, hk⟩ := (queues_commit hsound.toConsistent hregular hsub c time true).histories
    hsound hcommitted
  obtain ⟨u, hu, hnumber⟩ := exists_mem_histories_drain hsound (mem_histories_of_learner hsub)
  obtain ⟨hsame, htaught⟩ := hk u hu
  have htables := sound_of_mem_histories_drain hsound hu
  refine ⟨u, hu, k u, hmap ▸ List.mem_map_of_mem hu, hnumber, hsame.trans hnumber, ?_⟩
  have hrows : ∀ l ∈ (e.learner text auto).lessons true time e.respelling c auto (Text.words text),
      l.row ≠ some [] := 
    Group.row_ne_of_mem_lessonsIn (fun w hw => ne_nil_of_mem_words hw) _ true time e.respelling c
      auto _
  rw [htaught hnumber]
  constructor
  · intro hsafe i w hi hfrequency v hform hoffensive
    refine (Tables.uses_taught_eq_iff htables.tables hrows v).mp (hsafe v hoffensive) ?_
    exact (Group.mem_forms_lessons hregular).mpr
      ⟨i, w, hi, (Group.blocks_eq_false_iff hmain).mpr hfrequency, hform⟩
  · intro hlimit v hoffensive
    refine (Tables.uses_taught_eq_iff htables.tables hrows v).mpr fun hv => ?_
    obtain ⟨i, w, hi, hblock, hform⟩ := (Group.mem_forms_lessons hregular).mp hv
    exact hlimit i w hi ((Group.blocks_eq_false_iff hmain).mp hblock) v hform hoffensive

/-- An offensive word of frequency 0 is left out, and the word after it is learned. -/
theorem offensive_uses_iff_frequency_zero :
    let l := ((({ locale := ⟨"en".toList⟩ } : Draft).addOffensive "damn".toList 0).addWord
      "hello".toList 100).build
    let p := Provider.memory [("en".toList, l.dictionary)]
    let as : List Action := [.reset { primary := ⟨"en".toList⟩ }, .work]
    let e := (start p {} default).after as
    let text := "damn hello".toList
    l.isOffensive "damn".toList = true ∧
      (∃ after ∈ (e.commit text false (.empty 3) 7 true).drain.histories,
        after.tables.uses "hello".toList = some 1) ∧
      ∃ before ∈ e.drain.histories,
        ∃ after ∈ (e.commit text false (.empty 3) 7 true).drain.histories,
          ∀ v, l.isOffensive v = true → after.tables.uses v = before.tables.uses v := by
  intro l p as e text
  have hp : p.Sound := Provider.sound_lexicon _ l
  have hmain : (e.learner text false).main = some l.dictionary := rfl
  obtain ⟨h, hsub⟩ : ∃ h, (e.learner text false).sub? .history = some h :=
    Option.isSome_iff_exists.mp (by decide +kernel)
  obtain ⟨before, hbefore, after, hafter, -, -, hiff⟩ := offensive_uses_iff hp Disk.sound_default
    {} as text false (.empty 3) 7 hmain hsub
  refine ⟨by decide +kernel, by decide +kernel, before, hbefore, after, hafter, hiff.mpr ?_⟩
  rintro i w hi hfrequency v rfl hoffensive
  have hwords : Text.words text = ["damn".toList, "hello".toList] := by decide +kernel
  have hzero : l.frequency "damn".toList = 0 := by decide +kernel
  have hform : l.isOffensive ((e.learner text false).formOf false "hello".toList) = false := by
    decide +kernel
  have hmem := hwords ▸ List.mem_of_getElem? hi
  rw [List.mem_cons, List.mem_singleton] at hmem
  rcases hmem with rfl | rfl
  · exact absurd hzero hfrequency
  · have hstart : (Context.empty 3).isStart = false := rfl
    rw [hstart, Bool.or_false, Bool.and_false, hform] at hoffensive
    exact absurd hoffensive Bool.false_ne_true

/-- An offensive word that has a frequency is learned. -/
theorem offensive_word_is_learned :
    let l := (({ locale := ⟨"en".toList⟩ } : Draft).addOffensive "damn".toList 100).build
    let p := Provider.memory [("en".toList, l.dictionary)]
    let e := (start p {} default).after [.reset { primary := ⟨"en".toList⟩ }, .work]
    l.isOffensive "damn".toList = true ∧ e.histories.map (·.tables.words) = [[]] ∧
      ∃ h ∈ (e.commit "damn".toList false (.empty 3) 7 true).drain.histories,
        h.tables.words.has "damn".toList = true := by
  decide +kernel

end Engine

end Typeahead
