import Typeahead.Proofs.Engine.Taught
import Typeahead.Proofs.Text.Lower

/-! # Words that are taken back

A word is learned in one of three forms, and it is taken back as it was committed. No two forms of a
word differ in their small letters (`Group.lower_formOf`), so a history that lacked the word in
every case is left with the learned form at most (`Tables.lacks_remove_teach_iff`). Hence nothing of
the word remains exactly if it was learned as it was committed, or not at all (`unlearned_iff`). -/

namespace Typeahead

namespace Tables

variable {t : Tables} {l : Lesson} {w : Text}

/-- The word is neither held nor does it follow another one, in whatever case it is written. -/
def Lacks (t : Tables) (w : Text) : Prop :=
  ∀ v, Text.lower v = Text.lower w → t.words.has v = false ∧ ∀ k, (t.row k).has v = false

theorem Sound.lacks_iff (h : t.Sound) :
    t.Lacks w ↔ ∀ v, Text.lower v = Text.lower w → t.words.has v = false := by
  refine ⟨fun hlacks v hv => (hlacks v hv).1, fun hwords v hv => ⟨hwords v hv, fun k => ?_⟩⟩
  refine Bool.eq_false_iff.mpr fun hfollows => ?_
  exact Bool.false_ne_true ((hwords v hv).symm.trans (h.held hfollows))

theorem Lacks.remove (h : t.Sound) (hlacks : t.Lacks w) (v : Text) : (t.remove v).Lacks w := by
  refine (sound_remove h v).lacks_iff.mpr fun u hu => ?_
  rw [has_words_remove h, (hlacks u hu).1, Bool.and_false]

/-- **What is left of a lesson** in a new word, when the word is taken back. -/
theorem lacks_remove_teach_iff (h : t.Sound) (hlacks : t.Lacks w) (hrow : l.row ≠ some [])
    (hform : Text.lower l.form = Text.lower w) :
    ((t.teach l).remove w).Lacks w ↔ l.form = w := by
  have hafter := h.teach hrow
  rw [(sound_remove hafter w).lacks_iff]
  have hhas (v : Text) (hv : Text.lower v = Text.lower w) :
      ((t.teach l).remove w).words.has v = (v != w && v == l.form) := by
    rw [has_words_remove hafter, has_words_teach h, (hlacks v hv).1, Bool.or_false]
  constructor
  · intro hnone
    have hkept := hnone l.form hform
    rw [hhas l.form hform, beq_self_eq_true, Bool.and_true] at hkept
    simpa using hkept
  · rintro rfl v hv
    rw [hhas v hv]
    simp

end Tables

theorem Group.lower_formOf (g : Group) (first : Bool) (w : Text) :
    Text.lower (g.formOf first w) = Text.lower w := by
  have hmem := g.formOf_mem first w
  simp only [List.mem_cons, List.not_mem_nil, or_false] at hmem
  rcases hmem with h | h | h
  · rw [h]
  · rw [h, Text.lower_decapitalize]
  · rw [h, Text.lower_lower]

namespace Engine

variable {e : Engine} {g : Group} {h : Store} {w : Text} {c : Context} {auto block : Bool}
  {time : Nat}

theorem queues_unlearn (hsub : e.preferred.sub? .history = some h) (w : Text) :
    Queues h.number (·.remove w) e (e.unlearn w .revert) := by
  unfold unlearn
  rw [hsub]
  exact ⟨rfl, [.unlearn h.number w], rfl, fun t => if_pos rfl⟩

/-- A single group still has the same history after a text was committed. -/
theorem preferred_commit (hsound : e.Consistent) (hone : e.groups = [g]) (text : Text) (auto : Bool)
    (c : Context) (time : Nat) (block : Bool) :
    (e.commit text auto c time block).preferred.sub? .history = g.sub? .history := by
  have hsubs := subs_commit hsound.toNumbered text auto c time block
  unfold subs at hsubs
  rw [hone] at hsubs
  obtain ⟨g', hg', hsame⟩ := List.map_eq_singleton_iff.mp hsubs
  unfold preferred
  rw [hg']
  show g'.subs.find? _ = g.subs.find? _
  rw [hsame]

/-- **A learned word that is taken back** leaves nothing in a history that lacked it, exactly if its
form is the one that was committed. -/
theorem lacks_unlearn_iff (hsound : e.Sound) (hregular : e.RegularRespelling)
    (hidle : e.queue.queued = []) (hone : e.groups = [g]) (hsub : g.sub? .history = some h)
    (hw : Text.words w = [w]) (hnew : h.tables.Lacks w) :
    (∀ s ∈ ((e.commit w auto c time block).unlearn w .revert).drain.histories,
      s.tables.Lacks w) ↔ g.blocks block w = true ∨ g.formOf (auto || c.isStart) w = w := by
  have hlearner : e.learner w auto = g := learner_of_single hone w auto
  have hlearned := queues_commit hsound.toConsistent hregular (hlearner ▸ hsub) c time block
  have htaken := queues_unlearn
    ((preferred_commit hsound.toConsistent hone w auto c time block).trans hsub) w
  have hcommitted := sound_commit hsound w auto c time block
  have hhistories := (hlearned.trans htaken).histories_of_single hsound
    (hcommitted.perform (.unlearn w .revert)) hone hsub
  have hstored : e.histories = [h] := histories_of_single hsound.toConsistent hone hsub
  have htables : h.tables.Sound := (sound_of_mem_histories hsound.toConsistent
    (hstored ▸ List.mem_singleton_self h)).tables
  rw [hhistories, drain_of_idle hidle, hstored, List.map_singleton, List.forall_mem_singleton,
    hlearner, hw, Group.lessons, Group.lessonsIn, Group.followUps, List.append_nil,
    Group.firstLesson?, Group.lesson?]
  by_cases hblock : g.blocks block w = true
  · rw [if_pos hblock]
    exact ⟨fun _ => .inl hblock, fun _ => hnew.remove htables w⟩
  · rw [if_neg hblock, (respelled_keeps hregular c).2]
    refine (Tables.lacks_remove_teach_iff htables hnew (Tables.rowKey?_ne _)
      (g.lower_formOf _ w)).trans ?_
    rw [or_iff_right hblock]

/-- **Unlearning undoes learning** for a new word, in whatever case it is written, exactly if the
history learns the word as it was committed, or not at all. -/
theorem unlearned_iff {p : Provider} {d : Disk} (hp : p.Sound) (hd : d.Sound) (s : Settings)
    (as : List Action) (hone : ((start p s d).after as).groups.length = 1)
    (hidle : ((start p s d).after as).queue.queued = []) {w : Text} (hw : Text.words w = [w])
    (hnew : ∀ h ∈ ((start p s d).after as).histories, ∀ v, Text.lower v = Text.lower w →
      h.tables.words.has v = false)
    (auto : Bool) (c : Context) (time : Nat) (block : Bool) :
    (∀ h ∈
        ((((start p s d).after as).commit w auto c time block).unlearn w .revert).drain.histories,
      h.tables.Lacks w) ↔
    ∀ g ∈ ((start p s d).after as).groups, (g.sub? .history).isSome = true →
      g.blocks block w = true ∨ g.formOf (auto || c.isStart) w = w := by
  have hsound := sound_after hp hd s as
  have hregular := regular_after p s d as
  generalize (start p s d).after as = e at *
  obtain ⟨g, hg⟩ := List.length_eq_one_iff.mp hone
  rcases hsub : g.sub? .history with _ | h
  · have htaken : ((e.commit w auto c time block).unlearn w .revert).Sound :=
      (sound_commit hsound w auto c time block).perform (.unlearn w .revert)
    have hnone : ((e.commit w auto c time block).unlearn w .revert).histories = [] := by
      obtain ⟨ts, -, heq⟩ := unlearn_eq (e.commit w auto c time block) w .revert
      rw [heq]
      show (e.commit w auto c time block).subs.flatten.filter _ = _
      rw [subs_commit hsound.toNumbered]
      exact (histories_eq_nil_iff hsound.toConsistent hg).mpr hsub
    rw [histories_drain_of_nil htaken hnone, hg]
    simp [hsub]
  · have hmem : h ∈ e.histories := (mem_histories_iff hsound.toConsistent hg).mpr hsub
    have htables := (sound_of_mem_histories hsound.toConsistent hmem).tables
    have hlacks : h.tables.Lacks w := htables.lacks_iff.mpr (hnew h hmem)
    rw [lacks_unlearn_iff hsound hregular hidle hg hsub hw hlacks, hg]
    simp [hsub]

/-- A word that is new, within a sentence: it is learned, and nothing of it remains. -/
theorem unlearned_iff_within_sentence :
    let l := (({ locale := ⟨"en".toList⟩ } : Draft).addWord "hello".toList 100).build
    let p := Provider.memory [("en".toList, l.dictionary)]
    let c := (Context.empty 3).next (.word "oh".toList)
    let e := (start p {} default).after [.reset { primary := ⟨"en".toList⟩ }, .work]
    let e' := e.commit "hello".toList false c 7 true
    (∃ h ∈ e'.drain.histories, h.tables.uses "hello".toList = some 1) ∧
      ∀ h ∈ (e'.unlearn "hello".toList .revert).drain.histories,
        h.tables.Lacks "hello".toList := by
  intro l p c e e'
  have hp : p.Sound := Provider.sound_lexicon _ l
  have hempty : ∀ h ∈ e.histories, h.tables.words = [] := by decide +kernel
  have hform : ∀ g ∈ e.groups, (g.sub? .history).isSome = true →
      g.blocks true "hello".toList = true ∨
        g.formOf (false || c.isStart) "hello".toList = "hello".toList := by decide +kernel
  refine ⟨by decide +kernel, ?_⟩
  refine (unlearned_iff hp Disk.sound_default {} _ (by decide +kernel) (by decide +kernel)
    (by decide +kernel) (fun h hh v _ => ?_) false c 7 true).mpr hform
  rw [hempty h hh]
  rfl

/-- At the start of a sentence the small form is learned, and it stays when the capitalized one is
taken back. -/
theorem small_form_stays :
    let l := (({ locale := ⟨"en".toList⟩ } : Draft).addWord "hello".toList 100).build
    let p := Provider.memory [("en".toList, l.dictionary)]
    let e := (start p {} default).after [.reset { primary := ⟨"en".toList⟩ }, .work]
    let e' := ((e.commit "Hello".toList false .start 7 true).unlearn "Hello".toList .revert).drain
    e.groups.length = 1 ∧ e.queue.queued = [] ∧ Text.words "Hello".toList = ["Hello".toList] ∧
      e.histories.map (·.tables.words) = [[]] ∧
      Text.lower "hello".toList = Text.lower "Hello".toList ∧
      ∃ h ∈ e'.histories, h.tables.words.has "hello".toList = true := by
  decide +kernel

end Engine

end Typeahead
