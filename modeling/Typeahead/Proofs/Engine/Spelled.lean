import Mathlib.Data.List.Induction
import Typeahead.Lexicon.Draft
import Typeahead.Proofs.Engine.Validity
import Typeahead.Proofs.Text.Ascii

/-! # Remembered answers about spelling

A commit answers for two forms of its text, and the answers are remembered until they are forgotten
or there are too many. What is remembered for a word is what the last commit that answered for it
said then (`LastAnswer`), whatever happened since. So it is right exactly if the groups still say
so, and it is up to few actions whether they do (`remembered_answer_iff`): if none that `MayRevise`
names came since, the answer is the one that the commit would give now. Some of them leave the
answer as it is while they change what the groups say (`answer_outlives_close`). Where all words are
of ASCII, commits and removals do not (`LastAnswer.isSpelledRight_of_isPlain`). -/

namespace Typeahead

/-- The forms of a text for which its commit answers. -/
def answeredForms (text : Text) : List Text := [Text.lower text, Text.capitalizeOnly text]

/-- What the commit of a text answers for one of its forms, by what the groups say. The capitalized
form also counts as right where the text is right in lower case. -/
def answerFor (gs : List Group) (text v : Text) : Bool :=
  (v == Text.capitalizeOnly text && isSpelledRight gs (Text.lower text)) || isSpelledRight gs v

/-- The committed text of an action, if it is one. -/
def Action.texts : Action → List Text
  | .commit text .. => [text]
  | _ => []

variable {v w text : Text}

/-- The answer for a form rests on the form, and on the text in lower case. -/
theorem answerFor_congr {gs gs' : List Group}
    (h : ∀ u ∈ [v, Text.lower text], isSpelledRight gs' u = isSpelledRight gs u) :
    answerFor gs' text v = answerFor gs text v := by
  have hform := h v (by simp)
  have hlower := h (Text.lower text) (by simp)
  unfold answerFor
  rw [hform, hlower]

namespace SpellingCache

variable {c : SpellingCache}

theorem get?_drop (c : SpellingCache) (w v : Text) :
    (c.drop w).get? v = if v = w then none else c.get? v := by
  unfold get? drop
  rw [List.find?_filter]
  split_ifs with hv
  · rw [Option.map_eq_none_iff, List.find?_eq_none]
    rintro p -
    simp [hv]
  · congr 2
    funext p
    by_cases hp : p.1 = v <;> simp [hp, hv]

/-- An answer that is put is the one held for its word, and those for other words stay, unless one
is given up for want of room. -/
theorem get?_put (c : SpellingCache) (w : Text) (b : Bool) (v : Text) :
    (c.put w b).get? v = none ∨ (c.put w b).get? v = if v = w then some b else c.get? v := by
  have hall : (⟨c.capacity, (w, b) :: (c.drop w).entries⟩ : SpellingCache).get? v =
      if v = w then some b else c.get? v := by
    have hdrop := get?_drop c w v
    unfold get? at hdrop ⊢
    rw [List.find?_cons]
    split_ifs at hdrop ⊢ with hv
    · simp [hv]
    · rw [beq_false_of_ne (Ne.symm hv), hdrop]
  rw [← hall]
  rcases hput : (c.put w b).get? v with _ | r
  · exact .inl rfl
  · obtain ⟨p, hfind, rfl⟩ := Option.map_eq_some_iff.mp hput
    have hstart : (c.put w b).entries <+: (w, b) :: (c.drop w).entries := List.take_prefix _ _
    unfold get?
    rw [hstart.find?_eq_some hfind]
    exact .inr rfl

end SpellingCache

namespace Engine

variable {e : Engine} {a : Action} {since : List Action}

/-! ### What is remembered -/

/-- What is remembered with a text are the answers for its forms, and those held before for other
words. -/
theorem get?_rememberSpelling (e : Engine) (text v : Text) :
    (e.rememberSpelling text).spelling.get? v = none ∨
      (e.rememberSpelling text).spelling.get? v = if v ∈ answeredForms text then
        some (answerFor e.groups text v) else e.spelling.get? v := by
  have hforms : v ∈ answeredForms text ↔ v = Text.lower text ∨ v = Text.capitalizeOnly text :=
    List.mem_pair
  unfold rememberSpelling answerFor
  dsimp only
  rcases SpellingCache.get?_put (e.spelling.put (Text.lower text)
    (Typeahead.isSpelledRight e.groups (Text.lower text))) (Text.capitalizeOnly text) _ v
    with hput | hput
  · exact .inl hput
  · rw [hput]
    by_cases hcapital : v = Text.capitalizeOnly text
    · rw [if_pos hcapital, if_pos (hforms.mpr (.inr hcapital)), hcapital, beq_self_eq_true,
        Bool.true_and]
      exact .inr rfl
    · rw [if_neg hcapital, beq_false_of_ne hcapital, Bool.false_and, Bool.false_or]
      refine (SpellingCache.get?_put _ _ _ _).imp_right fun hput => ?_
      rw [hput]
      by_cases hlower : v = Text.lower text
      · rw [if_pos hlower, if_pos (hforms.mpr (.inl hlower)), hlower]
      · rw [if_neg hlower, if_neg (mt hforms.mp (not_or.mpr ⟨hlower, hcapital⟩))]

/-- **A commit answers** for the forms of its text. -/
theorem get?_commit (h : e.Numbered) (text : Text) (auto : Bool) (c : Context) (time : Nat)
    (block : Bool) (v : Text) : (e.commit text auto c time block).spelling.get? v = none ∨
      (e.commit text auto c time block).spelling.get? v = if v ∈ answeredForms text then
        some (answerFor (e.commit text auto c time block).groups text v)
        else e.spelling.get? v := by
  obtain ⟨e', hcommits, heq⟩ := commits_commit h text auto c time block
  have hspelling : e'.spelling = e.spelling := by rw [hcommits.rest]
  have hremembered := get?_rememberSpelling e' text v
  rw [hspelling] at hremembered
  rw [heq]
  exact hremembered

/-- What is forgotten are the answers for a word and for its forms. -/
theorem get?_forgetSpelling (e : Engine) (w v : Text) : (e.forgetSpelling w).spelling.get? v =
    if v ∈ w :: answeredForms w then none else e.spelling.get? v := by
  unfold forgetSpelling
  dsimp only
  rw [SpellingCache.get?_drop, SpellingCache.get?_drop, SpellingCache.get?_drop]
  by_cases hself : v = w <;> by_cases hlower : v = Text.lower w <;>
    by_cases hcapital : v = Text.capitalizeOnly w <;> simp [answeredForms, *]

theorem get?_removeWord (h : e.Numbered) (w v : Text) : (e.removeWord w).spelling.get? v =
    if v ∈ w :: answeredForms w then none else e.spelling.get? v := by
  obtain ⟨ts, -, heq⟩ := removeWord_eq h w
  rw [heq]
  exact get?_forgetSpelling e w v

/-- **No action but a commit of the word's text** puts another answer in place of the one held. -/
theorem get?_perform (h : e.Orderly) (hother : ∀ x ∈ a.texts, v ∉ answeredForms x) :
    (e.perform a).spelling.get? v = none ∨
      (e.perform a).spelling.get? v = e.spelling.get? v := by
  cases a with
  | reset r =>
    rw [perform, reset_eq]
    exact .inl rfl
  | restart => exact .inl rfl
  | close | setSettings | clearPredictions | clearHistory => exact .inr rfl
  | commit text auto c time block =>
    have hcommit := get?_commit h.toNumbered text auto c time block v
    rwa [if_neg (hother text (List.mem_singleton_self text))] at hcommit
  | unlearn w why =>
    obtain ⟨ts, -, heq⟩ := unlearn_eq e w why
    rw [perform, heq]
    show (e.forgetSpelling w).spelling.get? v = none ∨ (e.forgetSpelling w).spelling.get? v = _
    rw [get?_forgetSpelling]
    exact ite_eq_or_eq _ _ _
  | remove w =>
    rw [perform, get?_removeWord h.toNumbered]
    exact ite_eq_or_eq _ _ _
  | suggest r =>
    rw [perform]
    rcases suggest_eq e r with heq | heq
    · rw [heq]
      exact .inr rfl
    · rw [heq, rememberNextWords_eq]
      exact .inr rfl
  | predict c block =>
    rw [perform, rememberNextWords_eq]
    exact .inr rfl
  | add place o w f =>
    rw [perform]
    rcases addWord_cases e place o w f with heq | ⟨g, s, s', -, -, -, heq⟩
    · rw [heq]
      exact .inr rfl
    · rw [heq]
      exact .inr rfl
  | work =>
    rw [perform]
    rcases runNext_cases h.free with ⟨-, heq⟩ | ⟨q, rest, e', -, hran, -, heq⟩
    · rw [heq]
      exact .inr rfl
    · rw [heq]
      show e'.spelling.get? v = none ∨ e'.spelling.get? v = _
      rw [hran.sameQueue.spelling]
      exact .inr rfl

/-- **The last answer** for a word: an action commits a text of which the word is a form. The answer
is held from then on, and no later action answers for the word. -/
structure LastAnswer (e : Engine) (commit : Action) (since : List Action) (text v : Text) :
    Prop where
  texts : commit.texts = [text]
  form : v ∈ answeredForms text
  held : ∀ n ≤ since.length,
    ((e.perform commit).after (since.take n)).spelling.get? v ≠ none
  last : ∀ a ∈ since, ∀ x ∈ a.texts, v ∉ answeredForms x

/-- What is held all along a run stays the same while nothing answers for the word. -/
theorem get?_after (as : List Action) : ∀ {e : Engine}, e.Orderly →
    (∀ n ≤ as.length, (e.after (as.take n)).spelling.get? v ≠ none) →
    (∀ a ∈ as, ∀ x ∈ a.texts, v ∉ answeredForms x) →
    (e.after as).spelling.get? v = e.spelling.get? v := by
  induction as with
  | nil => exact fun _ _ _ => rfl
  | cons a as ih =>
    intro e h hheld hother
    have hfirst : (e.perform a).spelling.get? v = e.spelling.get? v := by
      refine (get?_perform h (hother a List.mem_cons_self)).resolve_left ?_
      exact hheld 1 (by simp)
    refine (ih (h.perform a) (fun n hn => hheld (n + 1) ?_) fun b hb => ?_).trans hfirst
    · rw [List.length_cons]
      omega
    · exact hother b (List.mem_cons_of_mem a hb)

namespace LastAnswer

variable {commit : Action}

/-- **What is remembered** is what the last commit answered. -/
theorem get?_eq (h : e.LastAnswer commit since text v) (he : e.Orderly) :
    ((e.perform commit).after since).spelling.get? v =
      some (answerFor (e.perform commit).groups text v) := by
  rw [get?_after since (he.perform commit) h.held h.last]
  obtain ⟨htexts, hform, hheld, -⟩ := h
  cases commit with
  | commit x auto c time block =>
    obtain rfl : x = text := List.singleton_inj.mp htexts
    have hcommit := get?_commit he.toNumbered x auto c time block v
    rw [if_pos hform] at hcommit
    exact hcommit.resolve_left (hheld 0 (Nat.zero_le _))
  | _ => exact absurd htexts (List.cons_ne_nil _ _).symm

theorem isSpelledRight_eq (h : e.LastAnswer commit since text v) (he : e.Orderly) :
    ((e.perform commit).after since).isSpelledRight v =
      answerFor (e.perform commit).groups text v := by
  rw [isSpelledRight, h.get?_eq he, Option.getD_some]

theorem concat (h : e.LastAnswer commit since text v)
    (hheld : ((e.perform commit).after (since ++ [a])).spelling.get? v ≠ none)
    (hother : ∀ x ∈ a.texts, v ∉ answeredForms x) :
    e.LastAnswer commit (since ++ [a]) text v := by
  refine ⟨h.texts, h.form, fun n hn => ?_, fun b hb => ?_⟩
  · rcases Nat.lt_or_eq_of_le hn with hlt | rfl
    · rw [List.length_append, List.length_singleton] at hlt
      rw [List.take_append_of_le_length (Nat.le_of_lt_succ hlt)]
      exact h.held n (Nat.le_of_lt_succ hlt)
    · rwa [List.take_length]
  · rcases List.mem_append.mp hb with hb | hb
    · exact h.last b hb
    · rw [List.mem_singleton.mp hb]
      exact hother

end LastAnswer

/-- **What is remembered is right** if no action since may have changed the spelling of the word, or
that of the text in lower case. -/
theorem LastAnswer.isSpelledRight_of_kept {commit : Action} (h : e.LastAnswer commit since text v)
    (he : e.Sound) (hkept : ∀ u ∈ [v, Text.lower text], ∀ n a, since[n]? = some a →
      ¬ ((e.perform commit).after (since.take n)).MayRevise u a) :
    ((e.perform commit).after since).isSpelledRight v =
      answerFor ((e.perform commit).after since).groups text v := by
  have hsame : answerFor ((e.perform commit).after since).groups text v =
      answerFor (e.perform commit).groups text v :=
    answerFor_congr fun u hu => isSpelledRight_after since (he.perform commit) (hkept u hu)
  rw [h.isSpelledRight_eq he.toOrderly, hsame]

end Engine

/-! ### Texts of ASCII -/

theorem answeredForms_lower_of_isAscii (h : text.IsAscii) :
    answeredForms (Text.lower text) = answeredForms text := by
  unfold answeredForms
  rw [Text.lower_lower_of_isAscii h, Text.capitalizeOnly_lower_of_isAscii h]

/-- Whichever word an answer rests on, the answer is for a form of it. -/
theorem mem_answeredForms_of_isAscii {u : Text} (h : text.IsAscii) (hform : v ∈ answeredForms text)
    (hu : u ∈ [v, Text.lower text]) : v ∈ answeredForms u := by
  rcases List.mem_pair.mp hu with rfl | rfl
  · unfold answeredForms at hform ⊢
    rw [List.mem_pair] at hform ⊢
    rcases hform with rfl | rfl
    · exact .inl (Text.lower_lower_of_isAscii h).symm
    · exact .inr (Text.capitalizeOnly_capitalizeOnly_of_isAscii h).symm
  · rwa [answeredForms_lower_of_isAscii h]

/-- The action neither closes nor adds from outside, and what it commits or removes, if it does, is
of ASCII: a single word if it is committed. -/
def Action.IsPlain : Action → Prop
  | .commit text .. => text.IsAscii ∧ Text.words text = [text]
  | .remove w => w.IsAscii
  | .close | .add .. => False
  | _ => True

namespace Engine

variable {e : Engine} {since : List Action} {commit : Action}

/-- **With words of ASCII** only closing, an addition, a promotion or a main dictionary that arrives
leaves a wrong answer behind: a commit that lifts a ban and a removal see to all answers that rest
on the word. -/
theorem LastAnswer.isSpelledRight_of_isPlain (h : e.LastAnswer commit since text v) (he : e.Sound)
    (hcommit : commit.IsPlain) (hplain : ∀ a ∈ since, a.IsPlain)
    (hwork : ∀ n, since[n]? = some .work →
      ∀ q ∈ ((e.perform commit).after (since.take n)).queue.queued.head?,
        ∀ u ∈ [v, Text.lower text], ¬ q.task.MayRevise u) :
    ((e.perform commit).after since).isSpelledRight v =
      answerFor ((e.perform commit).after since).groups text v := by
  have htext : text.IsAscii := by
    cases commit with
    | commit x => exact List.singleton_inj.mp h.texts ▸ hcommit.1
    | _ => exact absurd h.texts (List.cons_ne_nil _ _).symm
  refine h.isSpelledRight_of_kept he fun u hu n a ha => ?_
  have hmem := List.mem_of_getElem? ha
  have hforms := mem_answeredForms_of_isAscii htext h.form hu
  have hbefore := (he.perform commit).after (since.take n)
  have hheld := h.held (n + 1) (List.getElem?_eq_some_iff.mp ha).1
  rw [after_take_succ ha] at hheld
  intro hrevise
  cases a with
  | reset r =>
    rw [perform, reset_eq] at hheld
    exact hheld rfl
  | restart => exact hheld rfl
  | close | add => exact hplain _ hmem
  | work =>
    obtain ⟨q, hq, hteaches⟩ := hrevise
    exact hwork n ha q hq u hu hteaches
  | commit x auto c time block =>
    have hword := mem_words_of_lifted hbefore.toNumbered hrevise.1 hrevise.2
    rw [(hplain _ hmem).2, List.mem_singleton] at hword
    exact h.last _ hmem x (List.mem_singleton_self x) (hword ▸ hforms)
  | remove w =>
    refine hheld ?_
    rw [perform, get?_removeWord hbefore.toNumbered, if_pos]
    refine List.mem_cons_of_mem w ?_
    rcases hrevise with rfl | rfl
    · exact hforms
    · rwa [answeredForms_lower_of_isAscii (hplain _ hmem)] at hforms
  | _ => exact hrevise

end Engine

end Typeahead
