import Mathlib.Data.List.Induction
import Typeahead.Lexicon.SourceLine
import Typeahead.Proofs.WordMap

/-! # Drafts, by what they know

Of a draft one can ask the frequency of a word (`frequency?`), whether it offends (`offends`), and
which words follow it (`followers`), wherever these are kept: a word of the draft keeps its own
followers, any other word has them among the mere contexts. Under `WellFormed` no word is in both
places, so that a word that arrives takes its followers with it and `followers` does not change
(`followers_addWord`). An entry of a word list then changes each view at one place by a maximum
(`frequency?_addTo`, `get?_followers_addTo`, `get?_starts_addTo`), and a whole list leaves the
greatest of the numbers it names (`view_ofLines`). -/

namespace Typeahead

open WordMap (Sorted)

/-! ### What an entry of a word list says -/

namespace SourceLine

/-- The frequency that an entry names for the word `w`. -/
def frequencyOf? (w : Text) : SourceLine → Option Nat
  | word v f | offensive v f => if v = w then some f else none
  | _ => none

/-- The entry marks the word `w` as offensive. -/
def marks (w : Text) : SourceLine → Bool
  | offensive v _ => v == w
  | _ => false

/-- The frequency that an entry names for `next` after the word `w`. -/
def follows? (w next : Text) : SourceLine → Option Nat
  | pair before n f => if before ≠ Slot.startTag ∧ before = w ∧ n = next then some f else none
  | _ => none

/-- The frequency that an entry names for `next` at the start of a sentence. -/
def starts? (next : Text) : SourceLine → Option Nat
  | pair before n f => if before = Slot.startTag ∧ n = next then some f else none
  | _ => none

/-- The replacement that an entry names for the lower-case form `k`. -/
def replaces? (k : Text) : SourceLine → Option Text
  | replacement typed r => if Text.lower typed = k then some r else none
  | _ => none

end SourceLine

namespace Draft

variable {d : Draft} {w v : Text} {f : Nat}

/-- The frequency of a word. -/
def frequency? (d : Draft) (w : Text) : Option Nat := (d.words.get? w).map (·.frequency)

/-- The word is marked as offensive. -/
def offends (d : Draft) (w : Text) : Bool := (d.words.get? w).any (·.offensive)

/-- The words that follow a word, wherever they are kept. -/
def followers (d : Draft) (w : Text) : WordMap Nat :=
  match d.words.get? w with
  | some e => e.nextWords
  | none => (d.contextOnly.get? w).getD []

/-- **The invariant** of drafts: all maps are sorted, no word is both a word and a mere context, and
a mere context has followers. -/
structure WellFormed (d : Draft) : Prop where
  words : Sorted d.words
  starts : Sorted d.starts
  contextOnly : Sorted d.contextOnly
  replacements : Sorted d.replacements
  followers : ∀ w, Sorted (d.followers w)
  apart : ∀ w, (d.words.get? w).isSome → d.contextOnly.get? w = none
  used : ∀ w m, d.contextOnly.get? w = some m → m ≠ []

theorem followers_of_word {e : DraftEntry} (h : d.words.get? w = some e) :
    d.followers w = e.nextWords := by
  rw [Draft.followers, h]

theorem followers_of_none (h : d.words.get? w = none) :
    d.followers w = (d.contextOnly.get? w).getD [] := by
  rw [Draft.followers, h]

/-- The mere contexts are the words with followers that are no words of the draft. -/
theorem WellFormed.get?_contextOnly (h : d.WellFormed) (w : Text) :
    d.contextOnly.get? w =
      if (d.frequency? w).isSome ∨ d.followers w = [] then none else some (d.followers w) := by
  rw [frequency?, Option.isSome_map]
  rcases hw : d.words.get? w with _ | e
  · rw [followers_of_none hw]
    rcases hc : d.contextOnly.get? w with _ | m
    · simp
    · simp [h.used w m hc]
  · rw [h.apart w (by simp [hw])]
    simp

/-! ### Merging -/

theorem sorted_merge {more m : WordMap Nat} (hm : Sorted m) : Sorted (merge more m) := by
  induction more generalizing m with
  | nil => exact hm
  | cons n more ih => exact ih (WordMap.sorted_raise hm)

theorem get?_merge {more m : WordMap Nat} (hmore : Sorted more) (hm : Sorted m) (k : Text) :
    (merge more m).get? k = (m.get? k).merge max (more.get? k) := by
  induction more generalizing m with
  | nil => simp [merge]
  | cons n more ih =>
    obtain ⟨hn, hmore'⟩ := WordMap.sorted_cons.mp hmore
    show (merge more (m.raise n.1 n.2)).get? k = _
    rw [ih hmore' (WordMap.sorted_raise hm), WordMap.get?_raise hm, WordMap.get?_cons]
    by_cases hk : k = n.1
    · rw [if_pos hk, if_pos hk.symm, hk, WordMap.get?_eq_none_of_lt hn, Option.merge_none_right]
    · rw [if_neg hk, if_neg fun h => hk h.symm]

theorem merge_nil_right {more : WordMap Nat} (hmore : Sorted more) : merge more [] = more :=
  (sorted_merge WordMap.sorted_nil).ext hmore fun k => by
    rw [get?_merge hmore WordMap.sorted_nil, WordMap.get?_nil, Option.merge_none_left]

/-! ### Adding a word -/

theorem get?_words_addWord (h : d.WellFormed) :
    (d.addWord w f).words.get? v =
      if v = w then
        some { (d.words.get? w).getD { frequency := f } with
          frequency := max ((d.words.get? w).getD { frequency := f }).frequency f
          nextWords := d.followers w }
      else d.words.get? v := by
  have hn : merge ((d.contextOnly.get? w).getD [])
      ((d.words.get? w).getD { frequency := f }).nextWords = d.followers w := by
    rcases hw : d.words.get? w with _ | e
    · have hs := h.followers w
      rw [followers_of_none hw] at hs ⊢
      exact merge_nil_right hs
    · rw [followers_of_word hw, h.apart w (by simp [hw])]
      rfl
  rw [addWord, WordMap.get?_alter h.words]
  simp only [hn]

theorem get?_contextOnly_addWord (h : d.WellFormed) :
    (d.addWord w f).contextOnly.get? v = if v = w then none else d.contextOnly.get? v :=
  WordMap.get?_erase h.contextOnly

/-- **A word takes its followers with it.** -/
theorem followers_addWord (h : d.WellFormed) : (d.addWord w f).followers v = d.followers v := by
  rw [Draft.followers, get?_words_addWord h, get?_contextOnly_addWord h]
  by_cases hv : v = w
  · rw [if_pos hv, hv]
  · rw [if_neg hv, if_neg hv, Draft.followers]

theorem frequency?_addWord (h : d.WellFormed) :
    (d.addWord w f).frequency? v =
      if v = w then (d.frequency? w).merge max (some f) else d.frequency? v := by
  simp only [frequency?, get?_words_addWord h]
  split_ifs
  · cases d.words.get? w <;> simp
  · rfl

theorem offends_addWord (h : d.WellFormed) : (d.addWord w f).offends v = d.offends v := by
  simp only [offends, get?_words_addWord h]
  by_cases hv : v = w
  · subst hv
    cases d.words.get? v <;> simp
  · rw [if_neg hv]

theorem WellFormed.addWord (h : d.WellFormed) : (d.addWord w f).WellFormed where
  words := WordMap.sorted_alter h.words
  starts := h.starts
  contextOnly := WordMap.sorted_erase h.contextOnly
  replacements := h.replacements
  followers v := by rw [followers_addWord h]; exact h.followers v
  apart v hv := by
    rw [get?_words_addWord h] at hv
    rw [get?_contextOnly_addWord h]
    split_ifs at hv ⊢
    · rfl
    · exact h.apart v hv
  used v m hm := by
    rw [get?_contextOnly_addWord h] at hm
    split_ifs at hm
    exact h.used v m hm

/-! ### Changing the entry of a word -/

/-- The draft with the entry of `w`, if there is one, changed by `g`. -/
def amend (d : Draft) (w : Text) (g : DraftEntry → DraftEntry) : Draft :=
  { d with words := d.words.alter w (·.map g) }

section Amend
variable {g : DraftEntry → DraftEntry}

theorem get?_words_amend (h : d.WellFormed) : (d.amend w g).words.get? v =
    if v = w then (d.words.get? w).map g else d.words.get? v := WordMap.get?_alter h.words

theorem frequency?_amend (h : d.WellFormed) (hg : ∀ e, (g e).frequency = e.frequency) :
    (d.amend w g).frequency? v = d.frequency? v := by
  simp only [frequency?, get?_words_amend h]
  by_cases hv : v = w
  · rw [if_pos hv, hv]
    cases d.words.get? w <;> simp [hg]
  · rw [if_neg hv]

theorem followers_amend_of_ne (h : d.WellFormed) (hv : v ≠ w) :
    (d.amend w g).followers v = d.followers v := by
  rw [Draft.followers, get?_words_amend h, if_neg hv]
  rfl

theorem followers_amend_self (h : d.WellFormed) {e : DraftEntry} (he : d.words.get? w = some e) :
    (d.amend w g).followers w = (g e).nextWords := by
  refine followers_of_word ?_
  rw [get?_words_amend h, if_pos rfl, he]
  rfl

theorem WellFormed.amend (h : d.WellFormed)
    (hg : ∀ e, Sorted e.nextWords → Sorted (g e).nextWords) : (d.amend w g).WellFormed where
  words := WordMap.sorted_alter h.words
  starts := h.starts
  contextOnly := h.contextOnly
  replacements := h.replacements
  followers v := by
    by_cases hv : v = w
    · subst hv
      rcases he : d.words.get? v with _ | e
      · have hn : (d.amend v g).words.get? v = none := by
          rw [get?_words_amend h, if_pos rfl, he]; rfl
        have hs := h.followers v
        rw [followers_of_none he] at hs
        rwa [followers_of_none hn]
      · have hs := h.followers v
        rw [followers_of_word he] at hs
        rw [followers_amend_self h he]
        exact hg e hs
    · rw [followers_amend_of_ne h hv]; exact h.followers v
  apart v hv := by
    refine h.apart v ?_
    rw [get?_words_amend h] at hv
    split_ifs at hv with hvw
    · rw [hvw]; simpa using hv
    · exact hv
  used := h.used

end Amend

/-! ### Offensive words -/

theorem addOffensive_eq : d.addOffensive w f =
    (d.addWord w f).amend w fun e => { e with offensive := true } := rfl

theorem frequency?_addOffensive (h : d.WellFormed) :
    (d.addOffensive w f).frequency? v = (d.addWord w f).frequency? v := by
  rw [addOffensive_eq]
  exact frequency?_amend h.addWord fun _ => rfl

theorem followers_addOffensive (h : d.WellFormed) :
    (d.addOffensive w f).followers v = d.followers v := by
  rw [addOffensive_eq, ← followers_addWord (w := w) (f := f) h]
  by_cases hv : v = w
  · subst hv
    obtain ⟨e, he⟩ : ∃ e, (d.addWord v f).words.get? v = some e :=
      ⟨_, by rw [get?_words_addWord h, if_pos rfl]⟩
    rw [followers_amend_self h.addWord he, followers_of_word he]
  · rw [followers_amend_of_ne h.addWord hv]

theorem offends_addOffensive (h : d.WellFormed) :
    (d.addOffensive w f).offends v = (d.offends v || w == v) := by
  rw [addOffensive_eq, ← offends_addWord (w := w) (f := f) h]
  simp only [offends, get?_words_amend h.addWord]
  by_cases hv : v = w
  · subst hv
    rw [if_pos rfl, get?_words_addWord h, if_pos rfl]
    simp
  · have hb : (w == v) = false := by simpa using fun h' => hv h'.symm
    rw [if_neg hv, hb, Bool.or_false]

theorem WellFormed.addOffensive (h : d.WellFormed) : (d.addOffensive w f).WellFormed :=
  h.addWord.amend fun _ hs => hs

/-! ### Pairs -/

variable {before next : Text}

theorem addPair_of_start (hb : before = Slot.startTag) :
    d.addPair before next f = { d with starts := d.starts.raise next f } := by
  rw [addPair, if_pos hb]

theorem addPair_of_word (hb : before ≠ Slot.startTag) {e : DraftEntry}
    (he : d.words.get? before = some e) : d.addPair before next f =
      d.amend before fun e => { e with nextWords := e.nextWords.raise next f } := by
  have hw : d.words.has before = true := by rw [WordMap.has_eq, he]; rfl
  rw [addPair, if_neg hb, if_pos hw]
  rfl

theorem addPair_of_context (hb : before ≠ Slot.startTag) (he : d.words.get? before = none) :
    d.addPair before next f =
      { d with
        contextOnly := d.contextOnly.alter before fun old =>
          some (WordMap.raise next f (old.getD [])) } := by
  have hw : ¬ d.words.has before = true := by rw [WordMap.has_eq, he]; simp
  rw [addPair, if_neg hb, if_neg hw]

theorem frequency?_addPair (h : d.WellFormed) :
    (d.addPair before next f).frequency? v = d.frequency? v := by
  by_cases hb : before = Slot.startTag
  · rw [addPair_of_start hb]; rfl
  · rcases he : d.words.get? before with _ | e
    · rw [addPair_of_context hb he]; rfl
    · rw [addPair_of_word hb he, frequency?_amend h]
      exact fun _ => rfl

theorem offends_addPair (h : d.WellFormed) :
    (d.addPair before next f).offends v = d.offends v := by
  by_cases hb : before = Slot.startTag
  · rw [addPair_of_start hb]; rfl
  · rcases he : d.words.get? before with _ | e
    · rw [addPair_of_context hb he]; rfl
    · rw [addPair_of_word hb he]
      simp only [offends, get?_words_amend h]
      by_cases hv : v = before
      · rw [if_pos hv, hv, he]; rfl
      · rw [if_neg hv]

theorem starts_addPair : (d.addPair before next f).starts =
    if before = Slot.startTag then d.starts.raise next f else d.starts := by
  unfold addPair
  split_ifs <;> rfl

/-- **A pair raises one follower**, wherever the followers are kept. -/
theorem followers_addPair (h : d.WellFormed) : (d.addPair before next f).followers v =
    if before ≠ Slot.startTag ∧ v = before then (d.followers before).raise next f
    else d.followers v := by
  by_cases hb : before = Slot.startTag
  · rw [addPair_of_start hb, if_neg fun h' => h'.1 hb]; rfl
  · rcases he : d.words.get? before with _ | e
    · rw [addPair_of_context hb he, Draft.followers]
      simp only [WordMap.get?_alter h.contextOnly]
      by_cases hv : v = before
      · rw [if_pos hv, if_pos ⟨hb, hv⟩, hv, he, followers_of_none he]; rfl
      · rw [if_neg hv, if_neg fun h' => hv h'.2, Draft.followers]
    · rw [addPair_of_word hb he]
      by_cases hv : v = before
      · rw [if_pos ⟨hb, hv⟩, hv, followers_amend_self h he, followers_of_word he]
      · rw [if_neg fun h' => hv h'.2, followers_amend_of_ne h hv]

theorem WellFormed.addPair (h : d.WellFormed) : (d.addPair before next f).WellFormed := by
  by_cases hb : before = Slot.startTag
  · rw [addPair_of_start hb]
    exact { h with starts := WordMap.sorted_raise h.starts }
  · rcases he : d.words.get? before with _ | e
    · have hf (v : Text) : Sorted ((d.addPair before next f).followers v) := by
        rw [followers_addPair h]
        split_ifs
        · exact WordMap.sorted_raise (h.followers before)
        · exact h.followers v
      have hold : Sorted ((d.contextOnly.get? before).getD []) := by
        rw [← followers_of_none he]; exact h.followers before
      rw [addPair_of_context hb he] at hf ⊢
      refine { h with contextOnly := WordMap.sorted_alter h.contextOnly, followers := hf,
                      apart := fun v hv => ?_, used := fun v m hm => ?_ }
      · have hne : v ≠ before := by rintro rfl; simp [he] at hv
        rw [WordMap.get?_alter h.contextOnly, if_neg hne, h.apart v hv]
      · rw [WordMap.get?_alter h.contextOnly] at hm
        split_ifs at hm
        · rw [← Option.some.inj hm]; exact WordMap.raise_ne_nil hold
        · exact h.used v m hm
    · rw [addPair_of_word hb he]
      exact h.amend fun _ hs => WordMap.sorted_raise hs

/-! ### Replacements -/

theorem WellFormed.addReplacement (h : d.WellFormed) {typed r : Text} :
    (d.addReplacement typed r).WellFormed :=
  { h with replacements := WordMap.sorted_set h.replacements }

/-! ### Entries of a word list -/

theorem WellFormed.addTo (h : d.WellFormed) (s : SourceLine) : (s.addTo d).WellFormed := by
  cases s with
  | blank => exact h
  | word w f => exact h.addWord
  | offensive w f => exact h.addOffensive
  | pair before next f => exact h.addPair
  | replacement typed r => exact h.addReplacement

theorem frequency?_addTo (h : d.WellFormed) (s : SourceLine) :
    (s.addTo d).frequency? v = (d.frequency? v).merge max (s.frequencyOf? v) := by
  have hword (w : Text) (f : Nat) : (d.addWord w f).frequency? v =
      (d.frequency? v).merge max (if w = v then some f else none) := by
    rw [frequency?_addWord h]
    by_cases hv : v = w
    · rw [if_pos hv, if_pos hv.symm, hv]
    · rw [if_neg hv, if_neg fun h' => hv h'.symm, Option.merge_none_right]
  cases s with
  | word w f => exact hword w f
  | offensive w f => exact (frequency?_addOffensive h).trans (hword w f)
  | pair before next f =>
    exact (frequency?_addPair h).trans Option.merge_none_right.symm
  | blank | replacement => exact Option.merge_none_right.symm

theorem offends_addTo (h : d.WellFormed) (s : SourceLine) :
    (s.addTo d).offends v = (d.offends v || s.marks v) := by
  cases s with
  | word w f => exact (offends_addWord h).trans (Bool.or_false _).symm
  | offensive w f => exact offends_addOffensive h
  | pair before next f => exact (offends_addPair h).trans (Bool.or_false _).symm
  | blank | replacement => exact (Bool.or_false _).symm

theorem get?_followers_addTo (h : d.WellFormed) (s : SourceLine) :
    ((s.addTo d).followers w).get? v =
      ((d.followers w).get? v).merge max (s.follows? w v) := by
  cases s with
  | word u f =>
    show ((d.addWord u f).followers w).get? v = _
    rw [followers_addWord h]
    exact Option.merge_none_right.symm
  | offensive u f =>
    show ((d.addOffensive u f).followers w).get? v = _
    rw [followers_addOffensive h]
    exact Option.merge_none_right.symm
  | pair before next f =>
    show ((d.addPair before next f).followers w).get? v = Option.merge max _ (ite _ _ _)
    rw [followers_addPair h]
    by_cases hw : before ≠ Slot.startTag ∧ w = before
    · rw [if_pos hw, WordMap.get?_raise (h.followers before), hw.2]
      by_cases hv : v = next
      · rw [if_pos hv, if_pos ⟨hw.1, rfl, hv.symm⟩, hv]
      · rw [if_neg hv, if_neg fun h' => hv h'.2.2.symm, Option.merge_none_right]
    · rw [if_neg hw, if_neg fun h' => hw ⟨h'.1, h'.2.1.symm⟩, Option.merge_none_right]
  | blank | replacement => exact Option.merge_none_right.symm

theorem get?_starts_addTo (h : d.WellFormed) (s : SourceLine) :
    (s.addTo d).starts.get? v = (d.starts.get? v).merge max (s.starts? v) := by
  cases s with
  | pair before next f =>
    show (d.addPair before next f).starts.get? v = Option.merge max _ (ite _ _ _)
    rw [starts_addPair]
    by_cases hb : before = Slot.startTag
    · rw [if_pos hb, WordMap.get?_raise h.starts]
      by_cases hv : v = next
      · rw [if_pos hv, if_pos ⟨hb, hv.symm⟩, hv]
      · rw [if_neg hv, if_neg fun h' => hv h'.2.symm, Option.merge_none_right]
    · rw [if_neg hb, if_neg fun h' => hb h'.1, Option.merge_none_right]
  | blank | word | offensive | replacement => exact Option.merge_none_right.symm

theorem replacements_addPair :
    (d.addPair before next f).replacements = d.replacements := by
  unfold addPair
  split_ifs <;> rfl

theorem get?_replacements_addTo (h : d.WellFormed) (s : SourceLine) :
    (s.addTo d).replacements.get? v = (s.replaces? v).or (d.replacements.get? v) := by
  cases s with
  | replacement typed r =>
    show (d.replacements.set (Text.lower typed) r).get? v = Option.or (ite _ _ _) _
    rw [WordMap.get?_set h.replacements]
    by_cases hv : v = Text.lower typed
    · rw [if_pos hv, if_pos hv.symm, Option.some_or]
    · rw [if_neg hv, if_neg fun h' => hv h'.symm, Option.none_or]
  | pair before next f =>
    show (d.addPair before next f).replacements.get? v = _
    rw [replacements_addPair]
    rfl
  | blank | word | offensive => rfl

/-! ### Whole word lists -/

/-- The draft that the entries of a word list make. -/
def ofLines (locale : Locale) (ss : List SourceLine) : Draft :=
  ss.foldl (fun d s => s.addTo d) { locale }

variable {locale : Locale}

theorem ofLines_concat (ss : List SourceLine) (s : SourceLine) :
    ofLines locale (ss ++ [s]) = s.addTo (ofLines locale ss) := by
  simp [ofLines]

theorem locale_addTo (s : SourceLine) : (s.addTo d).locale = d.locale := by
  cases s with
  | pair before next f =>
    show (d.addPair before next f).locale = d.locale
    unfold addPair
    split_ifs <;> rfl
  | blank | word | offensive | replacement => rfl

theorem locale_ofLines (ss : List SourceLine) : (ofLines locale ss).locale = locale := by
  induction ss using List.reverseRecOn with
  | nil => rfl
  | append_singleton ss s ih => rw [ofLines_concat, locale_addTo, ih]

theorem wellFormed_ofLines (ss : List SourceLine) : (ofLines locale ss).WellFormed := by
  induction ss using List.reverseRecOn with
  | nil =>
    exact ⟨WordMap.sorted_nil, WordMap.sorted_nil, WordMap.sorted_nil, WordMap.sorted_nil,
      fun _ => WordMap.sorted_nil, fun _ _ => rfl, fun _ _ h => nomatch h⟩
  | append_singleton ss s ih => rw [ofLines_concat]; exact ih.addTo s

theorem max?_concat (fs : List Nat) (f : Nat) :
    (fs ++ [f]).max? = fs.max?.merge max (some f) := by
  cases fs with
  | nil => rfl
  | cons g fs => rw [List.cons_append, List.max?_cons', List.max?_cons', List.foldl_append]; rfl

/-- **A view that every entry joins a number to** shows the greatest of all numbers. -/
theorem view_ofLines (view : Draft → Option Nat) (told : SourceLine → Option Nat)
    (h0 : view { locale } = none)
    (hs : ∀ d : Draft, d.WellFormed → ∀ s, view (s.addTo d) = (view d).merge max (told s))
    (ss : List SourceLine) : view (ofLines locale ss) = (ss.filterMap told).max? := by
  induction ss using List.reverseRecOn with
  | nil => exact h0
  | append_singleton ss s ih =>
    rw [ofLines_concat, hs _ (wellFormed_ofLines ss), ih, List.filterMap_append]
    rcases hf : told s with _ | f
    · simp [hf]
    · simp only [List.filterMap_cons, hf, List.filterMap_nil]
      rw [max?_concat]

theorem frequency?_ofLines (ss : List SourceLine) (w : Text) :
    (ofLines locale ss).frequency? w = (ss.filterMap (SourceLine.frequencyOf? w)).max? :=
  view_ofLines (·.frequency? w) _ rfl (fun _ h s => frequency?_addTo h s) ss

theorem get?_followers_ofLines (ss : List SourceLine) (w next : Text) :
    ((ofLines locale ss).followers w).get? next =
      (ss.filterMap (SourceLine.follows? w next)).max? :=
  view_ofLines (fun d => (d.followers w).get? next) _ rfl
    (fun _ h s => get?_followers_addTo h s) ss

theorem get?_starts_ofLines (ss : List SourceLine) (next : Text) :
    (ofLines locale ss).starts.get? next = (ss.filterMap (SourceLine.starts? next)).max? :=
  view_ofLines (·.starts.get? next) _ rfl (fun _ h s => get?_starts_addTo h s) ss

theorem offends_ofLines (ss : List SourceLine) (w : Text) :
    (ofLines locale ss).offends w = ss.any (SourceLine.marks w) := by
  induction ss using List.reverseRecOn with
  | nil => rfl
  | append_singleton ss s ih =>
    rw [ofLines_concat, offends_addTo (wellFormed_ofLines ss), ih, List.any_append]
    simp

/-- The last replacement of a lower-case form counts. -/
theorem get?_replacements_ofLines (ss : List SourceLine) (k : Text) :
    (ofLines locale ss).replacements.get? k =
      (ss.filterMap (SourceLine.replaces? k)).getLast? := by
  induction ss using List.reverseRecOn with
  | nil => rfl
  | append_singleton ss s ih =>
    rw [ofLines_concat, get?_replacements_addTo (wellFormed_ofLines ss), ih,
      List.filterMap_append]
    rcases hr : s.replaces? k with _ | r
    · simp [hr]
    · simp [hr]

/-! ### Equal views -/

/-- **A draft is known by its views.** -/
theorem WellFormed.ext {d d' : Draft} (h : d.WellFormed) (h' : d'.WellFormed)
    (hl : d.locale = d'.locale) (hf : ∀ w, d.frequency? w = d'.frequency? w)
    (ho : ∀ w, d.offends w = d'.offends w)
    (hn : ∀ w v, (d.followers w).get? v = (d'.followers w).get? v)
    (hs : ∀ v, d.starts.get? v = d'.starts.get? v)
    (hr : ∀ k, d.replacements.get? k = d'.replacements.get? k) : d = d' := by
  have hfollow (w : Text) : d.followers w = d'.followers w :=
    (h.followers w).ext (h'.followers w) (hn w)
  have hwords : d.words = d'.words := h.words.ext h'.words fun w => by
    have hfw := hf w
    have how := ho w
    have hnw := hfollow w
    rcases he : d.words.get? w with _ | ⟨f, o, n⟩ <;>
      rcases he' : d'.words.get? w with _ | ⟨f', o', n'⟩
    · rfl
    · simp [frequency?, he, he'] at hfw
    · simp [frequency?, he, he'] at hfw
    · simp only [frequency?, offends, he, he', Option.map_some, Option.some.injEq,
        Option.any_some] at hfw how
      have hnn : n = n' := by rwa [followers_of_word he, followers_of_word he'] at hnw
      rw [hfw, how, hnn]
  have hcontext : d.contextOnly = d'.contextOnly := h.contextOnly.ext h'.contextOnly fun w => by
    rw [h.get?_contextOnly, h'.get?_contextOnly, hf, hfollow]
  have hstarts : d.starts = d'.starts := h.starts.ext h'.starts hs
  have hreplacements : d.replacements = d'.replacements :=
    h.replacements.ext h'.replacements hr
  cases d
  cases d'
  simp_all only

end Draft

end Typeahead
