import Typeahead.Proofs.Dictionary
import Typeahead.Proofs.Lexicon.Additions

/-! # Context words in other spellings

The words of a context are looked up as they are written, also by a dictionary that is asked about
normal forms. What a word list foretells after a word (`foretold?`) goes by the word itself if the
list names it, and by its lower-case form if it does not (`lookedUp`). So contexts that differ in the
spelling of their words only may be told apart; they are not exactly if the list foretells the same
after the newest word of either (`respelled_context_alike_iff`). -/

namespace Typeahead

/-! ### Spellings -/

/-- The slot with its word in normal form. -/
def Slot.folded (form : NormalForm) : Slot → Slot
  | word w => word (form.apply w)
  | s => s

/-- The contexts differ in the spelling of their words only. -/
def Context.SpelledAlike (form : NormalForm) (c d : Context) : Prop :=
  c.slots.map (Slot.folded form) = d.slots.map (Slot.folded form)

instance (form : NormalForm) (c d : Context) : Decidable (c.SpelledAlike form d) :=
  inferInstanceAs (Decidable (_ = _))

/-- Slots with one folded form are the same, or both hold a word. -/
theorem Slot.eq_or_words_of_folded_eq {form : NormalForm} {s t : Slot}
    (h : s.folded form = t.folded form) : s = t ∨ ∃ v w, s = .word v ∧ t = .word w := by
  cases s <;> cases t <;> simp [Slot.folded] at h ⊢

/-- The newest slots of such contexts are the same, or both hold a word. -/
theorem Context.SpelledAlike.newest {form : NormalForm} {c d : Context}
    (h : c.SpelledAlike form d) : c.slots.head? = d.slots.head? ∨
      ∃ v w, c.slots.head? = some (.word v) ∧ d.slots.head? = some (.word w) := by
  have hhead := congrArg List.head? h
  rw [List.head?_map, List.head?_map] at hhead
  rcases hc : c.slots.head? with _ | s <;> rcases hd : d.slots.head? with _ | t <;>
    rw [hc, hd] at hhead
  · exact .inl rfl
  · exact nomatch hhead
  · exact nomatch hhead
  · rcases Slot.eq_or_words_of_folded_eq (Option.some.inj hhead) with rfl | ⟨v, w, rfl, rfl⟩
    · exact .inl rfl
    · exact .inr ⟨v, w, rfl, rfl⟩

/-! ### What a list foretells -/

/-- What candidates offer: their words with the scores. -/
def Candidate.offers (cs : List Candidate) : List (Text × Int) := cs.map fun c => (c.word, c.score)

/-- The entry names the word `v` as a word or in front of another one. -/
def SourceLine.names (v : Text) : SourceLine → Bool
  | word u _ | offensive u _ => u == v
  | pair before _ _ => before == v && v != Slot.startTag
  | _ => false

/-- The word that is looked up after `v`. -/
def SourceLine.lookedUp (ss : List SourceLine) (v : Text) : Text :=
  if ss.any (names v) then v else Text.lower v

/-- The score with which a list foretells `u` after `v`, unless it is blocked. -/
def SourceLine.foretold? (ss : List SourceLine) (block : Bool) (x : Rat) (v u : Text) : Option Int :=
  if block && ss.any (marks u) then none
  else (ss.filterMap (follows? (lookedUp ss v) u)).max?.map fun f : Nat => Scoring.weighted f x

namespace Lexicon

variable {l : Lexicon} {ss : List SourceLine} {u v : Text} {q : Query}

/-- A word is known before others or as a word where the list names it. -/
theorem Reads.isSome_nextWordsAfter (h : Reads ss l) :
    (l.nextWordsAfter v).isSome = ss.any (SourceLine.names v) := by
  rw [Bool.eq_iff_iff, h.isContext, h.contains, List.any_eq_true]
  constructor
  · rintro (⟨f, hs | hs⟩ | ⟨hv, u, f, hs⟩)
    · exact ⟨_, hs, by simp [SourceLine.names]⟩
    · exact ⟨_, hs, by simp [SourceLine.names]⟩
    · exact ⟨_, hs, by simp [SourceLine.names, hv]⟩
  · rintro ⟨s, hs, hnames⟩
    cases s with
    | word u f =>
      obtain rfl : u = v := by simpa [SourceLine.names] using hnames
      exact .inl ⟨f, .inl hs⟩
    | offensive u f =>
      obtain rfl : u = v := by simpa [SourceLine.names] using hnames
      exact .inl ⟨f, .inr hs⟩
    | pair before n f =>
      obtain ⟨rfl, hv⟩ : before = v ∧ v ≠ Slot.startTag := by simpa [SourceLine.names] using hnames
      exact .inr ⟨hv, n, f, hs⟩
    | blank | replacement => simp [SourceLine.names] at hnames

theorem Reads.nextWordsIn_eq (h : Reads ss l) {c : Context}
    (hv : c.slots.head? = some (.word v)) :
    l.nextWordsIn c = (l.nextWordsAfter (SourceLine.lookedUp ss v)).getD [] := by
  rw [Lexicon.nextWordsIn_eq, hv, SourceLine.lookedUp, ← h.isSome_nextWordsAfter]
  show ((l.nextWordsAfter v) <|> (l.nextWordsAfter (Text.lower v))).getD [] = _
  rcases hknown : l.nextWordsAfter v with _ | ns
  · rfl
  · rw [Option.isSome_some, if_pos rfl, hknown]
    rfl

theorem mem_offers_predictions {x : Int} : (u, x) ∈ Candidate.offers (l.predictions q) ↔
    ∃ f : Nat, ⟨u, f⟩ ∈ l.nextWordsIn q.context ∧ (q.block && l.isOffensive u) = false ∧
      Scoring.weighted f q.weight = x := by
  rw [Candidate.offers, predictions, List.map_map, List.mem_map]
  constructor
  · rintro ⟨⟨w, f⟩, hn, heq⟩
    obtain ⟨hnext, hfree⟩ := List.mem_filter.mp hn
    obtain ⟨rfl, rfl⟩ := Prod.mk.inj heq
    exact ⟨f, hnext, (Bool.not_eq_true' _).mp hfree, rfl⟩
  · rintro ⟨f, hnext, hfree, rfl⟩
    exact ⟨⟨u, f⟩, List.mem_filter.mpr ⟨hnext, (Bool.not_eq_true' _).mpr hfree⟩, rfl⟩

/-- No word is predicted twice. -/
theorem nodup_offers_predictions (h : ((l.nextWordsIn q.context).map (·.word)).Nodup) :
    (Candidate.offers (l.predictions q)).Nodup := by
  have hwords : ((l.predictions q).map (·.word)).Nodup := by
    rw [predictions, List.map_map]
    exact h.sublist (List.filter_sublist.map _)
  refine List.Nodup.of_map Prod.fst ?_
  rwa [Candidate.offers, List.map_map]

end Lexicon

namespace Draft

variable {locale : Locale} {ss : List SourceLine} {u v : Text} {q : Query} {x : Int}

/-- **Predictions, read off the list**: after a word, what the list foretells. -/
theorem mem_offers_predictions_iff (hv : q.context.slots.head? = some (.word v)) :
    (u, x) ∈ Candidate.offers ((ofLines locale ss).build.predictions q) ↔
      SourceLine.foretold? ss q.block q.weight v u = some x := by
  have hreads : Lexicon.Reads ss (ofLines locale ss).build := reads_build ss
  have hoffends : (ofLines locale ss).build.isOffensive u = ss.any (SourceLine.marks u) := by
    rw [isOffensive_build, offends_ofLines]
  rw [Lexicon.mem_offers_predictions, hreads.nextWordsIn_eq hv, hoffends, SourceLine.foretold?,
    Option.ite_none_left_eq_some, Option.map_eq_some_iff, Bool.not_eq_true]
  simp only [(hreads.nextWords _).mem_iff]
  tauto

theorem nodup_offers (hv : q.context.slots.head? = some (.word v)) :
    (Candidate.offers ((ofLines locale ss).build.predictions q)).Nodup := by
  have hreads : Lexicon.Reads ss (ofLines locale ss).build := reads_build ss
  refine Lexicon.nodup_offers_predictions ?_
  rw [hreads.nextWordsIn_eq hv]
  exact (hreads.nextWords _).nodup

/-- The same is predicted where the newest slots are the same. -/
theorem offers_congr {l : Lexicon} {c d : Context} {block : Bool} {weight : Rat}
    (h : c.slots.head? = d.slots.head?) :
    Candidate.offers (l.predictions ⟨[], c, block, weight⟩) =
      Candidate.offers (l.predictions ⟨[], d, block, weight⟩) := by
  have hnext : l.nextWordsIn c = l.nextWordsIn d := by
    rw [Lexicon.nextWordsIn_eq, Lexicon.nextWordsIn_eq, h]
  rw [Candidate.offers, Candidate.offers, Lexicon.predictions, Lexicon.predictions, List.map_map,
    List.map_map, hnext]
  rfl

theorem suggestions_normalized_of_nil (form : NormalForm) (l : Lexicon) (c : Context)
    (block : Bool) (weight : Rat) :
    (l.dictionary.normalized form).suggestions ⟨[], c, block, weight⟩ =
      .found (l.predictions ⟨[], c, block, weight⟩) :=
  Dictionary.suggestions_normalized form l.dictionary ⟨[], c, block, weight⟩

/-- **When spellings of a context are told apart**: contexts that differ in the spelling of their
words only get the same predictions, with the same scores, exactly if the list foretells the same
after the newest word of either; older words and other slots make no difference. -/
theorem respelled_context_alike_iff (form : NormalForm) (locale : Locale) (ss : List SourceLine)
    (c d : Context) (block : Bool) (weight : Rat) (h : c.SpelledAlike form d) :
    let dictionary := (ofLines locale ss).build.dictionary.normalized form
    ∃ cs ds, dictionary.suggestions ⟨[], c, block, weight⟩ = .found cs ∧
      dictionary.suggestions ⟨[], d, block, weight⟩ = .found ds ∧
      ((Candidate.offers cs).Perm (Candidate.offers ds) ↔
        ∀ v w, c.slots.head? = some (.word v) → d.slots.head? = some (.word w) →
          ∀ u, SourceLine.foretold? ss block weight v u =
            SourceLine.foretold? ss block weight w u) := by
  intro dictionary
  refine ⟨_, _, suggestions_normalized_of_nil .., suggestions_normalized_of_nil .., ?_⟩
  rcases h.newest with hsame | ⟨v, w, hv, hw⟩
  · refine iff_of_true (offers_congr hsame ▸ .refl _) fun v w hv hw u => ?_
    obtain rfl : v = w := by simpa [hv, hw] using hsame
    rfl
  · rw [List.perm_ext_iff_of_nodup (nodup_offers hv) (nodup_offers hw), Prod.forall]
    simp only [mem_offers_predictions_iff (q := ⟨[], c, block, weight⟩) hv,
      mem_offers_predictions_iff (q := ⟨[], d, block, weight⟩) hw, ← Option.ext_iff]
    constructor
    · intro hforetold v' w' hv' hw'
      obtain rfl : v = v' := by simpa [hv] using hv'
      obtain rfl : w = w' := by simpa [hw] using hw'
      exact hforetold
    · exact fun hforetold => hforetold v w hv hw

/-- The sign of a unit and the letter that it is a spelling of: the list names neither of them, and
both have the same lower-case form. -/
theorem respelled_context_alike_iff_unit :
    let ss : List SourceLine := [.pair "k".toList "means".toList 90]
    let c : Context := Context.ofSlots 3 [.word "\u212A".toList]
    let d : Context := Context.ofSlots 3 [.word "K".toList]
    let dictionary := (ofLines ⟨"en".toList⟩ ss).build.dictionary.normalized .nfc
    c.SpelledAlike .nfc d ∧
      ∃ cs ds, dictionary.suggestions ⟨[], c, true, 1⟩ = .found cs ∧
        dictionary.suggestions ⟨[], d, true, 1⟩ = .found ds ∧
        (Candidate.offers cs).Perm (Candidate.offers ds) := by
  intro ss c d dictionary
  have hspelled : c.SpelledAlike .nfc d := by decide +kernel
  obtain ⟨cs, ds, hcs, hds, hperm⟩ :=
    respelled_context_alike_iff .nfc ⟨"en".toList⟩ ss c d true 1 hspelled
  refine ⟨hspelled, cs, ds, hcs, hds, hperm.mpr fun v w hv hw u => ?_⟩
  obtain rfl : "\u212A".toList = v := by simpa [c, Context.ofSlots] using hv
  obtain rfl : "K".toList = w := by simpa [d, Context.ofSlots] using hw
  have hsign : SourceLine.lookedUp ss "\u212A".toList = "k".toList := by decide +kernel
  have hletter : SourceLine.lookedUp ss "K".toList = "k".toList := by decide +kernel
  rw [SourceLine.foretold?, SourceLine.foretold?, hsign, hletter]

/-- **A context word that is not folded**: the list names the word in one spelling, and after the
other one nothing is predicted, although the dictionary is asked about normal forms. -/
theorem decomposed_context_word_foretells_nothing :
    let ss : List SourceLine := [.pair "né".toList "vrai".toList 90]
    let c : Context := Context.ofSlots 3 [.word "né".toList]
    let d : Context := Context.ofSlots 3 [.word "ne\u0301".toList]
    let dictionary := (ofLines ⟨"fr".toList⟩ ss).build.dictionary.normalized .nfc
    c.SpelledAlike .nfc d ∧
      (dictionary.suggestions ⟨[], c, true, 1⟩).words = some ["vrai".toList] ∧
      (dictionary.suggestions ⟨[], d, true, 1⟩).words = some [] := by
  decide +kernel

end Draft

end Typeahead
