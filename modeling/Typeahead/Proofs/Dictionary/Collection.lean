import Mathlib.Data.List.Perm.Basic
import Typeahead.Proofs.Dictionary
import Typeahead.Proofs.Lexicon.Offers
import Typeahead.Proofs.Lexicon.Reading
import Typeahead.Proofs.Ranking.Room

/-! # Several word lists as one dictionary

Lexicons that are built from parts of a word list and taken together hold the words of the whole
list, with the same frequencies (`contains_members`, `greatest_members`): a greatest frequency of
the whole is the greatest of those of the parts. Their candidates however are put one behind the
other, and a ranking keeps the first candidate of a word (`Ranking.find?_addAll`), which has the
score that the first part gives the word, by its own frequency (`score_find?_members`). What a list
gives a word for a query (`SourceLine.rated?`) can be read off the list; so the score of a word is
that of the whole list exactly if the first part that rates it rates it so
(`Draft.collection_alike_iff`). -/

namespace Typeahead

/-! ### What a list gives a word -/

/-- One of the walks for `key` reaches `k`, if the walk of completions is not cut off. -/
def Lexicon.isNear (key k : Text) : Bool := key.isPrefixOf k || isFound key k

/-- The score that a list gives a word for a query. A replacement that it forces upon what was typed
has the highest score. Otherwise the greatest frequency that the list names for the word decides,
unless the list marks the word and the query blocks it, or no walk reaches it. -/
def SourceLine.rated? (ss : List SourceLine) (q : Query) (w : Text) : Option Int :=
  let key := Text.lower q.typed
  if (ss.filterMap (replaces? key)).getLast? = some w then some Candidate.maxScore
  else if ss.any (marks w) && q.block || !Lexicon.isNear key (Text.lower w) then none
  else (ss.filterMap (frequencyOf? w)).max?.bind fun f =>
    (Scoring.score? q.typed w f).map fun m => Scoring.weighted m.score q.weight

namespace Draft

variable {locale locale' : Locale} {ss ss' : List SourceLine} {q : Query} {key k w : Text}

/-- The keys of a list are the lower-case forms of the words that it names. -/
theorem exists_mem_index_ofLines : (∃ n, (k, n) ∈ (ofLines locale ss).index) ↔
    ∃ v, Text.lower v = k ∧ ∃ f, .word v f ∈ ss ∨ .offensive v f ∈ ss := by
  have hreads : Lexicon.Reads ss (ofLines locale ss).build := reads_build ss
  have hentries (v : Text) : (∃ e ∈ (ofLines locale ss).entries, e.word = v) ↔
      ∃ f, .word v f ∈ ss ∨ .offensive v f ∈ ss := by
    rw [← hreads.contains v, Lexicon.contains, Lexicon.entry?, List.find?_isSome]
    simp only [beq_iff_eq]
    rfl
  rw [exists_mem_index]
  constructor
  · rintro ⟨e, he, hk⟩
    exact ⟨e.word, hk, (hentries e.word).mp ⟨e, he, rfl⟩⟩
  · rintro ⟨v, hk, hf⟩
    obtain ⟨e, he, rfl⟩ := (hentries v).mpr hf
    exact ⟨e, he, hk⟩

/-- **A part of a list** has no more keys that begin as was typed than the list. -/
theorem length_prefixes_le (h : ss ⊆ ss') :
    ((ofLines locale ss).build.index.filter fun p => key.isPrefixOf p.1).length ≤
      ((ofLines locale' ss').build.index.filter fun p => key.isPrefixOf p.1).length := by
  have hnodup : (((ofLines locale ss).build.index.filter fun p => key.isPrefixOf p.1).map
      (·.1)).Nodup := WordMap.Sorted.nodup_keys (List.Pairwise.filter _ (sorted_index _))
  have hsubset : ((ofLines locale ss).build.index.filter fun p => key.isPrefixOf p.1).map (·.1) ⊆
      ((ofLines locale' ss').build.index.filter fun p => key.isPrefixOf p.1).map (·.1) := by
    intro k hk
    obtain ⟨⟨k, n⟩, hp, rfl⟩ := List.mem_map.mp hk
    obtain ⟨hindex, hprefix⟩ := List.mem_filter.mp hp
    obtain ⟨v, hv, f, hf⟩ := exists_mem_index_ofLines.mp ⟨n, hindex⟩
    have hkey : ∃ m, (k, m) ∈ (ofLines locale' ss').index :=
      exists_mem_index_ofLines.mpr ⟨v, hv, f, hf.imp (h ·) (h ·)⟩
    obtain ⟨m, hm⟩ := hkey
    exact List.mem_map.mpr ⟨(k, m), List.mem_filter.mpr ⟨hm, hprefix⟩, rfl⟩
  have hle := (List.subperm_of_subset hnodup hsubset).length_le
  rwa [List.length_map, List.length_map] at hle

/-- The keys that are reached, when the walk of completions is not cut off. -/
theorem exists_mem_reached_iff {d : Draft}
    (hfew : (d.build.index.filter fun p => key.isPrefixOf p.1).length ≤ Lexicon.completionLimit) :
    (∃ n, (k, n) ∈ d.build.reached key) ↔ (∃ n, (k, n) ∈ d.index) ∧ Lexicon.isNear key k := by
  have hs : WordMap.Sorted d.build.index := sorted_index d
  have hearly (n : Nat) (hn : (k, n) ∈ d.build.index) :
      d.build.isEarly key k = key.isPrefixOf k := by
    have hmem : (k, n) ∈ d.build.completions key ↔
        (k, n) ∈ d.build.index ∧ d.build.isEarly key k := Lexicon.mem_completions_iff hs
    rw [Lexicon.completions, List.take_of_length_le hfew, List.mem_filter,
      and_congr_right_iff] at hmem
    exact (Bool.eq_iff_iff.mpr (hmem hn)).symm
  simp only [Lexicon.mem_reached_iff_reaches hs]
  constructor
  · rintro ⟨n, hn, hreaches⟩
    rw [Lexicon.reaches, hearly n hn] at hreaches
    exact ⟨⟨n, hn⟩, hreaches⟩
  · rintro ⟨⟨n, hn⟩, hnear⟩
    refine ⟨n, hn, ?_⟩
    rw [Lexicon.reaches, hearly n hn]
    exact hnear

/-! ### What a lexicon gives a word -/

/-- What the list names for a word is in its entry. -/
theorem entry?_ofLines : (ofLines locale ss).build.entry? w =
    (ss.filterMap (SourceLine.frequencyOf? w)).max?.map fun f =>
      ⟨w, f, ss.any (SourceLine.marks w), byFrequency ((ofLines locale ss).followers w)⟩ := by
  have hfrequency : (ofLines locale ss).frequency? w = _ := frequency?_ofLines ss w
  have hmark : (ofLines locale ss).offends w = _ := offends_ofLines ss w
  rw [entry?_build, ← hfrequency, ← hmark, frequency?, offends]
  rcases hw : (ofLines locale ss).words.get? w with _ | e
  · rfl
  · rw [followers_of_word hw]
    rfl

/-- **The entries that are reached** make one candidate of a word, that of its entry. -/
theorem find?_reached {d : Draft} (h : d.WellFormed)
    (hfew : (d.build.index.filter fun p => key.isPrefixOf p.1).length ≤ Lexicon.completionLimit) :
    (((d.build.reached key).flatMap fun p => d.build.bucket p.2).filterMap
        (d.build.candidate? q)).find? (·.word == w) =
      (d.build.entry? w).bind fun e =>
        if Lexicon.isNear key (Text.lower w) then d.build.candidate? q e else none := by
  have hentry (e : Entry) : e ∈ d.build.payload.entries ↔ d.build.entry? e.word = some e := by
    rw [entry?_build]
    exact mem_entries h.words
  have hmem (c : Candidate) : c ∈ ((d.build.reached key).flatMap fun p =>
      d.build.bucket p.2).filterMap (d.build.candidate? q) ↔ ∃ e, d.build.entry? e.word = some e ∧
        Lexicon.isNear key (Text.lower e.word) ∧ d.build.candidate? q e = some c := by
    simp only [List.mem_filterMap, List.mem_flatMap, mem_bucket_reached_iff,
      exists_mem_reached_iff hfew, exists_mem_index, hentry]
    exact exists_congr fun e => ⟨fun ⟨⟨he, _, hnear⟩, hc⟩ => ⟨he, hnear, hc⟩,
      fun ⟨he, hnear, hc⟩ => ⟨⟨he, ⟨e, (hentry e).mpr he, rfl⟩, hnear⟩, hc⟩⟩
  generalize List.filterMap (d.build.candidate? q) _ = cs at hmem ⊢
  rcases hfind : cs.find? (·.word == w) with _ | c
  · rw [hfind]
    refine (Option.bind_eq_none_iff.mpr fun e he => ?_).symm
    have hword : e.word = w := by
      rw [Lexicon.entry?] at he
      simpa using List.find?_some he
    split_ifs with hnear
    · rcases hc : d.build.candidate? q e with _ | c
      · rfl
      · have hin := (hmem c).mpr ⟨e, hword ▸ he, hword ▸ hnear, hc⟩
        have hne := List.find?_eq_none.mp hfind c hin
        rw [word_of_candidate? hc, hword, beq_self_eq_true] at hne
        exact absurd rfl hne
    · rfl
  · obtain ⟨e, he, hnear, hc⟩ := (hmem c).mp (List.mem_of_find?_eq_some hfind)
    have hword : e.word = w := by
      have hfound := List.find?_some hfind
      rwa [word_of_candidate? hc, beq_iff_eq] at hfound
    rw [hfind, ← hword, he, Option.bind_some, if_pos hnear, hc]

/-- **The score of a word** that a lexicon offers is what its list gives the word. -/
theorem score_find?_suggestions (hq : q.typed ≠ [])
    (hfew : ((ofLines locale ss).build.index.filter fun p =>
      (Text.lower q.typed).isPrefixOf p.1).length ≤ Lexicon.completionLimit) :
    (((ofLines locale ss).build.suggestions q).find? (·.word == w)).map (·.score) =
      SourceLine.rated? ss q w := by
  have hreplacement : (ofLines locale ss).build.replacement? q =
      ((ss.filterMap (SourceLine.replaces? (Text.lower q.typed))).getLast?).map
        ((ofLines locale ss).build.forced q) := by
    rw [replacement?_eq, WordMap.get?, (reads_build ss).replacements]
  have hentry : (((ofLines locale ss).build.entry? w).bind fun e =>
        if Lexicon.isNear (Text.lower q.typed) (Text.lower w) then
          (ofLines locale ss).build.candidate? q e
        else none).map (·.score) =
      if ss.any (SourceLine.marks w) && q.block ||
          !Lexicon.isNear (Text.lower q.typed) (Text.lower w) then none
      else (ss.filterMap (SourceLine.frequencyOf? w)).max?.bind fun f =>
        (Scoring.score? q.typed w f).map fun m => Scoring.weighted m.score q.weight := by
    rw [entry?_ofLines, Option.bind_map, Option.map_bind]
    rcases Lexicon.isNear (Text.lower q.typed) (Text.lower w) with _ | _
    · simp
    · simp only [candidate?_eq, Function.comp_def, if_true, Bool.not_true, Bool.or_false]
      cases ss.any (SourceLine.marks w) && q.block
      · simp [Lexicon.offer, Function.comp_def]
      · simp
  rw [Lexicon.suggestions, if_neg (by simpa using hq), List.find?_append, hreplacement,
    find?_reached (wellFormed_ofLines ss) hfew, SourceLine.rated?]
  rcases (ss.filterMap (SourceLine.replaces? (Text.lower q.typed))).getLast? with _ | r
  · rw [if_neg (Option.some_ne_none w).symm]
    exact hentry
  · by_cases hr : r = w
    · rw [if_pos (congrArg some hr), hr]
      simp [Lexicon.forced]
    · have hnone : [(ofLines locale ss).build.forced q r].find? (·.word == w) = none := by
        simp [Lexicon.forced, hr]
      rw [if_neg fun heq => hr (Option.some.inj heq), Option.map_some, Option.toList_some, hnone,
        Option.none_or]
      exact hentry

end Draft

/-! ### Members taken together -/

theorem neg_one_le_greatest (fs : List Nat) : -1 ≤ greatest fs := by
  unfold greatest
  cases fs.max? with
  | none => exact Int.le_refl _
  | some f =>
    show (-1 : Int) ≤ (f : Int)
    omega

theorem greatest_append (fs gs : List Nat) :
    greatest (fs ++ gs) = max (greatest fs) (greatest gs) := by
  induction gs using List.reverseRecOn with
  | nil =>
    have hle := neg_one_le_greatest fs
    have hnil : greatest [] = -1 := rfl
    rw [List.append_nil, hnil]
    omega
  | append_singleton gs g ih =>
    rw [← List.append_assoc, greatest_concat, greatest_concat, ih]
    omega

theorem findSome?_congr {α β : Type} {f g : α → Option β} : ∀ {xs : List α},
    (∀ x ∈ xs, f x = g x) → xs.findSome? f = xs.findSome? g
  | [], _ => rfl
  | x :: xs, h => by
    have hrest := findSome?_congr fun y hy => h y (List.mem_cons_of_mem x hy)
    rw [List.findSome?_cons, List.findSome?_cons, h x List.mem_cons_self, hrest]

/-- The candidates of an answer; none can be told where a dictionary broke off. -/
def Answer.candidates? : Answer → Option (List Candidate)
  | .found cs => some cs
  | .silent => some []
  | .failed => none

namespace Dictionary

variable {α : Type} {member : α → Dictionary} {q : Query}

theorem candidates?_joinAnswers (a b : Answer) : (joinAnswers a b).candidates? =
    a.candidates?.bind fun cs => b.candidates?.map (cs ++ ·) := by
  cases a <;> cases b <;> simp [joinAnswers, Answer.candidates?]

/-- **The candidates of members** taken together stand one behind the other. -/
theorem candidates?_collection (source : Source) {offered : α → List Candidate}
    (h : ∀ x, (member x).suggestions q = .found (offered x)) (xs : List α) :
    ((collection source (xs.map member)).suggestions q).candidates? =
      some (xs.flatMap offered) := by
  show ((xs.map member).foldl (fun a d => joinAnswers a (d.suggestions q)) .silent).candidates? = _
  rw [List.foldl_map]
  induction xs using List.reverseRecOn with
  | nil => rfl
  | append_singleton xs x ih =>
    rw [List.foldl_concat, candidates?_joinAnswers, ih, h, List.flatMap_append,
      List.flatMap_singleton]
    rfl

/-- **The greatest number** that members give is that of all that they name. -/
theorem greatest_members {f : Dictionary → Int} {named : α → List Nat}
    (h : ∀ x, f (member x) = Typeahead.greatest (named x)) (xs : List α) :
    greatest f (xs.map member) = Typeahead.greatest (xs.flatMap named) := by
  have hfold : ∀ (xs : List α) (fs : List Nat),
      (xs.map member).foldl (fun m d => max m (f d)) (Typeahead.greatest fs) =
        Typeahead.greatest (fs ++ xs.flatMap named) := by
    intro xs
    induction xs with
    | nil => exact fun fs => by rw [List.flatMap_nil, List.append_nil]; rfl
    | cons x xs ih =>
      intro fs
      rw [List.map_cons, List.foldl_cons, h, ← greatest_append, ih, List.flatMap_cons,
        List.append_assoc]
  cases xs with
  | nil => rfl
  | cons x xs =>
    show (xs.map member).foldl _ (f (member x)) = _
    rw [h, hfold, List.flatMap_cons]

end Dictionary

namespace Draft

/-- The dictionary of a part of a word list. -/
def member (p : Locale × List SourceLine) : Dictionary := (ofLines p.1 p.2).build.dictionary

variable {parts : List (Locale × List SourceLine)} {locale : Locale} {source : Source} {q : Query}
  {w : Text}

theorem contains_members : (Dictionary.collection source (parts.map member)).contains w =
    (ofLines locale (parts.flatMap (·.2))).build.dictionary.contains w := by
  show (parts.map member).any (·.contains w) =
    (ofLines locale (parts.flatMap (·.2))).build.contains w
  rw [Bool.eq_iff_iff, (reads_build _).contains, List.any_map, List.any_eq_true]
  have hmember (p : Locale × List SourceLine) : (member p).contains w = true ↔
      ∃ f, .word w f ∈ p.2 ∨ .offensive w f ∈ p.2 := (reads_build p.2).contains w
  simp only [Function.comp_apply, hmember, List.mem_flatMap]
  constructor
  · rintro ⟨p, hp, f, hf⟩
    exact ⟨f, hf.imp (⟨p, hp, ·⟩) (⟨p, hp, ·⟩)⟩
  · rintro ⟨f, ⟨p, hp, hf⟩ | ⟨p, hp, hf⟩⟩
    · exact ⟨p, hp, f, .inl hf⟩
    · exact ⟨p, hp, f, .inr hf⟩

theorem isValid_members : (Dictionary.collection source (parts.map member)).isValid w =
    (ofLines locale (parts.flatMap (·.2))).build.dictionary.isValid w := by
  have hsame : (parts.map member).any (·.isValid w) = (parts.map member).any (·.contains w) := by
    rw [List.any_map, List.any_map]
    rfl
  have hcontains : (Dictionary.collection source (parts.map member)).contains w =
      (ofLines locale (parts.flatMap (·.2))).build.dictionary.contains w := contains_members
  exact hsame.trans hcontains

theorem frequency_members : (Dictionary.collection source (parts.map member)).frequency w =
    (ofLines locale (parts.flatMap (·.2))).build.dictionary.frequency w := by
  have hmember (p : Locale × List SourceLine) : (member p).frequency w =
      greatest (p.2.filterMap (SourceLine.frequencyOf? w)) := (reads_build p.2).frequency w
  show Dictionary.greatest (·.frequency w) (parts.map member) =
    (ofLines locale (parts.flatMap (·.2))).build.frequency w
  rw [(reads_build _).frequency, Dictionary.greatest_members hmember, List.filterMap_flatMap]

theorem maxFrequency_members : (Dictionary.collection source (parts.map member)).maxFrequency w =
    (ofLines locale (parts.flatMap (·.2))).build.dictionary.maxFrequency w := by
  have hmember (p : Locale × List SourceLine) : (member p).maxFrequency w =
      greatest (p.2.filterMap (SourceLine.frequencyUnder? (Text.lower w))) :=
    (reads_build p.2).maxFrequency w
  show Dictionary.greatest (·.maxFrequency w) (parts.map member) =
    (ofLines locale (parts.flatMap (·.2))).build.maxFrequency w
  rw [(reads_build _).maxFrequency, Dictionary.greatest_members hmember, List.filterMap_flatMap]

/-- **The first candidate of a word** among those of all members has the score that the first part
to rate the word gives it. -/
theorem score_find?_members (hq : q.typed ≠ [])
    (hfew : ((ofLines locale (parts.flatMap (·.2))).build.index.filter fun p =>
      (Text.lower q.typed).isPrefixOf p.1).length ≤ Lexicon.completionLimit) :
    ((parts.flatMap fun p => (ofLines p.1 p.2).build.suggestions q).find? (·.word == w)).map
        (·.score) =
      parts.findSome? fun p => SourceLine.rated? p.2 q w := by
  have hpart : ∀ p ∈ parts, (((ofLines p.1 p.2).build.suggestions q).find? (·.word == w)).map
      (·.score) = SourceLine.rated? p.2 q w := by
    intro p hp
    have hsubset : p.2 ⊆ parts.flatMap (·.2) := fun s hs => List.mem_flatMap.mpr ⟨p, hp, hs⟩
    exact score_find?_suggestions hq ((length_prefixes_le hsubset).trans hfew)
  rw [List.find?_flatMap, List.map_findSome?]
  exact findSome?_congr hpart

/-- **When several lists are as one**: a collection of lexicons knows the words of all lists, with
the frequencies of the lexicon that is built from all of them together. Merged into a ranking that
has room for all candidates, it also gives a word that both offer the same score, exactly if the
first list that rates the word for the query rates it as all lists together do. -/
theorem collection_alike_iff (source : Source) (locale : Locale)
    (parts : List (Locale × List SourceLine)) (q : Query) (hq : q.typed ≠ [])
    (hfew : ((ofLines locale (parts.flatMap (·.2))).build.index.filter fun p =>
      (Text.lower q.typed).isPrefixOf p.1).length ≤ 256) :
    let whole := (ofLines locale (parts.flatMap (·.2))).build.dictionary
    let collection :=
      Dictionary.collection source (parts.map fun p => (ofLines p.1 p.2).build.dictionary)
    (∀ w, collection.contains w = whole.contains w ∧ collection.isValid w = whole.isValid w ∧
      collection.frequency w = whole.frequency w ∧
      collection.maxFrequency w = whole.maxFrequency w) ∧
    ∃ cs ds, (collection.suggestions q).candidates? = some cs ∧
      (whole.suggestions q).candidates? = some ds ∧
      ∀ capacity atStart, cs.length ≤ capacity → ds.length ≤ capacity → ∀ w c d,
        ((Ranking.new capacity atStart).addAll cs).find? w = some c →
        ((Ranking.new capacity atStart).addAll ds).find? w = some d →
        (c.score = d.score ↔
          (parts.findSome? fun p => SourceLine.rated? p.2 q w) =
            SourceLine.rated? (parts.flatMap (·.2)) q w) := by
  intro whole collection
  refine ⟨fun w => ⟨contains_members, isValid_members, frequency_members, maxFrequency_members⟩,
    _, _, Dictionary.candidates?_collection source (fun _ => rfl) parts, rfl,
    fun capacity atStart hcs hds w c d hc hd => ?_⟩
  rw [Ranking.find?_addAll_new hcs] at hc
  rw [Ranking.find?_addAll_new hds] at hd
  have hfirst := score_find?_members (w := w) hq hfew
  have hwhole := score_find?_suggestions (w := w) hq hfew
  rw [hc, Option.map_some] at hfirst
  rw [hd, Option.map_some] at hwhole
  rw [← hfirst, ← hwhole, Option.some.injEq]

/-- The first list names a word with the greatest frequency, and another list names it again. -/
theorem collection_alike_iff_greatest_first :
    let en : Locale := ⟨"en".toList⟩
    let parts : List (Locale × List SourceLine) := [(en, [.word "cat".toList 180]),
      (en, [.word "cat".toList 100, .word "cats".toList 120,
        .replacement "cst".toList "cast".toList])]
    let q : Query := ⟨"cat".toList, Context.empty 3, true, 1⟩
    let whole := (ofLines en (parts.flatMap (·.2))).build.dictionary
    let collection :=
      Dictionary.collection ⟨.main, some en⟩ (parts.map fun p => (ofLines p.1 p.2).build.dictionary)
    (q.typed ≠ [] ∧ ((ofLines en (parts.flatMap (·.2))).build.index.filter fun p =>
        (Text.lower q.typed).isPrefixOf p.1).length ≤ 256) ∧
      ∃ cs ds c d, (collection.suggestions q).candidates? = some cs ∧
        (whole.suggestions q).candidates? = some ds ∧
        ((Ranking.new 18 false).addAll cs).find? "cat".toList = some c ∧
        ((Ranking.new 18 false).addAll ds).find? "cat".toList = some d ∧ c.score = d.score := by
  intro en parts q whole collection
  have hq : q.typed ≠ [] := by decide
  have hfew : ((ofLines en (parts.flatMap (·.2))).build.index.filter fun p =>
      (Text.lower q.typed).isPrefixOf p.1).length ≤ 256 := by decide +kernel
  obtain ⟨-, cs, ds, hcs, hds, hiff⟩ := collection_alike_iff ⟨.main, some en⟩ en parts q hq hfew
  have hcs' : cs = parts.flatMap fun p => (ofLines p.1 p.2).build.suggestions q :=
    Option.some.inj (hcs.symm.trans
      (Dictionary.candidates?_collection ⟨.main, some en⟩ (fun _ => rfl) parts))
  have hds' : ds = (ofLines en (parts.flatMap (·.2))).build.suggestions q :=
    Option.some.inj (hds.symm.trans rfl)
  obtain ⟨c, hc⟩ : ∃ c, ((Ranking.new 18 false).addAll cs).find? "cat".toList = some c := by
    rw [hcs', ← Option.isSome_iff_exists]
    decide +kernel
  obtain ⟨d, hd⟩ : ∃ d, ((Ranking.new 18 false).addAll ds).find? "cat".toList = some d := by
    rw [hds', ← Option.isSome_iff_exists]
    decide +kernel
  have hlength : cs.length ≤ 18 := by
    rw [hcs']
    decide +kernel
  have hlength' : ds.length ≤ 18 := by
    rw [hds']
    decide +kernel
  have hrated : (parts.findSome? fun p => SourceLine.rated? p.2 q "cat".toList) =
      SourceLine.rated? (parts.flatMap (·.2)) q "cat".toList := by decide +kernel
  exact ⟨⟨hq, hfew⟩, cs, ds, c, d, hcs, hds, hc, hd,
    (hiff 18 false hlength hlength' "cat".toList c d hc hd).mpr hrated⟩

/-- **A frequency that does not count**: the second list names a word with the greater frequency.
The collection knows it, but scores the word by the frequency of the first list. -/
theorem greater_frequency_of_later_list_not_scored :
    let en : Locale := ⟨"en".toList⟩
    let cat : Text := "cat".toList
    let parts : List (Locale × List SourceLine) := [(en, [.word cat 100]), (en, [.word cat 180])]
    let q : Query := ⟨cat, Context.empty 3, true, 1⟩
    let whole := (ofLines en (parts.flatMap (·.2))).build.dictionary
    let collection :=
      Dictionary.collection ⟨.main, some en⟩ (parts.map fun p => (ofLines p.1 p.2).build.dictionary)
    let score (d : Dictionary) := (d.suggestions q).candidates?.bind fun cs =>
      (((Ranking.new 18 false).addAll cs).find? cat).map (·.score)
    collection.frequency cat = 180 ∧ whole.frequency cat = 180 ∧
      score collection = some 1400000 ∧ score whole = some 1720000 := by
  decide +kernel

end Draft

end Typeahead
