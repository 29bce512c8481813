import Mathlib.Data.List.Flatten
import Scholia.Proofs.Comment.Merging
import Scholia.Proofs.Comment.Wording

/-! # Reconciling twice

Reconciling the same text a second time leaves the comment alone unless a merge takes it for news.
That happens when the beginning of its description has been escaped or read as a tag, or when it
has tags that a merge turns into a description; `Reconciler.Unsettled` says exactly when.
-/

namespace Scholia

open Text Comment

namespace Block

theorem Readable.named {block : Block} (readable : block.Readable) :
    ∀ tag ∈ block.tags, Tag.IsName tag.name :=
  fun tag member => (readable.tags tag member).named

theorem map_map_escapeTerminators (texts : List Text) :
    (texts.map escapeTerminators).map escapeTerminators = texts.map escapeTerminators := by
  simp

/-- The words of a tag list that is rendered and read back. -/
theorem flatMap_words_reread {tags : List Tag} (named : ∀ tag ∈ tags, Tag.IsName tag.name) :
    ((tags.map Tag.flush).map Tag.escaped).flatMap Tag.words =
      (tags.flatMap Tag.words).map escapeTerminators := by
  have flushed : ∀ tag ∈ tags.map Tag.flush, Tag.IsName tag.name := by
    intro _ member
    obtain ⟨tag, inside, rfl⟩ := List.mem_map.mp member
    exact named tag inside
  have same : Tag.words ∘ Tag.flush = Tag.words := funext Tag.words_flush
  rw [Tag.flatMap_words_escaped flushed, List.flatMap_map]
  exact congrArg (fun words => (tags.flatMap words).map escapeTerminators) same

section Merged

variable {old new : Block}

theorem words_merge_eq (old new : Block) :
    (old.merge new).words = Text.words (old.merge new).description ++
      ((old.tags.filter new.survives).flatMap Tag.words ++
        (new.tags.filter carries).flatMap Tag.words) := by
  rw [words, ← List.flatMap_append]
  rfl

/-- The words of a merged content: a description that is added brings its own words. -/
theorem words_merge (readable : old.Readable) :
    (old.merge new).words = Text.words old.description ++
      (if appends old new then Text.words new.descriptionRegion else []) ++
      ((old.tags.filter new.survives).flatMap Tag.words ++
        (new.tags.filter carries).flatMap Tag.words) := by
  rw [words_merge_eq, merge_description readable]
  refine congrArg (· ++ _) ?_
  split
  · split
    · next empty => rw [List.isEmpty_iff.mp empty]; rfl
    · rw [words_append_cons (by decide), words_cons_of_blank (by decide)]
  · rw [List.append_nil]

theorem contentWords_render_merge (oldReadable : old.Readable) (newReadable : new.Readable) :
    contentWords (old.merge new).render = (old.merge new).words.map escapeTerminators :=
  contentWords_render (whole_merge_description oldReadable newReadable)
    (readable_of_mem_merge_tags oldReadable newReadable)

theorem words_descriptionRegion_ne_nil (readable : new.Readable) (adds : appends old new = true) :
    Text.words new.descriptionRegion ≠ [] := by
  rw [Ne, words_eq_nil, ← trim_eq_nil, readable.prose_descriptionRegion.trimmed]
  exact descriptionRegion_ne_nil adds

/-- An escaped text still has the beginning it had, unless that was escaped. -/
theorem occursIn_take_iff (count : Nat) {text whole : Text} (closed : Unclosed whole)
    (stop : escapeTerminators text <:+ whole) :
    occursIn (text.take count) whole = true ↔ Unclosed (text.take count) := by
  rw [occursIn_iff]
  constructor
  · exact closed.of_isInfix
  · intro unclosed
    have start := unclosed.prefix_escapeTerminators (text.drop count)
    rw [List.take_append_drop] at start
    exact start.isInfix.trans stop.isInfix

theorem occursIn_sought_iff (readable : old.Readable) (adds : appends old new = true) :
    occursIn new.sought (escapeTerminators (old.merge new).description) = true ↔
      Unclosed new.sought := by
  refine occursIn_take_iff comparedLength (unclosed_escapeTerminators _) ?_
  rw [merge_description readable, if_pos adds]
  split
  · exact List.suffix_rfl
  · rw [escapeTerminators_append_cons (by decide) (by decide), escapeTerminators_cons,
      if_neg (by simp)]
    exact (List.suffix_cons _ _).trans ((List.suffix_cons _ _).trans (List.suffix_append _ _))

/-- A second merge with the same generated comment adds its description, or a tag read from it,
    once more. -/
inductive Regrows (old new : Block) : Prop where
  | tag {tag : Tag} (astray : stray? old new = some tag) (sticky : new.survives tag = true)
  | description (straight : stray? old new = none) (adds : appends old new = true)
      (escapes : occursIn terminator new.sought = true)

theorem regrows_iff_of_stray {tag : Tag} (astray : stray? old new = some tag) :
    Regrows old new ↔ new.survives tag = true := by
  constructor
  · intro regrows
    cases regrows with
    | tag other sticky => rwa [Option.some.inj (astray.symm.trans other)]
    | description straight => rw [straight] at astray; cases astray
  · exact .tag astray

theorem regrows_iff_of_straight (straight : stray? old new = none) :
    Regrows old new ↔ appends old new = true ∧ occursIn terminator new.sought = true := by
  constructor
  · intro regrows
    cases regrows with
    | tag astray => rw [straight] at astray; cases astray
    | description _ adds escapes => exact ⟨adds, escapes⟩
  · rintro ⟨adds, escapes⟩
    exact .description straight adds escapes

theorem appends_reread_iff (readable : old.Readable) (unescaped : old.escaped = old) :
    appends (old.merge new).flush.escaped new = true ↔
      appends old new = true ∧ occursIn terminator new.sought = true := by
  have description : escapeTerminators old.description = old.description :=
    congrArg Block.description unescaped
  have reread : appends (old.merge new).flush.escaped new =
      (!new.descriptionRegion.isEmpty &&
        !occursIn new.sought (escapeTerminators (old.merge new).description)) := rfl
  cases adds : appends old new with
  | false =>
      rw [reread, merge_description readable, adds, if_neg Bool.false_ne_true, description,
        ← appends, adds]
      simp
  | true =>
      have region : new.descriptionRegion.isEmpty = false := by
        simpa [List.isEmpty_iff] using descriptionRegion_ne_nil adds
      have found := occursIn_sought_iff readable adds
      rw [reread, region, Bool.not_false, Bool.true_and, Bool.not_eq_true', ← Bool.not_eq_true,
        found, Unclosed, ← occursIn_iff, not_not]
      simp

theorem appends_congr {first second : Block} (same : first.description = second.description)
    (generated : Block) : appends first generated = appends second generated := by
  rw [appends, same, ← appends]

/-- The old tags that survive a merge survive it again once it has been rendered and read back. -/
theorem words_surviving_reread (readable : old.Readable) :
    ((((old.merge new).tags.map Tag.flush).map Tag.escaped).filter new.survives).flatMap Tag.words =
      ((old.tags.filter new.survives).flatMap Tag.words).map escapeTerminators := by
  have named : ∀ tag ∈ old.tags.filter new.survives, Tag.IsName tag.name := fun tag member =>
    readable.named tag (List.mem_of_mem_filter member)
  rw [filter_survives_reread, flatMap_words_reread named]

theorem words_merge_again (oldReadable : old.Readable) (newReadable : new.Readable)
    (unescaped : old.escaped = old) (straight : stray? old new = none) :
    ((read (old.merge new).render).merge new).words.map escapeTerminators =
      (old.merge new).words.map escapeTerminators ↔ ¬Regrows old new := by
  have grows : appends (old.merge new).flush.escaped new = true ↔
      appends old new = true ∧ occursIn terminator new.sought = true :=
    appends_reread_iff oldReadable unescaped
  have description : (old.merge new).flush.escaped.description =
      escapeTerminators (old.merge new).description := rfl
  have tags : (old.merge new).flush.escaped.tags =
      ((old.merge new).tags.map Tag.flush).map Tag.escaped := rfl
  rw [words_merge (readable_read _), read_render_merge oldReadable newReadable straight,
    words_merge_eq old new, description, tags, words_surviving_reread oldReadable,
    words_escapeTerminators]
  simp only [List.map_append, map_map_escapeTerminators, List.append_assoc,
    List.append_cancel_left_eq, List.append_left_eq_self, List.map_eq_nil_iff,
    regrows_iff_of_straight straight, ← grows]
  split
  · next adds => simp [words_descriptionRegion_ne_nil newReadable adds, adds]
  · next stays => simp [stays]

/-- A tag read back from the added description leaves the description as it was, so that a second
    merge adds it again; the tag itself stays unless the generated comment has its name. -/
theorem words_merge_again_of_stray (oldReadable : old.Readable) (newReadable : new.Readable)
    (unescaped : old.escaped = old) {tag : Tag} (astray : stray? old new = some tag) :
    ((read (old.merge new).render).merge new).words.map escapeTerminators =
      (old.merge new).words.map escapeTerminators ↔ ¬Regrows old new := by
  obtain ⟨text, reread⟩ := read_render_merge_of_stray oldReadable newReadable astray
  have adds := appends_of_stray astray
  have description : escapeTerminators old.description = old.description :=
    congrArg Block.description unescaped
  have named : new.survives (Tag.escaped ⟨tag.name, text⟩) = new.survives tag := rfl
  rw [words_merge (readable_read _), reread, words_merge oldReadable,
    appends_congr (show _ = old.description from description) new, adds]
  simp only [escaped, List.map_cons, if_true, description, regrows_iff_of_stray astray]
  by_cases sticky : new.survives tag = true
  · rw [List.filter_cons_of_pos (named.trans sticky), List.flatMap_cons,
      words_surviving_reread oldReadable]
    simp only [List.map_append, map_map_escapeTerminators, List.append_assoc,
      List.append_cancel_left_eq, List.append_left_eq_self, List.map_eq_nil_iff, Tag.words]
    simp [sticky]
  · rw [List.filter_cons_of_neg (by rwa [named]), words_surviving_reread oldReadable]
    simp only [List.map_append, map_map_escapeTerminators, sticky]
    simp

/-- Merging the same generated comment again changes the words of the comment only if it regrows. -/
theorem contentWords_merge_again (oldReadable : old.Readable) (newReadable : new.Readable)
    (unescaped : old.escaped = old) :
    contentWords ((read (old.merge new).render).merge new).render =
      contentWords (old.merge new).render ↔ ¬Regrows old new := by
  rw [contentWords_render_merge (readable_read _) newReadable,
    contentWords_render_merge oldReadable newReadable]
  cases straight : stray? old new with
  | none => exact words_merge_again oldReadable newReadable unescaped straight
  | some tag => exact words_merge_again_of_stray oldReadable newReadable unescaped straight

end Merged

section Own

variable {block : Block}

/-- The content comes back from a merge of itself into its own comment: its tags stay tags, and the
    beginning of its description needs no escaping. -/
def Reproduces (block : Block) : Prop :=
  (∀ tag ∈ block.tags, carries tag = true) ∧
    occursIn terminator (block.description.take comparedLength) = false

theorem descriptionRegion_cases (block : Block) :
    (∃ tag ∈ block.tags, carries tag = false ∧ block.descriptionRegion = trim tag.text) ∨
      block.descriptionRegion = block.description := by
  unfold descriptionRegion
  split
  · next tag found =>
    have described := List.find?_some found
    refine .inl ⟨tag, List.mem_of_find?_eq_some found, ?_, rfl⟩
    simp only [carries, described, Bool.not_true, Bool.false_and]
  · split
    · exact .inr rfl
    · next empty =>
      have nothing : block.description = [] := by simpa using empty
      rw [nothing]
      split
      · next tag rest cut =>
        split
        · next summary => exact .inl ⟨tag, by simp [cut], by simp [carries, summary], rfl⟩
        · exact .inr rfl
      · exact .inr rfl

theorem descriptionRegion_eq_of_carries (carried : ∀ tag ∈ block.tags, carries tag = true) :
    block.descriptionRegion = block.description := by
  refine block.descriptionRegion_cases.resolve_left ?_
  rintro ⟨tag, member, dropped, -⟩
  rw [carried tag member] at dropped
  cases dropped

/-- A tag that is not carried takes its words away. -/
theorem length_words_carried {tags : List Tag} {tag : Tag} (member : tag ∈ tags)
    (dropped : carries tag = false) :
    ((tags.filter carries).flatMap Tag.words).length + tag.words.length ≤
      (tags.flatMap Tag.words).length := by
  have fewer (list : List Tag) : ((list.filter carries).flatMap Tag.words).length ≤
      (list.flatMap Tag.words).length :=
    (List.filter_sublist.flatMap Tag.words).length_le
  obtain ⟨before, after, rfl⟩ := List.append_of_mem member
  have left := fewer before
  have right := fewer after
  rw [List.filter_append, List.filter_cons_of_neg (by simp [dropped])]
  simp only [List.flatMap_append, List.flatMap_cons, List.length_append]
  omega

/-- The first word of a description is no at sign with a name. -/
theorem Readable.head?_words_ne (readable : block.Readable) {name : Text} (valid : Tag.IsName name) :
    ((Text.words block.description).map escapeTerminators).head? ≠ some ('@' :: name) := by
  intro first
  have filled : block.description ≠ [] := by
    intro empty
    simp [empty] at first
  obtain ⟨line, rest, cut⟩ := List.exists_cons_of_ne_nil (mt passage_eq_nil.mp filled)
  have plain : Tag.ofLine? line = none := readable.plain line (by simp [cut])
  have ink : Text.words line ≠ [] := by
    have whole := readable.whole
    rw [cut] at whole
    rw [Ne, words_eq_nil, whole.isBlankText_head]
    decide
  obtain ⟨word, others, same⟩ := List.exists_cons_of_ne_nil ink
  have lead : Text.words (escapeTerminators line) =
      ('@' :: name) :: others.map escapeTerminators := by
    rw [← joinLines_passage block.description, cut, words_joinLines, List.flatMap_cons, same] at first
    rw [words_escapeTerminators, same, List.map_cons, Option.some.inj first]
  refine valid.ofLine?_ne_none lead ?_
  rw [Tag.ofLine?_escapeTerminators, plain, Option.map_none]

theorem appends_own_iff (region : block.descriptionRegion = block.description) :
    appends block.flush.escaped block = true ↔
      occursIn terminator (block.description.take comparedLength) = true := by
  have found : occursIn (block.description.take comparedLength)
      (escapeTerminators block.description) = true ↔ _ :=
    occursIn_take_iff comparedLength (unclosed_escapeTerminators _) List.suffix_rfl
  have reread : appends block.flush.escaped block = (!block.description.isEmpty &&
      !occursIn (block.description.take comparedLength) (escapeTerminators block.description)) := by
    rw [appends, sought, region]
    rfl
  by_cases empty : block.description = []
  · rw [reread, empty]
    decide
  · have filled : block.description.isEmpty = false := by simpa [List.isEmpty_iff] using empty
    rw [reread, filled, Bool.not_false, Bool.true_and, Bool.not_eq_true', ← Bool.not_eq_true, found,
      Unclosed, ← occursIn_iff, not_not]

/-- Words that a merge of a content into its own comment adds make up for no tag that it drops:
    those of a tag turned into a description lack the name, and no description starts as a tag. -/
theorem carries_of_same_words {old : Block} (readable : block.Readable)
    (same : ((if appends old block then Text.words block.descriptionRegion else []) ++
        (block.tags.filter carries).flatMap Tag.words).map escapeTerminators =
      (block.tags.flatMap Tag.words).map escapeTerminators) :
    ∀ tag ∈ block.tags, carries tag = true := by
  intro tag member
  by_contra dropped
  rw [Bool.not_eq_true] at dropped
  have less := length_words_carried member dropped
  have lengths := congrArg List.length same
  simp only [List.length_map, List.length_append] at lengths
  -- A tag that is dropped leaves too few words, unless the whole description is added for it.
  rcases block.descriptionRegion_cases with ⟨other, listed, lost, region⟩ | region
  · have fewer := length_words_carried listed lost
    have added : (if appends old block then Text.words block.descriptionRegion else []).length ≤
        (Text.words other.text).length := by
      split
      · rw [region, words_trim]
      · exact Nat.zero_le _
    simp only [Tag.words, List.length_cons] at fewer
    omega
  · cases adds : appends old block with
    | false =>
        simp only [adds, Bool.false_eq_true, if_false, List.length_nil, Tag.words,
          List.length_cons] at lengths less
        omega
    | true =>
        -- Then the first word of the description would have to be the first tag with its sign.
        have filled := words_descriptionRegion_ne_nil readable adds
        obtain ⟨first, rest, cut⟩ := List.exists_cons_of_ne_nil (List.ne_nil_of_mem member)
        have named := readable.named first (by simp [cut])
        rw [region] at filled
        refine readable.head?_words_ne named ?_
        rw [if_pos adds, region, List.map_append] at same
        rw [← List.head?_append_of_ne_nil _ (by simpa using filled), same, cut, List.flatMap_cons,
          Tag.words, List.cons_append, List.map_cons, named.unclosed_sign.escapeTerminators_eq,
          List.head?_cons]

/-- Merging a content into its own comment keeps the words of the comment only if it is
    reproduced. -/
theorem contentWords_merge_own (readable : block.Readable) :
    contentWords ((read block.render).merge block).render = contentWords block.render ↔
      Reproduces block := by
  have again : (read block.render).Readable := readable_read _
  have dropped : (((block.tags.map Tag.flush).map Tag.escaped).filter block.survives) = [] := by
    rw [filter_survives_map _ Tag.escaped fun _ => rfl, filter_survives_map _ Tag.flush fun _ => rfl,
      filter_survives_own fun _ member => member]
    rfl
  have description : block.flush.escaped.description = escapeTerminators block.description := rfl
  have tags : block.flush.escaped.tags = (block.tags.map Tag.flush).map Tag.escaped := rfl
  have whole : block.words.map escapeTerminators =
      (Text.words block.description).map escapeTerminators ++
        (block.tags.flatMap Tag.words).map escapeTerminators := by
    rw [words, List.map_append]
  rw [contentWords_render_merge again readable, contentWords_render readable.whole readable.tags,
    words_merge again, readable.read_render, description, tags, dropped, whole,
    words_escapeTerminators, List.append_assoc, List.map_append, map_map_escapeTerminators,
    List.append_cancel_left_eq, List.flatMap_nil, List.nil_append]
  constructor
  · intro same
    have carried := carries_of_same_words readable same
    have region := descriptionRegion_eq_of_carries carried
    refine ⟨carried, ?_⟩
    rw [← Bool.not_eq_true, ← appends_own_iff region]
    intro adds
    rw [List.filter_eq_self.mpr carried, if_pos adds, List.map_append, List.append_left_eq_self,
      List.map_eq_nil_iff] at same
    exact words_descriptionRegion_ne_nil readable adds same
  · rintro ⟨carried, clean⟩
    have region := descriptionRegion_eq_of_carries carried
    have stays : ¬appends block.flush.escaped block = true := by
      rw [appends_own_iff region, clean]
      exact Bool.false_ne_true
    rw [List.filter_eq_self.mpr carried, if_neg stays, List.nil_append]

end Own

end Block

namespace Reconciler

variable {rules : Reconciler} {slot : Slot} {generated : Text}

/-- Where a merge of the generated text into what the first reconciliation makes of it changes the
    words: the content of a comment of its own is not reproduced, or a merged comment regrows.
    Both comments also have to differ from the generated text, which is skipped otherwise. -/
inductive Changes (generated : Text) : Option Text → Prop where
  | bare (news : normalize (Block.wrap generated) ≠ normalize generated)
      (differs : ¬Block.Reproduces (Block.read generated)) : Changes generated none
  | merged {existing : Text} (readable : isBlock existing = true)
      (news : normalize existing ≠ normalize generated)
      (change : normalize (mergedText existing generated) ≠ normalize existing)
      (again : normalize (mergedText existing generated) ≠ normalize generated)
      (regrows : Block.Regrows (Block.read existing) (Block.read generated)) :
      Changes generated (some existing)

/-- The first reconciliation puts a comment into the place that a second one changes. -/
structure Unsettled (rules : Reconciler) (slot : Slot) (generated : Text) : Prop where
  admitted : rules.Admits generated
  merges : rules.policy.merges = true
  spares : rules.policy.overwrites = false
  change : Changes generated slot.current

theorem Unsettled.applied (unsettled : Unsettled rules slot generated) :
    (rules.reconcile slot generated).1.applied = true := by
  obtain ⟨admitted, merges, spares, change⟩ := unsettled
  cases found : slot.current with
  | none =>
      rw [reconcile, if_neg (Int.not_lt.mpr admitted), found]
      rfl
  | some existing =>
      rw [found] at change
      cases change with
      | merged readable news change =>
          rw [reconcile_of_admits admitted found, if_neg news, mergeInto_of_isBlock readable,
            if_neg change, spares, merges]
          rfl

/-- A comment stays as it is unless a merge takes the generated text for news. -/
theorem current_reconcile_iff {doc : Text} (admitted : rules.Admits generated)
    (found : slot.current = some doc) (enclosed : Enclosed doc)
    (own : rules.policy.overwrites = true → doc = Block.wrap generated) :
    (rules.reconcile slot generated).2.current = some doc ↔
      ¬(rules.policy.merges = true ∧ rules.policy.overwrites = false ∧
        normalize doc ≠ normalize generated ∧
        contentWords (mergedText doc generated) ≠ contentWords doc) := by
  rw [reconcile_of_admits admitted found, mergeInto_of_isBlock enclosed.isBlock_eq]
  split
  · next same => simp [found, same]
  · next news =>
    cases overwrites : rules.policy.overwrites with
    | true =>
        have same : Text.trim (Block.wrap generated) = doc := by
          rw [← own overwrites, enclosed.trim_eq]
        simp [same]
    | false =>
        cases merges : rules.policy.merges with
        | false => simp [found]
        | true =>
            by_cases same : contentWords (mergedText doc generated) = contentWords doc
            · simp [found, same, normalize_eq_iff.mpr same]
            · have trimmed : Text.trim (mergedText doc generated) = mergedText doc generated :=
                Enclosed.trim_eq (enclosed_render _)
              have other : mergedText doc generated ≠ doc := by
                intro whole
                rw [whole] at same
                exact same rfl
              simp [news, same, mt normalize_eq_iff.mp same, trimmed, other]

theorem twice_iff_of_written {doc : Text}
    (written : (rules.reconcile slot generated).2.current = some doc) (enclosed : Enclosed doc)
    (admitted : rules.Admits generated)
    (own : rules.policy.overwrites = true → doc = Block.wrap generated)
    (change : rules.policy.overwrites = false →
      ((normalize doc ≠ normalize generated ∧
        contentWords (mergedText doc generated) ≠ contentWords doc) ↔
          Changes generated slot.current)) :
    (rules.reconcile (rules.reconcile slot generated).2 generated).2.current =
        (rules.reconcile slot generated).2.current ↔ ¬Unsettled rules slot generated := by
  rw [written, current_reconcile_iff admitted written enclosed own]
  refine not_congr ⟨?_, ?_⟩
  · rintro ⟨merges, spares, differs⟩
    exact ⟨admitted, merges, spares, (change spares).mp differs⟩
  · rintro ⟨-, merges, spares, changes⟩
    exact ⟨merges, spares, (change spares).mpr changes⟩

theorem wrap_of_news (news : normalize (Block.wrap generated) ≠ normalize generated) :
    Block.wrap generated = (Block.read generated).render := by
  refine wrap_of_not_isBlock (Bool.eq_false_iff.mpr fun block => news ?_)
  have whole : Block.wrap generated = trim generated := if_pos block
  rw [whole, normalize_trim]

theorem changes_bare_iff (generated : Text) :
    (normalize (Block.wrap generated) ≠ normalize generated ∧
        contentWords (mergedText (Block.wrap generated) generated) ≠
          contentWords (Block.wrap generated)) ↔ Changes generated none := by
  have reproduced (news : normalize (Block.wrap generated) ≠ normalize generated) :
      contentWords (mergedText (Block.wrap generated) generated) =
        contentWords (Block.wrap generated) ↔ Block.Reproduces (Block.read generated) := by
    rw [wrap_of_news news]
    exact Block.contentWords_merge_own (Block.readable_read generated)
  constructor
  · rintro ⟨news, words⟩
    exact .bare news (mt (reproduced news).mpr words)
  · rintro ⟨news, differs⟩
    exact ⟨news, mt (reproduced news).mp differs⟩

theorem changes_merged_iff {existing : Text} (readable : isBlock existing = true)
    (news : normalize existing ≠ normalize generated)
    (change : normalize (mergedText existing generated) ≠ normalize existing) :
    (normalize (mergedText existing generated) ≠ normalize generated ∧
        contentWords (mergedText (mergedText existing generated) generated) ≠
          contentWords (mergedText existing generated)) ↔ Changes generated (some existing) := by
  have regrown : contentWords (mergedText (mergedText existing generated) generated) =
      contentWords (mergedText existing generated) ↔
        ¬Block.Regrows (Block.read existing) (Block.read generated) :=
    Block.contentWords_merge_again (Block.readable_read existing) (Block.readable_read generated)
      (Block.escaped_read readable)
  constructor
  · rintro ⟨again, words⟩
    exact .merged readable news change again (not_not.mp (mt regrown.mpr words))
  · intro changes
    cases changes with
    | merged _ _ _ again regrows =>
        exact ⟨again, fun same => regrown.mp same regrows⟩

/-- Reconciling a text a second time leaves the comment as the first time left it, unless the
    comment is unsettled. -/
theorem reconcile_twice_iff (rules : Reconciler) (slot : Slot) (generated : Text) :
    (rules.reconcile (rules.reconcile slot generated).2 generated).2.current =
        (rules.reconcile slot generated).2.current ↔ ¬Unsettled rules slot generated := by
  have reached := rules.effect slot generated
  generalize result : rules.reconcile slot generated = first at reached
  cases reached with
  | kept outcome unapplied =>
      rw [result]
      refine iff_of_true rfl fun unsettled => ?_
      have applied := unsettled.applied
      rw [result, unapplied] at applied
      cases applied
  | inserted admitted bare =>
      have enclosed := enclosed_wrap generated
      rw [← result]
      refine twice_iff_of_written (by rw [result, enclosed.current_write]) enclosed
        admitted (fun _ => rfl) fun _ => ?_
      rw [bare]
      exact changes_bare_iff generated
  | overwritten existing admitted _ _ overwrites =>
      have enclosed := enclosed_wrap generated
      rw [← result]
      refine twice_iff_of_written (by rw [result, enclosed.current_write]) enclosed
        admitted (fun _ => rfl) fun spares => ?_
      rw [overwrites] at spares
      cases spares
  | merged existing admitted found readable news spares _ change =>
      have enclosed : Enclosed (mergedText existing generated) := enclosed_render _
      rw [← result]
      refine twice_iff_of_written (by rw [result, enclosed.current_write]) enclosed
        admitted (fun overwrites => ?_) fun _ => ?_
      · rw [overwrites] at spares
        cases spares
      · rw [found]
        exact changes_merged_iff readable news change

/-- A description with a file pattern that holds a closing marker is added a second time. -/
theorem reconcile_twice_pattern_grows :
    (reconcile ⟨0, {}⟩ (reconcile ⟨0, {}⟩ {} "Lists src/**/*.ts files.".toList).2
        "Lists src/**/*.ts files.".toList).2.current ≠
      (reconcile ⟨0, {}⟩ {} "Lists src/**/*.ts files.".toList).2.current := by
  decide +kernel

end Reconciler

end Scholia
