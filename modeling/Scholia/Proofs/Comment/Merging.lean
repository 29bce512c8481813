import Scholia.Proofs.Comment.Content
import Scholia.Proofs.Comment.Outcome

/-! # What a merge keeps

A merged comment is read back with the existing description at its start, and with the sticky tags
that the generated comment does not replace. Nothing but a description whose first line looks like
a tag gets between: it is read as one more tag in front of all others.
-/

namespace Scholia

open Text Comment

/-- A text that a comment can take in as a description, though its first line may start a tag. -/
structure Prose (text : Text) : Prop where
  trimmed : trim text = text
  whole : Passage (passage text)
  plain : ∀ line ∈ (passage text).tail, Tag.ofLine? line = none

theorem Prose.nil : Prose [] :=
  ⟨rfl, Passage.nil, by simp [passage]⟩

theorem Tag.Readable.prose {tag : Tag} (readable : tag.Readable) : Prose (trim tag.text) := by
  have lines := readable.whole.passage_trim
  refine ⟨trim_trim _, ?_, ?_⟩
  · rw [lines]
    exact readable.whole.flushFirst
  · rw [lines]
    have plain := readable.plain
    cases cut : passage tag.text with
    | nil => simp [flushFirst]
    | cons first rest => simpa [cut, flushFirst] using plain

namespace Block

theorem Readable.prose_descriptionRegion {block : Block} (readable : block.Readable) :
    Prose block.descriptionRegion := by
  unfold descriptionRegion
  split
  · next tag found => exact (readable.tags tag (List.mem_of_find?_eq_some found)).prose
  · split
    · exact ⟨readable.trimmed, readable.whole,
        fun line member => readable.plain line (List.mem_of_mem_tail member)⟩
    · split
      · next tag rest cut =>
        split
        · exact (readable.tags tag (by simp [cut])).prose
        · exact .nil
      · exact .nil

/-- The beginning of a generated description, which is looked for in the existing one. -/
def sought (new : Block) : Text :=
  new.descriptionRegion.take comparedLength

/-- A merge adds the generated description to the existing one. -/
def appends (old new : Block) : Bool :=
  !new.descriptionRegion.isEmpty && !occursIn new.sought old.description

/-- The tag that the first line of an added description starts. -/
def stray? (old new : Block) : Option Tag :=
  if appends old new then Tag.ofLine? ((splitLines new.descriptionRegion).headD []) else none

/-- The lines in front of a description that is added to an existing one. -/
def lead (old : Text) : List Text :=
  if old.isEmpty then [] else passage old ++ [[]]

section Merged

variable {old new : Block}

theorem merge_description (readable : old.Readable) :
    (old.merge new).description =
      if appends old new then
        if old.description.isEmpty then new.descriptionRegion
        else old.description ++ '\n' :: '\n' :: new.descriptionRegion
      else old.description := by
  have whole : (old.merge new).description =
      mergeDescriptions (trim old.description) new.descriptionRegion := rfl
  rw [whole, readable.trimmed, mergeDescriptions, appends, sought, ← Bool.not_or]
  cases new.descriptionRegion.isEmpty ||
    occursIn (new.descriptionRegion.take comparedLength) old.description <;> rfl

theorem isPrefix_merge_description (readable : old.Readable) :
    old.description <+: (old.merge new).description := by
  rw [merge_description readable]
  split
  · split
    · next empty => rw [List.isEmpty_iff.mp empty]; exact List.nil_prefix
    · exact List.prefix_append _ _
  · exact List.prefix_rfl

theorem descriptionRegion_ne_nil (adds : appends old new = true) : new.descriptionRegion ≠ [] := by
  intro empty
  simp [appends, empty] at adds

theorem appends_of_stray {tag : Tag} (astray : stray? old new = some tag) :
    appends old new = true := by
  by_contra stays
  simp [stray?, stays] at astray

theorem stray?_of_appends (adds : appends old new = true) {first : Text} {rest : List Text}
    (cut : passage new.descriptionRegion = first :: rest) :
    stray? old new = Tag.ofLine? first := by
  rw [passage, if_neg (by simpa [List.isEmpty_iff] using descriptionRegion_ne_nil adds)] at cut
  rw [stray?, if_pos adds, cut]
  rfl

theorem passage_merge_description (readable : old.Readable) (adds : appends old new = true) :
    passage (old.merge new).description =
      lead old.description ++ passage new.descriptionRegion := by
  have region := descriptionRegion_ne_nil adds
  rw [merge_description readable, if_pos adds, lead]
  split
  · rfl
  · next filled =>
    have cut : splitLines ('\n' :: new.descriptionRegion) = [] :: splitLines new.descriptionRegion :=
      splitLines_append_newline [] new.descriptionRegion
    simp only [passage, List.isEmpty_iff, List.append_eq_nil_iff, reduceCtorEq, and_false, if_false,
      if_neg region]
    rw [if_neg (by simpa [List.isEmpty_iff] using filled), splitLines_append_newline, cut,
      List.append_cons]

theorem whole_merge_description (oldReadable : old.Readable) (newReadable : new.Readable) :
    Passage (passage (old.merge new).description) := by
  cases adds : appends old new with
  | false =>
      rw [merge_description oldReadable, adds]
      exact oldReadable.whole
  | true =>
      have region := newReadable.prose_descriptionRegion.whole
      rw [passage_merge_description oldReadable adds, lead]
      split
      · exact region
      · next filled =>
        rw [List.append_assoc]
        refine oldReadable.whole.append_gap region ?_ ?_
        · simpa [passage_eq_nil] using filled
        · exact mt passage_eq_nil.mp (descriptionRegion_ne_nil adds)

theorem trim_merge_description (oldReadable : old.Readable) (newReadable : new.Readable) :
    trim (old.merge new).description = (old.merge new).description := by
  rw [trim_eq_self_iff]
  constructor
  · rw [merge_description oldReadable]
    have start := (trim_eq_self_iff.mp oldReadable.trimmed).1
    split
    · split
      · exact (trim_eq_self_iff.mp newReadable.prose_descriptionRegion.trimmed).1
      · next filled =>
        rw [trimStart_append, start, if_neg (by simpa [List.isEmpty_iff] using filled)]
    · exact start
  · rw [← joinLines_passage (old.merge new).description]
    exact (whole_merge_description oldReadable newReadable).tidy_joinLines

theorem readable_of_mem_merge_tags (oldReadable : old.Readable) (newReadable : new.Readable) :
    ∀ tag ∈ (old.merge new).tags, tag.Readable := by
  intro tag member
  rcases List.mem_append.mp member with kept | carried
  · exact oldReadable.tags tag (List.mem_of_mem_filter kept)
  · exact newReadable.tags tag (List.mem_of_mem_filter carried)

theorem plain_lead (readable : old.Readable) :
    ∀ line ∈ lead old.description, Tag.ofLine? line = none := by
  intro line member
  unfold lead at member
  split at member
  · cases member
  · rcases List.mem_append.mp member with before | last
    · exact readable.plain line before
    · rw [List.mem_singleton.mp last]
      rfl

theorem trim_joinLines_lead (readable : old.Readable) :
    trim (joinLines (lead old.description)) = old.description := by
  unfold lead
  split
  · next empty => rw [List.isEmpty_iff.mp empty]; rfl
  · next filled =>
    have lines : passage old.description ≠ [] := by simpa [passage_eq_nil] using filled
    rw [joinLines_append lines (List.cons_ne_nil _ _), joinLines_passage, ← trim_trimEnd,
      trimEnd_append]
    exact (trim_trimEnd _).trans readable.trimmed

/-- A merged comment whose description starts no tag is read as what was merged. -/
theorem read_render_merge (oldReadable : old.Readable) (newReadable : new.Readable)
    (straight : stray? old new = none) :
    read (old.merge new).render = (old.merge new).flush.escaped := by
  have tags := readable_of_mem_merge_tags oldReadable newReadable
  have whole := whole_merge_description oldReadable newReadable
  have region := newReadable.prose_descriptionRegion
  refine (read_render whole tags).trans (congrArg escaped (ofLines_lines ?_ ?_ tags))
  · exact trim_merge_description oldReadable newReadable
  · cases adds : appends old new with
    | false =>
        rw [merge_description oldReadable, adds]
        exact oldReadable.plain
    | true =>
        obtain ⟨first, rest, cut⟩ :=
          List.exists_cons_of_ne_nil (mt passage_eq_nil.mp (descriptionRegion_ne_nil adds))
        rw [stray?_of_appends adds cut] at straight
        rw [passage_merge_description oldReadable adds, cut]
        intro line member
        rcases List.mem_append.mp member with before | here
        · exact plain_lead oldReadable line before
        · rcases List.mem_cons.mp here with rfl | later
          · exact straight
          · exact region.plain line (by rwa [cut])

/-- A merged comment whose description starts a tag is read with that tag in front. -/
theorem read_render_merge_of_stray (oldReadable : old.Readable) (newReadable : new.Readable)
    {tag : Tag} (astray : stray? old new = some tag) :
    ∃ text, read (old.merge new).render =
      (⟨old.description, ⟨tag.name, text⟩ :: (old.merge new).tags.map Tag.flush⟩ : Block).escaped := by
  have tags := readable_of_mem_merge_tags oldReadable newReadable
  have whole := whole_merge_description oldReadable newReadable
  have region := newReadable.prose_descriptionRegion
  have adds := appends_of_stray astray
  obtain ⟨first, rest, cut⟩ :=
    List.exists_cons_of_ne_nil (mt passage_eq_nil.mp (descriptionRegion_ne_nil adds))
  rw [stray?_of_appends adds cut] at astray
  have plain : ∀ line ∈ rest, Tag.ofLine? line = none := by simpa [cut] using region.plain
  have lines : passage (old.merge new).description = lead old.description ++ first :: rest := by
    rw [passage_merge_description oldReadable adds, cut]
  have made := ofLines_lines_of_tag lines (plain_lead oldReadable) astray plain tags
  rw [trim_joinLines_lead oldReadable] at made
  exact ⟨_, (read_render whole tags).trans (congrArg escaped made)⟩

theorem filter_survives_own {tags : List Tag} (own : ∀ tag ∈ tags, tag ∈ new.tags) :
    tags.filter new.survives = [] := by
  rw [List.filter_eq_nil_iff]
  intro tag member
  have named : tag.name ∈ new.tagNames := List.mem_map_of_mem (own tag member)
  simp [survives, named]

/-- Of the tags of a merged comment, those that a merge with the same generated comment keeps are
    the existing ones again. -/
theorem filter_survives_merge (old new : Block) :
    (old.merge new).tags.filter new.survives = old.tags.filter new.survives := by
  have carried : (new.tags.filter carries).filter new.survives = [] :=
    filter_survives_own fun tag member => List.mem_of_mem_filter member
  have tags : (old.merge new).tags = old.tags.filter new.survives ++ new.tags.filter carries := rfl
  rw [tags, List.filter_append, carried, List.filter_filter, List.append_nil]
  simp

theorem filter_survives_map (new : Block) (change : Tag → Tag)
    (named : ∀ tag, (change tag).name = tag.name) (tags : List Tag) :
    (tags.map change).filter new.survives = (tags.filter new.survives).map change := by
  have same : new.survives ∘ change = new.survives :=
    funext fun tag => by simp [survives, named tag]
  rw [List.filter_map, same]

/-- So it is once the merged comment has been rendered and read back. -/
theorem filter_survives_reread (old new : Block) :
    (((old.merge new).tags.map Tag.flush).map Tag.escaped).filter new.survives =
      ((old.tags.filter new.survives).map Tag.flush).map Tag.escaped := by
  rw [filter_survives_map new Tag.escaped fun _ => rfl,
    filter_survives_map new Tag.flush fun _ => rfl, filter_survives_merge]

end Merged

/-- Nothing in a comment that is closed at its end only needs escaping. -/
theorem escaped_read {text : Text} (block : isBlock text = true) :
    (read text).escaped = read text := by
  rw [read_eq_ofLines, ← ofLines_escaped, map_escapeTerminators_contentLines block]

/-- What a merge keeps of a comment, told of the contents read before and after. -/
structure Keeps (before generated after : Block) : Prop where
  description : before.description <+: after.description
  tags : ∃ added,
    (added = [] ∨ ∃ tag, stray? before generated = some tag ∧ added.map Tag.name = [tag.name]) ∧
    (after.tags.filter generated.survives).map Tag.flush =
      added ++ (before.tags.filter generated.survives).map Tag.flush

theorem Keeps.refl (before generated : Block) : Keeps before generated before :=
  ⟨List.prefix_rfl, [], .inl rfl, rfl⟩

theorem keeps_merge {before generated : Block} (readable : before.Readable)
    (generatedReadable : generated.Readable) (unescaped : before.escaped = before) :
    Keeps before generated (read (before.merge generated).render) := by
  have description : escapeTerminators before.description = before.description :=
    congrArg Block.description unescaped
  have unclosed : Unclosed before.description :=
    description ▸ unclosed_escapeTerminators before.description
  have tags : before.tags.map Tag.escaped = before.tags := congrArg Block.tags unescaped
  have kept : ((((before.merge generated).tags.map Tag.flush).map Tag.escaped).filter
      generated.survives).map Tag.flush = (before.tags.filter generated.survives).map Tag.flush := by
    rw [filter_survives_reread, Tag.map_flush_escaped_flush,
      ← filter_survives_map _ Tag.escaped fun _ => rfl, tags]
  cases straight : stray? before generated with
  | none =>
      rw [read_render_merge readable generatedReadable straight]
      refine ⟨?_, [], .inl rfl, kept⟩
      have starts : before.description <+: (before.merge generated).description :=
        isPrefix_merge_description readable
      obtain ⟨rest, whole⟩ := starts
      have start := unclosed.prefix_escapeTerminators rest
      rwa [whole] at start
  | some tag =>
      obtain ⟨text, whole⟩ := read_render_merge_of_stray readable generatedReadable straight
      rw [whole]
      refine ⟨?_, ?_⟩
      · simp only [escaped, description]
        exact List.prefix_rfl
      · simp only [escaped, List.map_cons]
        by_cases sticky : generated.survives (Tag.escaped ⟨tag.name, text⟩) = true
        · rw [List.filter_cons_of_pos sticky, List.map_cons, kept]
          exact ⟨[Tag.flush (Tag.escaped ⟨tag.name, text⟩)], .inr ⟨tag, straight, rfl⟩, rfl⟩
        · rw [List.filter_cons_of_neg sticky, kept]
          exact ⟨[], .inl rfl, rfl⟩

end Block

namespace Reconciler

/-- Whatever reconciliation does to a comment that it may not overwrite, the place holds a comment
    that starts with the same description, and its sticky tags of no generated name are the same
    ones in the same order, with the same texts but for blanks in front. At most one tag, which
    the generated description starts with, is added before them. -/
theorem reconcile_keeps (rules : Reconciler) (slot : Slot) (existing generated : Text)
    (found : slot.current = some existing) (readable : Comment.isBlock existing = true)
    (spares : rules.policy.overwrites = false) :
    ∃ doc before after, (rules.reconcile slot generated).2.current = some doc ∧
      Block.parse existing = .ok before ∧ Block.parse doc = .ok after ∧
      Block.Keeps before (Block.read generated) after := by
  have before : Block.parse existing = .ok (Block.read existing) := by
    rw [Block.parse, if_pos readable]
  have reached := rules.effect slot generated
  generalize rules.reconcile slot generated = result at reached ⊢
  cases reached with
  | kept => exact ⟨existing, _, _, found, before, before, .refl _ _⟩
  | inserted _ bare => rw [found] at bare; cases bare
  | overwritten _ _ _ _ overwrites => rw [spares] at overwrites; cases overwrites
  | merged other _ same =>
      obtain rfl : existing = other := Option.some.inj (found.symm.trans same)
      have enclosed : Enclosed (mergedText existing generated) := enclosed_render _
      have kept := Block.keeps_merge (Block.readable_read existing) (Block.readable_read generated)
        (Block.escaped_read readable)
      refine ⟨mergedText existing generated, _, _, ?_, before, ?_, kept⟩
      · rw [enclosed.current_write]
      · rw [Block.parse, if_pos enclosed.isBlock_eq]
        rfl

/-- A comment with a task in two lines keeps it when a result is described. -/
theorem reconcile_keeps_task :
    Comment.isBlock "/** Adds.\n * @todo rename\n *   soon\n */".toList = true ∧
      ({} : Policy).overwrites = false ∧
      ∃ doc before after,
        (reconcile ⟨0, {}⟩ ⟨some "/** Adds.\n * @todo rename\n *   soon\n */".toList, none⟩
          "Adds numbers.\n@returns the sum".toList).2.current = some doc ∧
        Block.parse "/** Adds.\n * @todo rename\n *   soon\n */".toList = .ok before ∧
        Block.parse doc = .ok after ∧
        Block.Keeps before (Block.read "Adds numbers.\n@returns the sum".toList) after :=
  ⟨by decide, by decide, reconcile_keeps _ _ _ _ rfl (by decide) (by decide)⟩

end Reconciler

end Scholia
