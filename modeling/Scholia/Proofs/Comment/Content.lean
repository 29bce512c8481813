import Scholia.Proofs.Comment.Reading

/-! # Content that comes back

Content that was read is readable: its description and the texts of its tags are passages, and no
line of them starts a tag but where a tag starts. What readable content renders to is read as the
same content, and so is what it becomes when a description with more lines is put in front.
-/

namespace Scholia

open Text Comment

theorem ofLine?_trimStart (line : Text) : Tag.ofLine? (trimStart line) = Tag.ofLine? line := by
  rw [← Tag.ofLine?_trim, trim_trimStart, Tag.ofLine?_trim]

/-- A line that can stand inside a description or a tag. -/
structure Plain (line : Text) : Prop where
  unbroken : '\n' ∉ line
  tidy : Tidy line
  startless : Tag.ofLine? line = none

namespace Tag

/-- A tag put together from the line that starts it and from plain lines. -/
def Drafted (tag : Tag) : Prop :=
  ∃ line base rest, ofLine? line = some base ∧ '\n' ∉ line ∧ (∀ other ∈ rest, Plain other) ∧
    tag = base.extend rest

theorem Drafted.addLine {tag : Tag} (drafted : tag.Drafted) {line : Text} (plain : Plain line) :
    (tag.addLine line).Drafted := by
  obtain ⟨start, base, rest, starts, unbroken, plains, rfl⟩ := drafted
  refine ⟨start, base, rest ++ [line], starts, unbroken, ?_, ?_⟩
  · intro other member
    rcases List.mem_append.mp member with before | last
    · exact plains other before
    · rwa [List.mem_singleton.mp last]
  · rw [extend, extend, List.foldl_append]
    rfl

theorem mem_tail_of_isInfix {part whole : List Text} (inside : part <:+: whole) {line : Text}
    (member : line ∈ part.tail) : line ∈ whole.tail := by
  obtain ⟨before, after, rfl⟩ := inside
  cases before with
  | nil =>
      cases part with
      | nil => simp at member
      | cons first rest => simpa using .inl member
  | cons first before =>
      have inside : line ∈ part := List.mem_of_mem_tail member
      simp [inside]

/-- A drafted tag is readable once the end of its text is trimmed. -/
theorem Drafted.readable {tag : Tag} (drafted : tag.Drafted) :
    Readable { tag with text := trimEnd tag.text } := by
  obtain ⟨line, base, rest, starts, unbroken, plains, rfl⟩ := drafted
  have flat : ∀ other ∈ base.text :: rest, '\n' ∉ other := by
    refine List.forall_mem_cons.mpr ⟨newline_not_mem_of_ofLine? starts unbroken, ?_⟩
    exact fun other member => (plains other member).unbroken
  have tidy : ∀ other ∈ base.text :: rest, Tidy other := by
    refine List.forall_mem_cons.mpr ⟨?_, fun other member => (plains other member).tidy⟩
    rw [Tidy, ← trim_of_ofLine? starts, trimEnd_trim]
  have text : trimEnd (base.extend rest).text = joinLines (dropBlankEnds (base.text :: rest)) := by
    rw [extend_text, trimEnd_joinLines_dropWhile tidy]
  have whole : Passage (dropBlankEnds (base.text :: rest)) := passage_dropBlankEnds flat tidy
  refine ⟨?_, ?_, ?_⟩
  · rw [extend_name]
    exact isName_of_ofLine? starts
  · rwa [text, whole.passage_joinLines]
  · rw [text, whole.passage_joinLines]
    exact fun other member =>
      (plains other (mem_tail_of_isInfix (dropBlankEnds_isInfix _) member)).startless

end Tag

namespace Block

/-- The description lines and the tags that reading has made so far. -/
structure Draft (state : List Text × List Tag) : Prop where
  description : ∀ line ∈ state.1, Plain line
  tags : ∀ tag ∈ state.2, tag.Drafted

theorem Draft.addLine {state : List Text × List Tag} (draft : Draft state) {line : Text}
    (unbroken : '\n' ∉ line) (tidy : Tidy line) : Draft (addLine state line) := by
  obtain ⟨description, tags⟩ := state
  cases starts : Tag.ofLine? line with
  | some tag =>
      have here : tag.Drafted := ⟨line, tag, [], starts, unbroken, by simp, rfl⟩
      simp only [Block.addLine, starts]
      refine ⟨draft.description, fun other member => ?_⟩
      rcases List.mem_append.mp member with before | last
      · exact draft.tags other before
      · rwa [List.mem_singleton.mp last]
  | none =>
      have plain : Plain line := ⟨unbroken, tidy, starts⟩
      rcases List.eq_nil_or_concat tags with rfl | ⟨before, last, rfl⟩
      · simp only [Block.addLine, starts, List.isEmpty_nil, if_true]
        refine ⟨fun other member => ?_, draft.tags⟩
        rcases List.mem_append.mp member with before | here
        · exact draft.description other before
        · rwa [List.mem_singleton.mp here]
      · rw [List.concat_eq_append] at draft ⊢
        have filled : (before ++ [last]).isEmpty = false := by simp
        simp only [Block.addLine, starts, filled, addToLastTag_append]
        refine ⟨draft.description, fun other member => ?_⟩
        rcases List.mem_append.mp member with earlier | here
        · exact draft.tags other (List.mem_append_left _ earlier)
        · rw [List.mem_singleton.mp here]
          exact (draft.tags last (by simp)).addLine plain

theorem Draft.foldl {lines : List Text} (unbroken : ∀ line ∈ lines, '\n' ∉ line)
    (tidy : ∀ line ∈ lines, Tidy line) {state : List Text × List Tag} (draft : Draft state) :
    Draft (lines.foldl Block.addLine state) := by
  induction lines generalizing state with
  | nil => exact draft
  | cons line rest ih =>
      obtain ⟨flat, unbroken⟩ := List.forall_mem_cons.mp unbroken
      obtain ⟨neat, tidy⟩ := List.forall_mem_cons.mp tidy
      exact ih unbroken tidy (draft.addLine flat neat)

/-- Content that reading can yield. -/
structure Readable (block : Block) : Prop where
  trimmed : trim block.description = block.description
  whole : Passage (passage block.description)
  plain : ∀ line ∈ passage block.description, Tag.ofLine? line = none
  tags : ∀ tag ∈ block.tags, tag.Readable

/-- Reading yields readable content, whatever the text. -/
theorem readable_read (text : Text) : (read text).Readable := by
  have lines := passage_contentLines text
  have draft : Draft ((contentLines text).foldl addLine ([], [])) :=
    Draft.foldl lines.unbroken lines.tidy ⟨by simp, by simp⟩
  rw [read_eq_ofLines, ofLines]
  generalize (contentLines text).foldl addLine ([], []) = state at draft ⊢
  obtain ⟨description, tags⟩ := state
  have tidy : ∀ line ∈ description, Tidy line := fun line member =>
    (draft.description line member).tidy
  have whole : Passage (dropBlankEnds description) :=
    passage_dropBlankEnds (fun line member => (draft.description line member).unbroken) tidy
  refine ⟨trim_trim _, ?_, ?_, ?_⟩
  · simp only [trim_joinLines tidy, whole.flushFirst.passage_joinLines]
    exact whole.flushFirst
  · simp only [trim_joinLines tidy, whole.flushFirst.passage_joinLines]
    intro line member
    obtain ⟨source, inside, same⟩ := mem_flushFirst member
    have plain := (draft.description source (mem_of_mem_dropBlankEnds inside)).startless
    rcases same with rfl | rfl
    · exact plain
    · rwa [ofLine?_trimStart]
  · intro tag member
    obtain ⟨source, inside, rfl⟩ := List.mem_map.mp member
    exact (draft.tags source inside).readable

/-! ## Rendered content -/

/-- The empty line between a description and tags. -/
def gap (block : Block) : List Text :=
  if block.description.isEmpty || block.tags.isEmpty then [] else [[]]

theorem gap_eq_or (block : Block) :
    block.gap = [] ∨ (block.gap = [[]] ∧ block.description ≠ [] ∧ block.tags ≠ []) := by
  unfold gap
  split
  · exact .inl rfl
  · next both =>
    simp only [Bool.or_eq_true, List.isEmpty_iff, not_or] at both
    exact .inr ⟨rfl, both⟩

theorem plain_gap (block : Block) : ∀ line ∈ block.gap, Tag.ofLine? line = none := by
  rcases block.gap_eq_or with without | ⟨single, -⟩
  · simp [without]
  · rw [single]
    exact List.forall_mem_singleton.mpr rfl

theorem lines_eq (block : Block) :
    block.lines = passage block.description ++ block.gap ++ block.tags.flatMap Tag.lines := by
  have empty : (passage block.description).isEmpty = block.description.isEmpty := by
    rw [Bool.eq_iff_iff, List.isEmpty_iff, List.isEmpty_iff, passage_eq_nil]
  have whole : block.lines =
      if (passage block.description).isEmpty || block.tags.isEmpty then
        passage block.description ++ block.tags.flatMap Tag.lines
      else passage block.description ++ [] :: block.tags.flatMap Tag.lines := rfl
  rw [whole, empty, gap]
  split <;> simp

/-- Content made of a passage and readable tags has a passage of lines. -/
theorem passage_lines {block : Block} (whole : Passage (passage block.description))
    (tags : ∀ tag ∈ block.tags, tag.Readable) : Passage block.lines := by
  have tagged : Passage (block.tags.flatMap Tag.lines) :=
    Passage.flatMap fun tag member => (tags tag member).passage_lines
  rw [block.lines_eq]
  rcases block.gap_eq_or with without | ⟨single, described, listed⟩
  · rw [without, List.append_nil]
    exact whole.append tagged
  · have filled : passage block.description ≠ [] := by
      rw [passage, if_neg (by simpa [List.isEmpty_iff] using described)]
      exact splitLines_ne_nil _
    have lined : block.tags.flatMap Tag.lines ≠ [] := by
      obtain ⟨tag, rest, cut⟩ := List.exists_cons_of_ne_nil listed
      obtain ⟨first, others, -, lines⟩ := tag.lines_eq
      simp [cut, lines]
    rw [single, List.append_assoc]
    exact whole.append_gap tagged filled lined

/-- What is read from a rendered comment is made up of its lines. -/
theorem read_render {block : Block} (whole : Passage (passage block.description))
    (tags : ∀ tag ∈ block.tags, tag.Readable) :
    read block.render = (ofLines block.lines).escaped := by
  have lines := passage_lines whole tags
  have tidy : (block.lines.map fun line => trimEnd (escapeTerminators line)) =
      block.lines.map escapeTerminators := by
    refine List.map_congr_left fun line member => ?_
    rw [trimEnd_escapeTerminators, lines.tidy line member]
  rw [read_eq_ofLines, contentLines_render lines.unbroken, tidy,
    (passage_map_escapeTerminators lines).dropBlankEnds_eq, ofLines_escaped]

theorem trim_joinLines_gap (block : Block) :
    trim (joinLines (passage block.description ++ block.gap)) = trim block.description := by
  rcases block.gap_eq_or with without | ⟨single, described, -⟩
  · rw [without, List.append_nil, joinLines_passage]
  · have filled : passage block.description ≠ [] := by
      rw [passage, if_neg (by simpa [List.isEmpty_iff] using described)]
      exact splitLines_ne_nil _
    rw [single, joinLines_append filled (List.cons_ne_nil _ _), joinLines_passage,
      ← trim_trimEnd, trimEnd_append]
    exact trim_trimEnd _

/-- The content with its tags flushed. -/
def flush (block : Block) : Block :=
  { block with tags := block.tags.map Tag.flush }

theorem map_trimEnd_flush {tags : List Tag} (readable : ∀ tag ∈ tags, tag.Readable) :
    ((tags.map Tag.flush).map fun tag => { tag with text := trimEnd tag.text }) =
      tags.map Tag.flush := by
  rw [List.map_map]
  refine List.map_congr_left fun tag member => ?_
  have tidy : Tidy tag.text := by
    rw [← joinLines_passage tag.text]
    exact (readable tag member).whole.tidy_joinLines
  exact congrArg (Tag.mk tag.name) tidy.trimStart

/-- A description whose lines start no tag is read as it is. -/
theorem ofLines_lines {block : Block} (trimmed : trim block.description = block.description)
    (plain : ∀ line ∈ passage block.description, Tag.ofLine? line = none)
    (tags : ∀ tag ∈ block.tags, tag.Readable) : ofLines block.lines = block.flush := by
  have front : ∀ line ∈ passage block.description ++ block.gap, Tag.ofLine? line = none := by
    intro line member
    exact (List.mem_append.mp member).elim (plain line) (block.plain_gap line)
  rw [block.lines_eq, ofLines, List.foldl_append, foldl_addLine_description front,
    foldl_addLine_tags tags]
  simp only [List.nil_append, trim_joinLines_gap, trimmed, map_trimEnd_flush tags]
  rfl

/-- A line of the description that starts a tag takes the rest of the description with it. -/
theorem ofLines_lines_of_tag {block : Block} {front rest : List Text} {line : Text} {tag : Tag}
    (cut : passage block.description = front ++ line :: rest)
    (before : ∀ line ∈ front, Tag.ofLine? line = none) (starts : Tag.ofLine? line = some tag)
    (after : ∀ line ∈ rest, Tag.ofLine? line = none) (tags : ∀ tag ∈ block.tags, tag.Readable) :
    ofLines block.lines = ⟨trim (joinLines front),
      ⟨tag.name, trimEnd (tag.extend (rest ++ block.gap)).text⟩ :: block.tags.map Tag.flush⟩ := by
  have plain : ∀ line ∈ rest ++ block.gap, Tag.ofLine? line = none := by
    intro other member
    exact (List.mem_append.mp member).elim (after other) (block.plain_gap other)
  have lines : block.lines = front ++ (line :: (rest ++ block.gap) ++ block.tags.flatMap Tag.lines) := by
    rw [block.lines_eq, cut]
    simp
  rw [lines, ofLines, List.foldl_append, foldl_addLine_description before, List.foldl_append,
    foldl_addLine_tag starts plain, foldl_addLine_tags tags]
  simp [map_trimEnd_flush tags]

/-- Readable content comes back from its comment. -/
theorem Readable.read_render {block : Block} (readable : block.Readable) :
    read block.render = block.flush.escaped := by
  rw [Block.read_render readable.whole readable.tags,
    ofLines_lines readable.trimmed readable.plain readable.tags]

end Block

end Scholia
