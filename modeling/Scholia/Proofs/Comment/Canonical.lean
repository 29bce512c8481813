import Scholia.Proofs.Comment.Content

/-! # Reading undoes writing

A content is canonical if its description and its tags have the form in which reading leaves them.
That is all it takes: the comment rendered for a content is read as that content, with its closing
markers broken up, if and only if the content is canonical.
-/

namespace Scholia

open Text Comment

/-- A tag as reading leaves it: its text is empty, or its first line has ink and no blanks around
    it, its last line is not empty, and the lines after the first have no blanks at their ends and
    start no tag. -/
structure Tag.Canonical (tag : Tag) : Prop where
  named : IsName tag.name
  starts : ∀ line, (passage tag.text).head? = some line → line ≠ [] ∧ trim line = line
  ends : (passage tag.text).getLast? ≠ some []
  tidy : ∀ line ∈ (passage tag.text).tail, Tidy line
  plain : ∀ line ∈ (passage tag.text).tail, ofLine? line = none

/-- A content as reading leaves it: its description is trimmed, no line of it has blanks at its end
    or starts a tag, and its tags are canonical. -/
structure Block.Canonical (block : Block) : Prop where
  trimmed : trim block.description = block.description
  tidy : ∀ line ∈ passage block.description, Tidy line
  plain : ∀ line ∈ passage block.description, Tag.ofLine? line = none
  tags : ∀ tag ∈ block.tags, tag.Canonical

namespace Tag

theorem flush_eq_iff {tag : Tag} : tag.flush = tag ↔ trimStart tag.text = tag.text :=
  ⟨congrArg Tag.text, congrArg (Tag.mk tag.name)⟩

theorem canonical_iff {tag : Tag} : tag.Canonical ↔ tag.Readable ∧ tag.flush = tag := by
  rw [flush_eq_iff]
  constructor
  · rintro ⟨named, starts, ends, tidy, plain⟩
    have whole : Passage (passage tag.text) := by
      refine ⟨fun _ => newline_not_mem_of_mem_passage, ?_, ?_, ends⟩
      · intro line member
        cases cut : passage tag.text with
        | nil => simp [cut] at member
        | cons first rest =>
            rw [cut] at member starts tidy
            rcases List.mem_cons.mp member with rfl | later
            · exact (trim_eq_self_iff.mp (starts line rfl).2).2
            · exact tidy line later
      · exact fun empty => (starts [] empty).1 rfl
    refine ⟨⟨named, whole, plain⟩, whole.flushFirst_eq_iff.mpr ?_⟩
    cases cut : passage tag.text with
    | nil => rfl
    | cons first rest =>
        have trimmed := (starts first (by rw [cut]; rfl)).2
        rw [flushFirst, (trim_eq_self_iff.mp trimmed).1]
  · rintro ⟨⟨named, whole, plain⟩, flushed⟩
    refine ⟨named, fun line first => ⟨?_, ?_⟩, whole.closes, ?_, plain⟩
    · rintro rfl
      exact whole.opens first
    · obtain ⟨rest, cut⟩ := List.head?_eq_some_iff.mp first
      have same := whole.flushFirst_eq_iff.mp flushed
      rw [cut, flushFirst] at same
      have tidy : Tidy line := whole.tidy line (by simp [cut])
      exact trim_eq_self_iff.mpr ⟨(List.cons.inj same).1, tidy⟩
    · exact fun line member => whole.tidy line (List.mem_of_mem_tail member)

theorem readable_of_escaped {tag : Tag} (readable : tag.escaped.Readable) : tag.Readable := by
  obtain ⟨named, whole, plain⟩ := readable
  have lines : passage tag.escaped.text = (passage tag.text).map escapeTerminators :=
    passage_escapeTerminators tag.text
  rw [lines] at whole plain
  refine ⟨named, ?_, fun line member => ?_⟩
  · exact (passage_map_escapeTerminators_iff fun _ => newline_not_mem_of_mem_passage).mp whole
  · have startless := plain (escapeTerminators line)
      (by rw [← List.map_tail]; exact List.mem_map_of_mem member)
    rwa [ofLine?_escapeTerminators, Option.map_eq_none_iff] at startless

end Tag

namespace Block

theorem flush_eq_iff {block : Block} :
    block.flush = block ↔ ∀ tag ∈ block.tags, tag.flush = tag := by
  have whole : block.flush = block ↔ block.tags.map Tag.flush = block.tags.map id := by
    rw [List.map_id]
    exact ⟨congrArg Block.tags, congrArg (Block.mk block.description)⟩
  exact whole.trans List.map_inj_left

/-- Canonical content is content that reading can yield, with no blanks in front of the texts of
    its tags. -/
theorem canonical_iff {block : Block} : block.Canonical ↔ block.Readable ∧ block.flush = block := by
  rw [flush_eq_iff]
  constructor
  · rintro ⟨trimmed, tidy, plain, tags⟩
    have parts := fun tag member => Tag.canonical_iff.mp (tags tag member)
    have whole := passage_of_trim_eq trimmed tidy
    exact ⟨⟨trimmed, whole, plain, fun tag member => (parts tag member).1⟩,
      fun tag member => (parts tag member).2⟩
  · rintro ⟨readable, flushed⟩
    exact ⟨readable.trimmed, readable.whole.tidy, readable.plain,
      fun tag member => Tag.canonical_iff.mpr ⟨readable.tags tag member, flushed tag member⟩⟩

theorem readable_of_escaped {block : Block} (readable : block.escaped.Readable) :
    block.Readable := by
  obtain ⟨trimmed, whole, plain, tags⟩ := readable
  have lines : passage block.escaped.description =
      (passage block.description).map escapeTerminators := passage_escapeTerminators _
  rw [lines] at whole plain
  refine ⟨trim_escapeTerminators_iff.mp trimmed, ?_, fun line member => ?_, fun tag member => ?_⟩
  · exact (passage_map_escapeTerminators_iff fun _ => newline_not_mem_of_mem_passage).mp whole
  · have startless := plain _ (List.mem_map_of_mem member)
    rwa [Tag.ofLine?_escapeTerminators, Option.map_eq_none_iff] at startless
  · exact Tag.readable_of_escaped (tags _ (List.mem_map_of_mem member))

theorem flush_eq_of_escaped {block : Block} (same : block.flush.escaped = block.escaped) :
    block.flush = block := by
  rw [flush_eq_iff]
  intro tag member
  have tags : block.tags.map (Tag.escaped ∘ Tag.flush) = block.tags.map Tag.escaped := by
    rw [← List.map_map]
    exact congrArg Block.tags same
  have text : escapeTerminators (trimStart tag.text) = escapeTerminators tag.text :=
    congrArg Tag.text (List.map_inj_left.mp tags tag member)
  rw [← trimStart_escapeTerminators, trimStart_escapeTerminators_iff] at text
  exact Tag.flush_eq_iff.mpr text

/-- A rendered comment is read as the content it was rendered for, with its closing markers broken
    up, if and only if the content is canonical. -/
theorem parse_render_iff (block : Block) :
    parse block.render = .ok block.escaped ↔ block.Canonical := by
  have accepted : parse block.render = .ok (read block.render) := by
    rw [parse, if_pos (enclosed_render block).isBlock_eq]
  rw [accepted, Except.ok.injEq, canonical_iff]
  constructor
  · intro same
    have readable : block.Readable := readable_of_escaped (same ▸ readable_read block.render)
    rw [readable.read_render] at same
    exact ⟨readable, flush_eq_of_escaped same⟩
  · rintro ⟨readable, flushed⟩
    rw [readable.read_render, flushed]

end Block

end Scholia
