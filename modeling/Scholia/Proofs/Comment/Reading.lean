import Scholia.Proofs.Comment.Containment
import Scholia.Proofs.Comment.Tag

/-! # Reading back what is rendered

The content of a comment is made of its lines, one after the other. Rendering a content whose lines
are a passage and reading the comment gives the content that these lines make up, with its closing
markers broken up. Every content that was read itself comes back this way, but for blanks in front
of the texts of its tags.
-/

namespace Scholia

open Text Comment

namespace Comment

/-! ## Lines of content -/

theorem stripStar_isInfix (line : Text) : stripStar line <:+: line := by
  refine List.IsInfix.trans ?_ (trim_isInfix line)
  unfold stripStar
  split
  · next rest whole =>
    rw [whole]
    exact (trimEnd_isPrefix rest).isInfix.trans (List.suffix_append ['*', ' '] rest).isInfix
  · next rest _ whole =>
    rw [whole]
    exact (trimEnd_isPrefix rest).isInfix.trans (List.suffix_cons '*' rest).isInfix
  · exact List.infix_refl _

theorem tidy_stripStar (line : Text) : Tidy (stripStar line) := by
  unfold stripStar
  split
  · exact trimEnd_trimEnd _
  · exact trimEnd_trimEnd _
  · exact trimEnd_trim _

theorem passage_contentLines (text : Text) : Passage (contentLines text) := by
  refine passage_dropBlankEnds ?_ ?_
  · intro line member
    obtain ⟨source, inside, rfl⟩ := List.mem_map.mp member
    exact fun feed =>
      newline_not_mem_of_mem_splitLines inside ((stripStar_isInfix source).subset feed)
  · intro line member
    obtain ⟨source, -, rfl⟩ := List.mem_map.mp member
    exact tidy_stripStar source

theorem Enclosed.contentLines_eq {body : Text} (enclosed : Enclosed (opener ++ body ++ terminator)) :
    contentLines (opener ++ body ++ terminator) =
      dropBlankEnds ((splitLines body).map stripStar) := by
  have opens : startsWith opener (opener ++ body ++ terminator) = true := by
    rw [startsWith, List.isPrefixOf_iff_prefix, List.append_assoc]
    exact List.prefix_append _ _
  have inner : withoutOpener (opener ++ body ++ terminator) = body ++ terminator := by
    rw [withoutOpener, if_pos opens]
    rfl
  rw [contentLines, enclosed.trim_eq, inner, withoutTerminator_append]

theorem contentLines_trim (text : Text) : contentLines (trim text) = contentLines text := by
  rw [contentLines, trim_trim, ← contentLines]

/-- No closing marker occurs in a line of a comment. -/
theorem unclosed_of_mem_contentLines {text line : Text} (block : isBlock text = true)
    (member : line ∈ contentLines text) : Unclosed line := by
  have enclosed := isBlock_iff.mp block
  rw [← contentLines_trim] at member
  obtain ⟨body, whole, unclosed⟩ := id enclosed
  rw [whole] at enclosed member
  rw [enclosed.contentLines_eq] at member
  obtain ⟨source, inside, rfl⟩ := List.mem_map.mp (mem_of_mem_dropBlankEnds member)
  have part : source <:+: body := by
    rw [← joinLines_splitLines body]
    exact isInfix_joinLines inside
  exact unclosed.of_isInfix
    ((stripStar_isInfix source).trans (part.trans (List.suffix_append _ _).isInfix))

theorem map_escapeTerminators_contentLines {text : Text} (block : isBlock text = true) :
    (contentLines text).map escapeTerminators = contentLines text := by
  have same : ∀ line ∈ contentLines text, escapeTerminators line = line :=
    fun line member => (unclosed_of_mem_contentLines block member).escapeTerminators_eq
  rw [List.map_congr_left same, List.map_id']

theorem stripStar_starred (line : Text) :
    stripStar (Block.starred line) = trimEnd (escapeTerminators line) := by
  have whole : trim (Block.starred line) = '*' :: trimEnd (' ' :: escapeTerminators line) := by
    rw [Block.starred, trim_trimEnd, trim, trimStart_of_blank (by decide),
      trimStart_of_ink (by decide), trimEnd_cons_of_ink (by decide)]
  have space : isBlank ' ' = true := rfl
  by_cases nothing : trimEnd (escapeTerminators line) = []
  · rw [trimEnd_cons, if_pos nothing, if_pos space] at whole
    rw [stripStar, whole, nothing]
    rfl
  · rw [trimEnd_cons, if_neg nothing] at whole
    rw [stripStar, whole]
    exact trimEnd_trimEnd _

theorem newline_not_mem_starred {line : Text} (unbroken : '\n' ∉ line) :
    '\n' ∉ Block.starred line := by
  intro feed
  have inside := (trimEnd_isPrefix _).subset feed
  simp [newline_not_mem_escapeTerminators unbroken] at inside

/-- The lines of a rendered comment, read back. -/
theorem contentLines_render {block : Block} (unbroken : ∀ line ∈ block.lines, '\n' ∉ line) :
    contentLines block.render =
      dropBlankEnds (block.lines.map fun line => trimEnd (escapeTerminators line)) := by
  by_cases content : block.lines = []
  · rw [Block.render, content]
    decide
  · have filled : block.lines.map Block.starred ≠ [] := by simpa using content
    have plain : ∀ line ∈ block.lines.map Block.starred, '\n' ∉ line := by
      intro line member
      obtain ⟨source, inside, rfl⟩ := List.mem_map.mp member
      exact newline_not_mem_starred (unbroken source inside)
    have cut : splitLines ('\n' :: joinLines (block.lines.map Block.starred) ++ ['\n', ' ']) =
        [] :: (block.lines.map Block.starred ++ [[' ']]) := by
      rw [splitLines_append_newline, ← List.nil_append ('\n' :: joinLines _),
        splitLines_append_newline, splitLines_joinLines plain filled]
      rfl
    have strip : (block.lines.map Block.starred).map stripStar =
        block.lines.map fun line => trimEnd (escapeTerminators line) := by
      rw [List.map_map]
      exact List.map_congr_left fun line _ => stripStar_starred line
    have enclosed := enclosed_render block
    rw [render_eq content] at enclosed ⊢
    rw [enclosed.contentLines_eq, cut, List.map_cons, List.map_append, strip,
      dropBlankEnds_cons (by decide), List.map_singleton, dropBlankEnds_concat (by decide)]

end Comment

namespace Block

/-! ## Content made of lines -/

theorem addToLastTag_append (line : Text) (tags : List Tag) (last : Tag) :
    addToLastTag line (tags ++ [last]) = tags ++ [last.addLine line] := by
  induction tags with
  | nil => rfl
  | cons tag rest ih =>
      cases rest with
      | nil => rfl
      | cons next rest => exact congrArg (tag :: ·) ih

/-- Lines before the first tag belong to the description. -/
theorem foldl_addLine_description {lines : List Text} (plain : ∀ line ∈ lines, Tag.ofLine? line = none)
    (description : List Text) :
    lines.foldl addLine (description, []) = (description ++ lines, []) := by
  induction lines generalizing description with
  | nil => simp
  | cons line rest ih =>
      have step : addLine (description, []) line = (description ++ [line], []) := by
        simp [addLine, plain line List.mem_cons_self]
      rw [List.foldl_cons, step, ih fun other member => plain other (List.mem_cons_of_mem _ member),
        List.append_assoc, List.singleton_append]

/-- Lines after a tag that start none extend it. -/
theorem foldl_addLine_extend {lines : List Text} (plain : ∀ line ∈ lines, Tag.ofLine? line = none)
    (description : List Text) (tags : List Tag) (last : Tag) :
    lines.foldl addLine (description, tags ++ [last]) = (description, tags ++ [last.extend lines]) := by
  induction lines generalizing last with
  | nil => rfl
  | cons line rest ih =>
      have step : addLine (description, tags ++ [last]) line =
          (description, tags ++ [last.addLine line]) := by
        simp [addLine, plain line List.mem_cons_self, addToLastTag_append]
      rw [List.foldl_cons, step, ih fun other member => plain other (List.mem_cons_of_mem _ member)]
      rfl

theorem foldl_addLine_tag {line : Text} {tag : Tag} (starts : Tag.ofLine? line = some tag)
    {lines : List Text} (plain : ∀ line ∈ lines, Tag.ofLine? line = none)
    (description : List Text) (tags : List Tag) :
    (line :: lines).foldl addLine (description, tags) =
      (description, tags ++ [tag.extend lines]) := by
  have step : addLine (description, tags) line = (description, tags ++ [tag]) := by
    simp [addLine, starts]
  rw [List.foldl_cons, step, foldl_addLine_extend plain]

/-- The lines of readable tags are read as these tags. -/
theorem foldl_addLine_tags {tags : List Tag} (readable : ∀ tag ∈ tags, tag.Readable)
    (description : List Text) (earlier : List Tag) :
    (tags.flatMap Tag.lines).foldl addLine (description, earlier) =
      (description, earlier ++ tags.map Tag.flush) := by
  induction tags generalizing earlier with
  | nil => simp
  | cons tag rest ih =>
      have here := readable tag List.mem_cons_self
      obtain ⟨first, others, cut, lines⟩ := tag.lines_eq
      rw [List.flatMap_cons, List.foldl_append, lines,
        foldl_addLine_tag (here.named.ofLine?_opening first) (here.plain_rest cut),
        here.extend_eq cut,
        ih fun other member => readable other (List.mem_cons_of_mem _ member)]
      simp

/-- The content that lines make up. -/
def ofLines (lines : List Text) : Block :=
  let (description, tags) := lines.foldl addLine ([], [])
  { description := trim (joinLines description)
    tags := tags.map fun tag => { tag with text := trimEnd tag.text } }

theorem read_eq_ofLines (text : Text) : read text = ofLines (contentLines text) := by
  rw [read, ofLines]

/-- The content with its closing markers broken up. -/
def escaped (block : Block) : Block where
  description := escapeTerminators block.description
  tags := block.tags.map Tag.escaped

theorem addToLastTag_escaped (line : Text) (tags : List Tag) :
    addToLastTag (escapeTerminators line) (tags.map Tag.escaped) =
      (addToLastTag line tags).map Tag.escaped := by
  rcases List.eq_nil_or_concat tags with rfl | ⟨before, last, rfl⟩
  · rfl
  · rw [List.concat_eq_append, List.map_append, List.map_singleton, addToLastTag_append,
      addToLastTag_append, List.map_append, List.map_singleton, Tag.addLine_escaped]

theorem foldl_addLine_escaped (lines : List Text) (description : List Text) (tags : List Tag) :
    (lines.map escapeTerminators).foldl addLine
        (description.map escapeTerminators, tags.map Tag.escaped) =
      let (description, tags) := lines.foldl addLine (description, tags)
      (description.map escapeTerminators, tags.map Tag.escaped) := by
  induction lines generalizing description tags with
  | nil => rfl
  | cons line rest ih =>
      rw [List.map_cons, List.foldl_cons, List.foldl_cons, ← ih]
      congr 1
      unfold addLine
      rw [Tag.ofLine?_escapeTerminators]
      cases Tag.ofLine? line with
      | some tag => simp
      | none =>
          simp only [Option.map_none, List.isEmpty_map]
          split
          · simp
          · simp [addToLastTag_escaped]

/-- Escaping the lines escapes the content. -/
theorem ofLines_escaped (lines : List Text) :
    ofLines (lines.map escapeTerminators) = (ofLines lines).escaped := by
  have folded := foldl_addLine_escaped lines [] []
  simp only [List.map_nil] at folded
  rw [ofLines, folded]
  simp only [ofLines, escaped, joinLines_map_escapeTerminators, trim_escapeTerminators,
    List.map_map]
  congr 1
  refine List.map_congr_left fun tag _ => ?_
  simp [Tag.escaped, trimEnd_escapeTerminators]

end Block

end Scholia
