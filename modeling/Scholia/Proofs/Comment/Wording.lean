import Scholia.Proofs.Comment.Content
import Scholia.Proofs.Text.Words

/-! # The words of a comment

Comments are compared by nothing but the words of their content. Those of a rendered content are the
words of its description and, for each tag, the at sign with the name and the words of its text,
all with their closing markers broken up.
-/

namespace Scholia

open Text Comment

namespace Comment

theorem words_escapeTerminators (text : Text) :
    words (escapeTerminators text) = (words text).map escapeTerminators := by
  induction text with
  | nil => rfl
  | cons c rest ih =>
      cases blank : isBlank c with
      | true =>
          have star : c ≠ '*' := by rintro rfl; exact absurd blank (by decide)
          rw [escapeTerminators_cons, if_neg (by simp [star]), words_cons_of_blank blank,
            words_cons_of_blank blank, ih]
      | false =>
          by_cases gap : ∀ d, rest.head? = some d → isBlank d = true
          · have other : rest.head? ≠ some '/' := fun slash => absurd (gap _ slash) (by decide)
            rw [escapeTerminators_cons, if_neg (by simp [other]),
              words_cons_of_gap blank (by simpa using gap), words_cons_of_gap blank gap, ih]
            simp [escapeTerminators_cons, escapeTerminators_nil]
          · simp only [not_forall, Bool.not_eq_true] at gap
            obtain ⟨d, next, ink⟩ := gap
            obtain ⟨tail, rfl⟩ := List.head?_eq_some_iff.mp next
            obtain ⟨word, others, same, -⟩ := exists_words_cons ink tail
            obtain ⟨stem, escaped⟩ : ∃ stem, escapeTerminators (d :: tail) = d :: stem :=
              List.head?_eq_some_iff.mp (by rw [head?_escapeTerminators, List.head?_cons])
            -- The first character joins the first word; a backslash between them is no blank.
            rw [same, escaped, List.map_cons] at ih
            rw [words_cons_of_word blank ink same, List.map_cons, escapeTerminators_cons c,
              escapeTerminators_cons c, escaped, List.head?_cons, List.head?_cons]
            split
            · have slash : isBlank '\\' = false := by decide
              rw [words_cons_of_word blank slash (words_cons_of_word slash ink ih)]
            · exact words_cons_of_word blank ink ih

/-- The words by which comments are compared. -/
def contentWords (text : Text) : List Text :=
  (contentLines text).flatMap words

theorem normalize_eq (text : Text) : normalize text = join [' '] (contentWords text) := by
  have trimmed : (fun line => words (trim line)) = words := funext words_trim
  rw [normalize, trim_collapseBlanks, words_join (by decide), contentWords, List.flatMap_map,
    trimmed]
  refine congrArg (join [' ']) ?_
  induction contentLines text with
  | nil => rfl
  | cons line rest ih =>
      cases blank : isBlankText line with
      | true =>
          rw [List.filter_cons_of_neg (by simp [blank]), ih, List.flatMap_cons,
            words_eq_nil.mpr blank, List.nil_append]
      | false =>
          rw [List.filter_cons_of_pos (by simp [blank]), List.flatMap_cons, List.flatMap_cons, ih]

theorem normalize_trim (text : Text) : normalize (trim text) = normalize text := by
  rw [normalize_eq, contentWords, contentLines_trim, ← contentWords, ← normalize_eq]

/-- Comments are the same when they have the same words. -/
theorem normalize_eq_iff {first second : Text} :
    normalize first = normalize second ↔ contentWords first = contentWords second := by
  have back (text : Text) : words (normalize text) = contentWords text := by
    rw [normalize_eq, contentWords, ← words_joinLines, words_join_words]
  constructor
  · intro same
    rw [← back first, same, back second]
  · intro same
    rw [normalize_eq, same, ← normalize_eq]

end Comment

/-- The words that a tag is rendered with. -/
def Tag.words (tag : Tag) : List Text :=
  ('@' :: tag.name) :: Text.words tag.text

namespace Tag

theorem IsName.ink_sign {name : Text} (valid : IsName name) : ∀ c ∈ '@' :: name, isBlank c = false :=
  List.forall_mem_cons.mpr ⟨by decide, valid.ink⟩

theorem flatMap_words_lines {tag : Tag} (named : IsName tag.name) :
    tag.lines.flatMap Text.words = tag.words := by
  obtain ⟨first, rest, cut, lines⟩ := tag.lines_eq
  rw [lines, List.flatMap_cons, opening, words_trimEnd, words_append_cons (by decide),
    words_of_ink named.ink_sign (List.cons_ne_nil _ _), List.append_assoc, ← List.flatMap_cons,
    ← cut, flatMap_words_splitLines]
  rfl

theorem words_flush (tag : Tag) : tag.flush.words = tag.words :=
  congrArg (('@' :: tag.name) :: ·) (words_trimStart tag.text)

theorem IsName.unclosed_sign {name : Text} (valid : IsName name) : Unclosed ('@' :: name) := by
  refine unclosed_of_not_mem fun star => ?_
  obtain ⟨first, rest, rfl, letter, others⟩ := valid
  rcases List.mem_cons.mp star with sign | star
  · exact absurd sign (by decide)
  · rcases List.mem_cons.mp star with rfl | star
    · exact absurd letter (by decide)
    · exact absurd (others _ star) (by decide)

theorem words_escaped {tag : Tag} (named : IsName tag.name) :
    tag.escaped.words = tag.words.map escapeTerminators := by
  rw [words, words, List.map_cons, named.unclosed_sign.escapeTerminators_eq, escaped,
    words_escapeTerminators]

theorem flatMap_words_escaped {tags : List Tag} (named : ∀ tag ∈ tags, IsName tag.name) :
    (tags.map escaped).flatMap Tag.words = (tags.flatMap Tag.words).map escapeTerminators := by
  rw [List.flatMap_map, List.map_flatMap]
  exact List.flatMap_congr fun tag member => words_escaped (named tag member)

/-- A line whose first word is an at sign with a name starts a tag. -/
theorem IsName.ofLine?_ne_none {name line : Text} (valid : IsName name) {others : List Text}
    (first : Text.words line = ('@' :: name) :: others) : ofLine? line ≠ none := by
  rw [← words_trim] at first
  have start : '@' :: name <+: trim line := by
    have edge := List.head?_dropWhile_not isBlank (trim line)
    rw [← trimStart, trimStart_trim] at edge
    cases cut : trim line with
    | nil =>
        rw [cut] at first
        cases first
    | cons c rest =>
        rw [cut] at first edge
        obtain ⟨word, others, same, start⟩ := exists_words_cons (by simpa using edge) rest
        rw [first] at same
        rwa [(List.cons.inj same).1]
  obtain ⟨rest, whole⟩ := start
  obtain ⟨letter, others, rfl, alpha, -⟩ := valid
  rw [ofLine?_of_trim_eq whole.symm alpha]
  exact Option.some_ne_none _

end Tag

namespace Block

/-- The words that a content is rendered with. -/
def words (block : Block) : List Text :=
  Text.words block.description ++ block.tags.flatMap Tag.words

theorem flatMap_words_lines {block : Block} (named : ∀ tag ∈ block.tags, Tag.IsName tag.name) :
    block.lines.flatMap Text.words = block.words := by
  have description : (passage block.description).flatMap Text.words = Text.words block.description := by
    rw [← words_joinLines, joinLines_passage]
  have blank : block.gap.flatMap Text.words = [] := by
    rcases block.gap_eq_or with without | ⟨single, -⟩
    · rw [without, List.flatMap_nil]
    · rw [single]
      rfl
  rw [block.lines_eq, List.flatMap_append, List.flatMap_append, description, blank,
    List.append_nil, List.flatMap_assoc, words]
  exact congrArg (_ ++ ·)
    (List.flatMap_congr fun tag member => Tag.flatMap_words_lines (named tag member))

/-- A rendered comment has the words of its content. -/
theorem contentWords_render {block : Block} (whole : Passage (passage block.description))
    (tags : ∀ tag ∈ block.tags, tag.Readable) :
    contentWords block.render = block.words.map escapeTerminators := by
  have named : ∀ tag ∈ block.tags, Tag.IsName tag.name := fun tag member => (tags tag member).named
  have line (text : Text) : Text.words (trimEnd (escapeTerminators text)) =
      (Text.words text).map escapeTerminators := by
    rw [words_trimEnd, words_escapeTerminators]
  rw [contentWords, contentLines_render (passage_lines whole tags).unbroken,
    flatMap_words_dropBlankEnds, List.flatMap_map, ← flatMap_words_lines named, List.map_flatMap]
  exact List.flatMap_congr fun text _ => line text

end Block

end Scholia
