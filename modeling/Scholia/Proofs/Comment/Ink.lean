import Scholia.Proofs.Comment.Wording
import Scholia.Reply

/-! # Nothing is lost and nothing is made up

The ink of a text is what it shows but blanks. A comment that is read and rendered anew shows the
ink of the lines it was read from, all of it and in the same order, with closing markers broken up.
So a text that does not end a comment early keeps its ink, and so does every reply that passes.
-/

namespace Scholia

open Text Comment

namespace Text

/-- The characters of a text that are no blanks. -/
def ink (text : Text) : Text :=
  text.filter fun c => !isBlank c

@[simp] theorem ink_nil : ink [] = [] := rfl

theorem ink_append (first second : Text) : ink (first ++ second) = ink first ++ ink second :=
  List.filter_append first second

theorem ink_cons_of_ink {c : Char} (inked : isBlank c = false) (text : Text) :
    ink (c :: text) = c :: ink text :=
  List.filter_cons_of_pos (by simp [inked])

theorem ink_cons_of_blank {c : Char} (blank : isBlank c = true) (text : Text) :
    ink (c :: text) = ink text :=
  List.filter_cons_of_neg (by simp [blank])

theorem ink_eq_self {text : Text} (inked : ∀ c ∈ text, isBlank c = false) : ink text = text :=
  List.filter_eq_self.mpr fun c member => by simp [inked c member]

/-- The ink of a text makes up its words. -/
theorem flatten_words (text : Text) : (words text).flatten = ink text := by
  induction text with
  | nil => rfl
  | cons c rest ih =>
      cases blank : isBlank c with
      | true => rw [words_cons_of_blank blank, ink_cons_of_blank blank, ih]
      | false =>
          rw [ink_cons_of_ink blank, ← ih]
          by_cases gap : ∀ d, rest.head? = some d → isBlank d = true
          · rw [words_cons_of_gap blank gap]
            rfl
          · simp only [not_forall, Bool.not_eq_true] at gap
            obtain ⟨d, next, ink⟩ := gap
            obtain ⟨tail, rfl⟩ := List.head?_eq_some_iff.mp next
            obtain ⟨word, others, same, -⟩ := exists_words_cons ink tail
            rw [words_cons_of_word blank ink same, same]
            rfl

theorem flatten_flatMap_words (texts : List Text) :
    (texts.flatMap words).flatten = texts.flatMap ink := by
  induction texts with
  | nil => rfl
  | cons text rest ih =>
      rw [List.flatMap_cons, List.flatten_append, flatten_words, ih, List.flatMap_cons]

theorem ink_trim (text : Text) : ink (trim text) = ink text := by
  rw [← flatten_words, words_trim, flatten_words]

theorem ink_joinLines (lines : List Text) : ink (joinLines lines) = lines.flatMap ink := by
  rw [← flatten_words, words_joinLines, flatten_flatMap_words]

end Text

namespace Comment

/-- The ink of the lines of a comment, markers left out. -/
def contentInk (text : Text) : Text :=
  (contentLines text).flatMap ink

theorem contentInk_eq (text : Text) : contentInk text = (contentWords text).flatten :=
  (flatten_flatMap_words _).symm

theorem unclosed_of_length_lt {text : Text} (short : text.length < terminator.length) :
    Unclosed text :=
  fun occurs => Nat.not_lt.mpr occurs.length_le short

/-- No closing marker is left in a text without its markers, if none stands before its end. -/
theorem unclosed_body {text : Text} (clean : hasInnerTerminator text = false) :
    Unclosed (withoutTerminator (withoutOpener (trim text))) := by
  have unclosed : Unclosed (withoutTerminator (trim text)) := by
    rwa [hasInnerTerminator, ← Bool.not_eq_true, occursIn_iff] at clean
  generalize trim text = whole at unclosed ⊢
  have inside := withoutOpener_isSuffix whole
  by_cases ends : terminator <:+ withoutOpener whole
  · obtain ⟨body, same⟩ := ends
    obtain ⟨front, rfl⟩ := same ▸ inside
    rw [← List.append_assoc, withoutTerminator_append] at unclosed
    rw [← same, withoutTerminator_append]
    exact unclosed.of_isInfix (List.suffix_append front body).isInfix
  · rw [withoutTerminator_of_not_isSuffix ends]
    by_cases closes : terminator <:+ whole
    -- The markers overlap, and what follows the opening one is too short to close anything.
    · refine unclosed_of_length_lt (Nat.not_le.mp fun long => ends ?_)
      exact List.suffix_of_suffix_length_le closes inside long
    · rw [withoutTerminator_of_not_isSuffix closes] at unclosed
      exact unclosed.of_isInfix inside.isInfix

/-- So are the lines of its content. -/
theorem map_escapeTerminators_of_clean {text : Text} (clean : hasInnerTerminator text = false) :
    (contentLines text).map escapeTerminators = contentLines text := by
  have same : ∀ line ∈ contentLines text, escapeTerminators line = line := by
    intro line member
    obtain ⟨source, inside, rfl⟩ := List.mem_map.mp (mem_of_mem_dropBlankEnds member)
    have part := isInfix_joinLines inside
    rw [joinLines_splitLines] at part
    have unclosed := (unclosed_body clean).of_isInfix ((stripStar_isInfix source).trans part)
    exact unclosed.escapeTerminators_eq
  rw [List.map_congr_left same, List.map_id']

end Comment

namespace Tag

theorem flatten_words (tag : Tag) : tag.words.flatten = '@' :: tag.name ++ ink tag.text := by
  rw [words, List.flatten_cons, Text.flatten_words]

/-- A line that starts a tag has the ink of the tag. -/
theorem flatten_words_of_ofLine? {line : Text} {tag : Tag} (starts : ofLine? line = some tag) :
    tag.words.flatten = ink line := by
  obtain ⟨first, rest, whole, letter, rfl⟩ := exists_of_ofLine?_eq_some starts
  have name : ink (rest.takeWhile isNameChar) = rest.takeWhile isNameChar :=
    ink_eq_self fun c member => isBlank_of_isNameChar (List.mem_takeWhile_imp member)
  have parts : ink rest = rest.takeWhile isNameChar ++ ink (rest.dropWhile isNameChar) := by
    rw [← name, ← ink_append, List.takeWhile_append_dropWhile]
  rw [flatten_words, ink_trim, ← ink_trim line, whole, ink_cons_of_ink (by decide),
    ink_cons_of_ink (isBlank_of_isAlpha letter), parts]
  rfl

theorem flatten_words_addLine (tag : Tag) (line : Text) :
    (tag.addLine line).words.flatten = tag.words.flatten ++ ink line := by
  rw [flatten_words, flatten_words, List.append_assoc]
  refine congrArg ('@' :: tag.name ++ ·) ?_
  cases empty : tag.text with
  | nil => simp [addLine, empty]
  | cons c text =>
      have added : (tag.addLine line).text = (c :: text) ++ '\n' :: line := by
        simp [addLine, empty]
      rw [added, ink_append, ink_cons_of_blank (c := '\n') (by decide)]

end Tag

namespace Block

/-- The ink of the description lines and of the tags that were made so far. -/
def inkOf (state : List Text × List Tag) : Text :=
  state.1.flatMap ink ++ (state.2.flatMap Tag.words).flatten

theorem inkOf_addLine (state : List Text × List Tag) (line : Text) :
    inkOf (addLine state line) = inkOf state ++ ink line := by
  obtain ⟨description, tags⟩ := state
  cases starts : Tag.ofLine? line with
  | some tag => simp [addLine, starts, inkOf, Tag.flatten_words_of_ofLine? starts]
  | none =>
      rcases List.eq_nil_or_concat tags with rfl | ⟨before, last, rfl⟩
      · simp [addLine, starts, inkOf]
      · simp [addLine, starts, inkOf, addToLastTag_append, Tag.flatten_words_addLine]

theorem inkOf_foldl (lines : List Text) (state : List Text × List Tag) :
    inkOf (lines.foldl addLine state) = inkOf state ++ lines.flatMap ink := by
  induction lines generalizing state with
  | nil => simp
  | cons line rest ih =>
      rw [List.foldl_cons, ih, inkOf_addLine, List.append_assoc, List.flatMap_cons]

/-- The content that lines make up has their ink. -/
theorem flatten_words_ofLines (lines : List Text) :
    (ofLines lines).words.flatten = lines.flatMap ink := by
  have folded := inkOf_foldl lines ([], [])
  generalize made : lines.foldl addLine ([], []) = state at folded
  obtain ⟨description, tags⟩ := state
  have trimmed : tags.flatMap (fun tag => Tag.words { tag with text := trimEnd tag.text }) =
      tags.flatMap Tag.words :=
    List.flatMap_congr fun tag _ => congrArg (('@' :: tag.name) :: ·) (words_trimEnd tag.text)
  rw [ofLines, made, words, List.flatten_append, Text.flatten_words, ink_trim, ink_joinLines,
    List.flatMap_map, trimmed]
  simpa [inkOf] using folded

theorem words_escaped {block : Block} (named : ∀ tag ∈ block.tags, Tag.IsName tag.name) :
    block.escaped.words = block.words.map escapeTerminators := by
  have tags : block.escaped.tags.flatMap Tag.words =
      (block.tags.flatMap Tag.words).map escapeTerminators := Tag.flatMap_words_escaped named
  rw [words, tags, words, List.map_append, ← words_escapeTerminators]
  rfl

/-- A comment that is read and rendered anew has the ink of its lines, with their closing markers
    broken up. -/
theorem contentInk_render_read (text : Text) :
    contentInk (read text).render = ((contentLines text).map escapeTerminators).flatMap ink := by
  have readable := readable_read text
  have named : ∀ tag ∈ (read text).tags, Tag.IsName tag.name := fun tag member =>
    (readable.tags tag member).named
  rw [contentInk_eq, contentWords_render readable.whole readable.tags, ← words_escaped named,
    read_eq_ofLines, ← ofLines_escaped, flatten_words_ofLines]

end Block

/-- A reply that passes ends no comment early. -/
theorem Reply.clean_of_fault? {text : Text} (passes : fault? text = none) :
    hasInnerTerminator text = false := by
  unfold fault? at passes
  split at passes
  · cases passes
  · split at passes
    · cases passes
    · simpa using passes

namespace Comment

/-- A text without an early closing marker keeps its ink, all of it and in the same order, when it
    is read and rendered anew. So does every reply that passes when it is made a comment. -/
theorem contentInk_kept (text : Text) :
    (hasInnerTerminator text = false → contentInk (Block.read text).render = contentInk text) ∧
      (Reply.fault? text = none → contentInk (Block.wrap text) = contentInk text) := by
  have kept (clean : hasInnerTerminator text = false) :
      contentInk (Block.read text).render = contentInk text := by
    rw [Block.contentInk_render_read, map_escapeTerminators_of_clean clean, contentInk]
  refine ⟨kept, fun passes => ?_⟩
  unfold Block.wrap
  split
  · rw [contentInk, contentLines_trim, ← contentInk]
  · exact kept (Reply.clean_of_fault? passes)

/-- A reply without markers keeps its ink, a tag without a space after its name included. -/
theorem contentInk_kept_reply :
    hasInnerTerminator "Adds.\n@returns{number} 2 * a\n  or so".toList = false ∧
      Reply.fault? "Adds.\n@returns{number} 2 * a\n  or so".toList = none ∧
      contentInk (Block.read "Adds.\n@returns{number} 2 * a\n  or so".toList).render =
        contentInk "Adds.\n@returns{number} 2 * a\n  or so".toList ∧
      contentInk (Block.wrap "Adds.\n@returns{number} 2 * a\n  or so".toList) =
        contentInk "Adds.\n@returns{number} 2 * a\n  or so".toList := by
  obtain ⟨rendered, wrapped⟩ := contentInk_kept "Adds.\n@returns{number} 2 * a\n  or so".toList
  have clean : hasInnerTerminator "Adds.\n@returns{number} 2 * a\n  or so".toList = false := by
    decide
  have passes : Reply.fault? "Adds.\n@returns{number} 2 * a\n  or so".toList = none := by decide
  exact ⟨clean, passes, rendered clean, wrapped passes⟩

end Comment

end Scholia
