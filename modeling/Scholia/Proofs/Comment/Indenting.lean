import Scholia.Proofs.Comment.Alike

/-! # Indentation is not seen

Indenting a comment for the file changes blanks and the stars of lines, and neither is content. So
the indented comment has the content lines of the comment, it is a doc comment if the comment is
one, and reconciliation treats both alike. A second indentation changes nothing at all.
-/

namespace Scholia

open Text Comment

namespace Comment

/-! ## Indented lines -/

theorem indentBlock_eq_join {text indent newline first : Text} {others : List Text}
    (cut : (boundaryLines (trim text)).map trim = first :: others) :
    indentBlock text indent newline = join newline (first :: others.map (indentLine indent)) := by
  rw [indentBlock, cut]

theorem indentBlock_of_blank {text : Text} (blank : trim text = []) (indent newline : Text) :
    indentBlock text indent newline = [] := by
  rw [indentBlock, blank]
  rfl

/-- An indented line ends with ink, whatever the line. -/
theorem tidy_indentLine (indent : Text) {line : Text} (trimmed : trim line = line) :
    indentLine indent line ≠ [] ∧ Tidy (indentLine indent line) := by
  have tidy : Tidy line := (trim_eq_self_iff.mp trimmed).2
  unfold indentLine
  split
  · have star : Tidy ['*'] := show trimEnd ['*'] = ['*'] by decide
    exact ⟨by simp, star.of_end ⟨indent ++ [' '], by simp⟩ (by simp)⟩
  · next rest => exact ⟨by simp, tidy.of_end ⟨indent ++ [' '], by simp⟩ (by simp)⟩
  · next filled _ => exact ⟨by simp, tidy.of_end ⟨indent ++ [' ', '*', ' '], by simp⟩ filled⟩

theorem trim_join_indented {first : Text} {others : List Text} (trimmed : trim first = first)
    (filled : first ≠ []) (lines : ∀ line ∈ others, trim line = line) (indent newline : Text) :
    trim (join newline (first :: others.map (indentLine indent))) =
      join newline (first :: others.map (indentLine indent)) := by
  have starts : trimStart first = first := (trim_eq_self_iff.mp trimmed).1
  rw [trim_eq_self_iff]
  rcases List.eq_nil_or_concat others with rfl | ⟨mid, last, rfl⟩
  · rw [List.map_nil, join, List.intercalate_singleton]
    exact trim_eq_self_iff.mp trimmed
  · rw [List.concat_eq_append, List.map_append, List.map_singleton, ← List.cons_append]
    constructor
    · rw [List.cons_append, join_cons _ _ (by simp), List.append_assoc, trimStart_append, starts,
        if_neg filled]
    · obtain ⟨ends, tidy⟩ := tidy_indentLine indent (lines last (by simp))
      exact tidy.of_end (isSuffix_join _ _ _) ends

/-- A line is indented to the same line again. -/
theorem indentLine_again {indent : Text} (blank : isBlankText indent = true) {line : Text}
    (trimmed : trim line = line) :
    indentLine indent (trim (indentLine indent line)) = indentLine indent line := by
  have starts : trimStart line = line := (trim_eq_self_iff.mp trimmed).1
  cases line with
  | nil =>
      have star : trim (indent ++ [' ', '*']) = ['*'] := trim_indent_append blank ['*']
      simp [indentLine, star]
  | cons c rest =>
      by_cases star : c = '*'
      · subst star
        have same : trim (indent ++ ' ' :: '*' :: rest) = '*' :: rest :=
          (trim_indent_append blank _).trans trimmed
        simp [indentLine, same]
      · have starred : indentLine indent (c :: rest) = indent ++ ' ' :: '*' :: ' ' :: c :: rest :=
          indentLine.eq_3 _ _ (by simp) fun tail same => star (List.cons.inj same).1
        have ends : Tidy (c :: rest) := (trim_eq_self_iff.mp trimmed).2
        have tidy : Tidy ('*' :: ' ' :: c :: rest) := ends.of_end ⟨['*', ' '], rfl⟩ (by simp)
        have same : trim (indent ++ ' ' :: '*' :: ' ' :: c :: rest) = '*' :: ' ' :: c :: rest := by
          rw [trim_indent_append blank]
          exact trim_eq_self_iff.mpr ⟨trimStart_of_ink (by decide) _, tidy⟩
        rw [indentLine_of_ne star, same]
        rfl

/-- The lines that are indented are trimmed, and the first of them is not empty. -/
theorem lines_of_filled {text : Text} (filled : trim text ≠ []) :
    ∃ first others, (boundaryLines (trim text)).map trim = first :: others ∧ first ≠ [] ∧
      ∀ line ∈ first :: others, trim line = line ∧ ∀ c ∈ line, isLineBoundary c = false := by
  obtain ⟨c, rest, whole⟩ := List.exists_cons_of_ne_nil filled
  have ink : isBlank c = false := by
    refine trimStart_eq_self_iff.mp (trimStart_trim text) c ?_
    rw [whole, List.head?_cons]
  have inner : isLineBoundary c = false := by
    by_contra boundary
    rw [isBlank_of_isLineBoundary (by simpa using boundary)] at ink
    cases ink
  obtain ⟨line, more, cut⟩ : ∃ line more, boundaryLines (trim text) = (c :: line) :: more := by
    rw [whole, boundaryLines_cons_of_inner inner]
    cases boundaryLines rest with
    | nil => exact ⟨[], [], rfl⟩
    | cons line more => exact ⟨line, more, rfl⟩
  refine ⟨trim (c :: line), more.map trim, by rw [cut]; rfl, ?_, ?_⟩
  · rw [trim, trimStart_of_ink ink, trimEnd_cons_of_ink ink]
    simp
  · rw [← List.map_cons, ← cut]
    intro trimmed member
    obtain ⟨line, inside, rfl⟩ := List.mem_map.mp member
    exact ⟨trim_trim line, fun c within =>
      inner_of_mem_boundaryLines inside c ((trim_isInfix line).subset within)⟩

/-- The characters that indenting a line adds. -/
theorem mem_indentLine {indent line : Text} {c : Char} (member : c ∈ indentLine indent line) :
    c ∈ indent ∨ c = ' ' ∨ c = '*' ∨ c ∈ line := by
  unfold indentLine at member
  split at member <;>
    simp only [List.mem_append, List.mem_cons, List.not_mem_nil, or_false] at member ⊢ <;> tauto

theorem inner_indentLine {indent line : Text} (indents : ∀ c ∈ indent, isLineBoundary c = false)
    (inner : ∀ c ∈ line, isLineBoundary c = false) :
    ∀ c ∈ indentLine indent line, isLineBoundary c = false := by
  intro c member
  rcases mem_indentLine member with here | rfl | rfl | there
  · exact indents c here
  · decide
  · decide
  · exact inner c there

/-- Where line feeds are the only line boundaries, the lines that are indented are those that the
    content is taken from. -/
theorem map_trim_boundaryLines {text : Text} (feeds : FeedsOnly text) (filled : trim text ≠ []) :
    (boundaryLines (trim text)).map trim = (splitLines (trim text)).map trim := by
  have ends : (fun line => trimStart (trimEnd line)) = trim := funext trimStart_trimEnd
  have same := map_trimEnd_boundaryLines feeds.trim (trimEnd_trim text) filled
  simpa [ends, Function.comp_def] using congrArg (List.map trimStart) same

/-- A comment of one line is only trimmed; of more lines, each after the first is indented. -/
theorem indentBlock_cases {text : Text} (feeds : FeedsOnly text) (indent newline : Text) :
    indentBlock text indent newline = trim text ∨
      ∃ first mid last, splitLines (trim text) = first :: mid ++ [last] ∧
        indentBlock text indent newline = join newline
          (trim first :: ((mid ++ [last]).map trim).map (indentLine indent)) := by
  by_cases empty : trim text = []
  · exact .inl ((indentBlock_of_blank empty indent newline).trans empty.symm)
  obtain ⟨first, others, cut⟩ := List.exists_cons_of_ne_nil (splitLines_ne_nil (trim text))
  have lines := map_trim_boundaryLines feeds empty
  rw [cut, List.map_cons] at lines
  rcases List.eq_nil_or_concat others with rfl | ⟨mid, last, rfl⟩
  · have only : first = trim text := by
      rw [← joinLines_splitLines (trim text), cut, joinLines_singleton]
    left
    rw [indentBlock_eq_join lines, only, trim_trim]
    exact List.intercalate_singleton
  · rw [List.concat_eq_append] at cut lines
    exact .inr ⟨first, mid, last, cut, indentBlock_eq_join lines⟩

section Lines

variable {text first last : Text} {mid : List Text}
  (cut : splitLines (trim text) = first :: mid ++ [last])

include cut

/-- The lines of an indented comment, without what stands in front of the line feeds. -/
theorem splitLines_indented {indent ret : Text} (unbroken : '\n' ∉ indent) (plain : '\n' ∉ ret) :
    splitLines (trim (join (ret ++ ['\n'])
        (trim first :: ((mid ++ [last]).map trim).map (indentLine indent)))) =
      (trim first ++ ret) :: mid.map (fun line => indentLine indent (trim line) ++ ret) ++
        [indentLine indent (trim last)] := by
  have flat : ∀ line ∈ first :: mid ++ [last], '\n' ∉ trim line := fun line member feed =>
    newline_not_mem_of_mem_splitLines (cut ▸ member) ((trim_isInfix line).subset feed)
  obtain ⟨starts, filled⟩ := starts_of_lines cut
  have ink : trim first ≠ [] := by
    obtain ⟨c, rest, rfl⟩ := List.exists_cons_of_ne_nil filled
    rw [trim, starts, trimEnd_cons_of_ink (trimStart_eq_self_iff.mp starts c rfl)]
    simp
  have unfed : ∀ line ∈ mid ++ [last], '\n' ∉ indentLine indent (trim line) := by
    intro line member feed
    rcases mem_indentLine feed with here | space | star | there
    · exact unbroken here
    · cases space
    · cases star
    · exact flat line (List.mem_cons_of_mem _ member) there
  rw [trim_join_indented (trim_trim first) ink (by simp [or_imp, forall_and]), List.map_append,
    List.map_append, List.map_singleton, List.map_singleton, ← List.cons_append,
    splitLines_join plain]
  · simp
  · have opening := flat first (by simp)
    simpa [or_imp, forall_and, opening] using unfed

end Lines

section Reread

variable {text indent newline : Text} (blank : isBlankText indent = true)
  (ending : newline = ['\n'] ∨ newline = ['\r', '\n'])

include blank ending

/-- A second indentation changes nothing, if the first one brings in no line boundaries. -/
theorem indentBlock_again (inner : ∀ c ∈ indent, isLineBoundary c = false) :
    indentBlock (indentBlock text indent newline) indent newline =
      indentBlock text indent newline := by
  by_cases empty : trim text = []
  · rw [indentBlock_of_blank empty]
    exact indentBlock_of_blank rfl indent newline
  obtain ⟨first, others, cut, filled, lines⟩ := lines_of_filled empty
  obtain ⟨⟨trimmed, whole⟩, later⟩ := List.forall_mem_cons.mp lines
  rw [indentBlock_eq_join cut]
  have reread : boundaryLines (join newline (first :: others.map (indentLine indent))) =
      first :: others.map (indentLine indent) := by
    refine boundaryLines_join ending (List.forall_mem_cons.mpr ⟨whole, ?_⟩)
      (List.forall_mem_cons.mpr ⟨filled, ?_⟩)
    · intro indented member
      obtain ⟨line, inside, rfl⟩ := List.mem_map.mp member
      exact inner_indentLine inner (later line inside).2
    · intro indented member
      obtain ⟨line, inside, rfl⟩ := List.mem_map.mp member
      exact (tidy_indentLine indent (later line inside).1).1
  have again : (boundaryLines (trim (join newline (first :: others.map (indentLine indent))))).map
      trim = first :: others.map (trim ∘ indentLine indent) := by
    rw [trim_join_indented trimmed filled (fun line inside => (later line inside).1), reread,
      List.map_cons, trimmed, List.map_map]
  rw [indentBlock_eq_join again, List.map_map]
  refine congrArg (join newline <| first :: ·) (List.map_congr_left fun line inside => ?_)
  exact indentLine_again blank (later line inside).1

end Reread

/-! ## Reconciliation does not see it -/

section Unseen

variable {text indent newline : Text} (feeds : FeedsOnly text) (blank : isBlankText indent = true)
  (unbroken : '\n' ∉ indent) (ending : newline = ['\n'] ∨ newline = ['\r', '\n'])

include feeds blank unbroken ending

theorem contentLines_indentBlock :
    contentLines (indentBlock text indent newline) = contentLines text := by
  obtain ⟨ret, rfl, void, plain⟩ := exists_return ending
  rcases indentBlock_cases feeds indent (ret ++ ['\n']) with same | ⟨first, mid, last, cut, same⟩
  · rw [same, contentLines_trim]
  have opened :
      stripStar (withoutOpener (trim first ++ ret)) = stripStar (withoutOpener first) := by
    rw [← stripStar_withoutOpener_trimEnd, trimEnd_first cut void, stripStar_withoutOpener_trimEnd]
  have inside : (mid.map fun line => indentLine indent (trim line) ++ ret).map stripStar =
      mid.map stripStar := by
    rw [List.map_map]
    exact List.map_congr_left fun line _ => (alike_indented blank void line).content
  have closed := (alike_last blank (tidy_of_lines cut)).content
  rw [same, contentLines_of_lines (splitLines_indented cut unbroken plain),
    contentLines_of_lines cut]
  simp only [List.map_append, List.map_cons, List.map_nil, opened, inside, closed]

theorem isBlock_indentBlock : isBlock (indentBlock text indent newline) = isBlock text := by
  obtain ⟨ret, rfl, void, plain⟩ := exists_return ending
  rcases indentBlock_cases feeds indent (ret ++ ['\n']) with same | ⟨first, mid, last, cut, same⟩
  · rw [same, isBlock, trim_trim, ← isBlock]
  have opens : opener <+: trim first ++ ret ↔ opener <+: first := by
    rw [← opener_isPrefix_trimEnd, trimEnd_first cut void, opener_isPrefix_trimEnd]
  have closes : terminator <:+ indentLine indent (trim last) ↔ terminator <:+ last := by
    rw [terminator_isSuffix_indentLine, terminator_isSuffix_trim (tidy_of_lines cut)]
  have front : Unclosed (trim first ++ ret) ↔ Unclosed first := by
    rw [← unclosed_trim, trim_append_of_blank void, trim_trim, unclosed_trim]
  have inside (line : Text) : Unclosed (indentLine indent (trim line) ++ ret) ↔ Unclosed line :=
    (alike_indented blank void line).unclosed
  have back := (alike_last blank (tidy_of_lines cut)).unclosed
  rw [Bool.eq_iff_iff, same, isBlock_of_lines (splitLines_indented cut unbroken plain),
    isBlock_of_lines cut, opens, closes]
  simp [or_imp, forall_and, front, inside, back]

theorem normalize_indentBlock : normalize (indentBlock text indent newline) = normalize text := by
  rw [normalize, contentLines_indentBlock feeds blank unbroken ending, ← normalize]

theorem read_indentBlock : Block.read (indentBlock text indent newline) = Block.read text := by
  rw [Block.read, contentLines_indentBlock feeds blank unbroken ending, ← Block.read]

theorem parse_indentBlock : Block.parse (indentBlock text indent newline) = Block.parse text := by
  rw [Block.parse, isBlock_indentBlock feeds blank unbroken ending,
    read_indentBlock feeds blank unbroken ending, ← Block.parse]

end Unseen

end Comment

namespace Reconciler

/-- Reconciliation sees of a comment only the form by which it is compared, whether it is a doc
    comment, and its content. -/
theorem reconcile_congr (rules : Reconciler) {first second : Slot} {here there : Text}
    (firstFound : first.current = some here) (secondFound : second.current = some there)
    (same : Comment.normalize there = Comment.normalize here)
    (block : Comment.isBlock there = Comment.isBlock here)
    (content : Block.read there = Block.read here) (generated : Text) :
    (rules.reconcile second generated).1 = (rules.reconcile first generated).1 ∧
      ((rules.reconcile first generated).1.applied = true →
        (rules.reconcile second generated).2.current =
          (rules.reconcile first generated).2.current) := by
  by_cases admitted : rules.Admits generated
  · rw [reconcile_of_admits admitted firstFound, reconcile_of_admits admitted secondFound, same]
    split_ifs
    · exact ⟨rfl, fun applied => absurd applied Bool.false_ne_true⟩
    · exact ⟨rfl, fun _ => by rw [Slot.current_write, Slot.current_write]⟩
    · exact ⟨rfl, fun applied => absurd applied Bool.false_ne_true⟩
    · cases readable : Comment.isBlock here with
      | false =>
          rw [mergeInto_of_not_isBlock readable, mergeInto_of_not_isBlock (block.trans readable)]
          exact ⟨rfl, fun applied => absurd applied Bool.false_ne_true⟩
      | true =>
          have merged : mergedText there generated = mergedText here generated := by
            rw [mergedText, content, ← mergedText]
          rw [mergeInto_of_isBlock readable, mergeInto_of_isBlock (block.trans readable), merged,
            same]
          split_ifs
          · exact ⟨rfl, fun applied => absurd applied Bool.false_ne_true⟩
          · exact ⟨rfl, fun _ => by rw [Slot.current_write, Slot.current_write]⟩
  · have short := Int.not_le.mp admitted
    rw [reconcile, reconcile, if_pos short, if_pos short]
    exact ⟨rfl, fun applied => absurd applied Bool.false_ne_true⟩

end Reconciler

namespace Comment

/-- Nothing that reads a comment sees whether it has been indented: its lines of content, whether it
    is a doc comment, the form by which it is compared and its content stay, and reconciliation does
    to a declaration with the indented comment what it does to one with the comment itself. A second
    indentation changes nothing at all, if the first brings in no line boundaries. -/
theorem indentBlock_unseen {text indent newline : Text} (feeds : FeedsOnly text)
    (blank : isBlankText indent = true) (unbroken : '\n' ∉ indent)
    (ending : newline = ['\n'] ∨ newline = ['\r', '\n']) :
    contentLines (indentBlock text indent newline) = contentLines text ∧
      isBlock (indentBlock text indent newline) = isBlock text ∧
      normalize (indentBlock text indent newline) = normalize text ∧
      Block.parse (indentBlock text indent newline) = Block.parse text ∧
      Block.read (indentBlock text indent newline) = Block.read text ∧
      (∀ (rules : Reconciler) (written saved : Slot) (generated : Text),
        written.current = some text → saved.current = some (indentBlock text indent newline) →
        (rules.reconcile saved generated).1 = (rules.reconcile written generated).1 ∧
          ((rules.reconcile written generated).1.applied = true →
            (rules.reconcile saved generated).2.current =
              (rules.reconcile written generated).2.current)) ∧
      ((∀ c ∈ indent, isLineBoundary c = false) →
        indentBlock (indentBlock text indent newline) indent newline =
          indentBlock text indent newline) := by
  have normalized := normalize_indentBlock feeds blank unbroken ending
  have block := isBlock_indentBlock feeds blank unbroken ending
  have content := read_indentBlock feeds blank unbroken ending
  refine ⟨contentLines_indentBlock feeds blank unbroken ending, block, normalized,
    parse_indentBlock feeds blank unbroken ending, content, ?_, indentBlock_again blank ending⟩
  intro rules written saved generated before after
  exact rules.reconcile_congr before after normalized block content generated

/-- A comment with an unstarred line, an empty one and its end behind a word, in a file whose lines
    end with carriage returns. -/
theorem indentBlock_unseen_unstarred :
    FeedsOnly "/**\r\n  Adds.\r\n\r\n*  b */".toList ∧ isBlankText "\t ".toList = true ∧
      '\n' ∉ "\t ".toList ∧ ("\r\n".toList = ['\n'] ∨ "\r\n".toList = ['\r', '\n']) ∧
      (∀ c ∈ "\t ".toList, isLineBoundary c = false) ∧
      Block.parse (indentBlock "/**\r\n  Adds.\r\n\r\n*  b */".toList "\t ".toList "\r\n".toList) =
        Block.parse "/**\r\n  Adds.\r\n\r\n*  b */".toList ∧
      indentBlock (indentBlock "/**\r\n  Adds.\r\n\r\n*  b */".toList "\t ".toList "\r\n".toList)
          "\t ".toList "\r\n".toList =
        indentBlock "/**\r\n  Adds.\r\n\r\n*  b */".toList "\t ".toList "\r\n".toList := by
  obtain ⟨-, -, -, parsed, -, -, again⟩ :=
    @indentBlock_unseen "/**\r\n  Adds.\r\n\r\n*  b */".toList "\t ".toList "\r\n".toList
      (by decide) (by decide) (by decide) (by decide)
  have inner : ∀ c ∈ "\t ".toList, isLineBoundary c = false := by
    have all : ("\t ".toList.all fun c => !isLineBoundary c) = true := by decide
    intro c member
    simpa using List.all_eq_true.mp all c member
  exact ⟨by decide, by decide, by decide, by decide, inner, parsed, again inner⟩

end Comment

end Scholia
