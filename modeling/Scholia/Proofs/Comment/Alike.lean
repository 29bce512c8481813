import Scholia.Proofs.Comment.Reading

/-! # Comments line by line

The opening marker of a comment stands in its first line, the closing one in its last, and the
lines between are content but for their stars. So two comments are the same to a reader if their
lines are alike, and a line is alike to the one that it is indented to.
-/

namespace Scholia

open Text Comment

namespace Text

theorem isPrefix_append_cons_iff {part first second : Text} {c : Char} (absent : c ∉ part) :
    part <+: first ++ c :: second ↔ part <+: first := by
  refine ⟨fun start => ?_, fun start => start.trans (List.prefix_append _ _)⟩
  by_contra other
  have long : first.length + 1 ≤ part.length := by
    by_contra short
    exact other (List.prefix_of_prefix_length_le start (List.prefix_append _ _) (by omega))
  have inside : first ++ [c] <+: part := by
    refine List.prefix_of_prefix_length_le ?_ start (by simpa using long)
    exact ⟨second, by simp⟩
  exact absent (inside.subset (by simp))

theorem isSuffix_append_cons_iff {part first second : Text} {c : Char} (absent : c ∉ part) :
    part <:+ first ++ c :: second ↔ part <:+ second := by
  have turned : (first ++ c :: second).reverse = second.reverse ++ c :: first.reverse := by simp
  rw [← List.reverse_prefix, turned, isPrefix_append_cons_iff (by simpa using absent),
    List.reverse_prefix]

end Text

namespace Comment

/-! ## Lines that are alike -/

theorem unclosed_trimStart (text : Text) : Unclosed (trimStart text) ↔ Unclosed text := by
  induction text with
  | nil => rfl
  | cons c rest ih =>
      cases blank : isBlank c with
      | false => rw [trimStart_of_ink blank]
      | true =>
          have star : c ≠ '*' := by
            rintro rfl
            exact absurd blank (by decide)
          rw [trimStart_of_blank blank, ih, unclosed_cons]
          simp [star]

theorem unclosed_trimEnd (text : Text) : Unclosed (trimEnd text) ↔ Unclosed text := by
  induction text with
  | nil => rfl
  | cons c rest ih =>
      by_cases nothing : trimEnd rest = []
      · have blank := trimEnd_eq_nil.mp nothing
        have other : rest.head? ≠ some '/' := by
          intro slash
          obtain ⟨tail, rfl⟩ := List.head?_eq_some_iff.mp slash
          rw [isBlankText_cons, Bool.and_eq_true] at blank
          exact absurd blank.1 (by decide)
        rw [trimEnd_cons, if_pos nothing, unclosed_cons]
        refine iff_of_true ?_ ⟨by simp [other], unclosed_of_isBlankText blank⟩
        split <;> simp [unclosed_cons, unclosed_nil]
      · rw [trimEnd_cons, if_neg nothing, unclosed_cons, unclosed_cons, head?_trimEnd nothing, ih]

theorem unclosed_trim (text : Text) : Unclosed (trim text) ↔ Unclosed text := by
  rw [trim, unclosed_trimEnd, unclosed_trimStart]

/-- Two lines that nothing tells apart: they have the same content, and a closing marker occurs in
    both of them or in none. -/
structure Alike (first second : Text) : Prop where
  content : stripStar first = stripStar second
  unclosed : Unclosed first ↔ Unclosed second

theorem Alike.trans {first second third : Text} (left : Alike first second)
    (right : Alike second third) : Alike first third :=
  ⟨left.content.trans right.content, left.unclosed.trans right.unclosed⟩

/-- Blanks at both ends of a line make no difference. -/
theorem alike_of_trim_eq {first second : Text} (same : trim first = trim second) :
    Alike first second where
  content := by
    unfold stripStar
    rw [same]
  unclosed := by rw [← unclosed_trim, same, unclosed_trim]

theorem stripStar_of_ne {c : Char} (ink : isBlank c = false) (other : c ≠ '*') (rest : Text) :
    stripStar (c :: rest) = trimEnd (c :: rest) := by
  have whole : trim (c :: rest) = c :: trimEnd rest := by
    rw [trim, trimStart_of_ink ink, trimEnd_cons_of_ink ink]
  rw [trimEnd_cons_of_ink ink]
  unfold stripStar
  rw [whole]
  split
  · next same => exact absurd (List.cons.inj same).1 other
  · next same => exact absurd (List.cons.inj same).1 other
  · rfl

/-- A star and a space in front of a line are no content. -/
theorem stripStar_star_space {line : Text} (filled : trimEnd line ≠ []) :
    stripStar ('*' :: ' ' :: line) = trimEnd line := by
  have whole : trim ('*' :: ' ' :: line) = '*' :: ' ' :: trimEnd line := by
    rw [trim, trimStart_of_ink (by decide), trimEnd_cons_of_ink (by decide), trimEnd_cons,
      if_neg filled]
  unfold stripStar
  rw [whole]
  exact trimEnd_trimEnd line

theorem indentLine_of_ne {c : Char} (other : c ≠ '*') (indent rest : Text) :
    indentLine indent (c :: rest) = indent ++ ' ' :: '*' :: ' ' :: c :: rest :=
  indentLine.eq_3 _ _ (by simp) fun _ same => other (List.cons.inj same).1

section Indented

variable {indent : Text} (blank : isBlankText indent = true)

include blank

theorem trim_indent_append (line : Text) : trim (indent ++ ' ' :: line) = trim line := by
  rw [trim_blank_append blank]
  exact @trim_blank_append [' '] (by decide) line

/-- A line that starts with no blank is like the line that it is indented to. -/
theorem alike_indentLine {line : Text} (starts : trimStart line = line) :
    Alike (indentLine indent line) line := by
  cases line with
  | nil =>
      have star : trim (indent ++ [' ', '*']) = trim ['*'] := trim_indent_append blank ['*']
      exact (alike_of_trim_eq star).trans ⟨by decide, by simp [unclosed_cons, unclosed_nil]⟩
  | cons c rest =>
      by_cases star : c = '*'
      · subst star
        exact alike_of_trim_eq (trim_indent_append blank _)
      · have ink : isBlank c = false := trimStart_eq_self_iff.mp starts c rfl
        have filled : trimEnd (c :: rest) ≠ [] := by simp [trimEnd_cons_of_ink ink]
        rw [indentLine_of_ne star]
        refine (alike_of_trim_eq (trim_indent_append blank _)).trans ⟨?_, by simp [unclosed_cons]⟩
        rw [stripStar_star_space filled, stripStar_of_ne ink star]

end Indented

/-- A line is like the line that it is trimmed and indented to, whatever blanks end that. -/
theorem alike_indented {indent ending : Text} (blank : isBlankText indent = true)
    (blanks : isBlankText ending = true) (line : Text) :
    Alike (indentLine indent (trim line) ++ ending) line :=
  ((alike_of_trim_eq (trim_append_of_blank blanks _)).trans
    (alike_indentLine blank (trimStart_trim line))).trans (alike_of_trim_eq (trim_trim line))

/-! ## The first and the last line -/

theorem withoutOpener_append (text : Text) : withoutOpener (opener ++ text) = text :=
  if_pos (List.isPrefixOf_iff_prefix.mpr (List.prefix_append _ _))

theorem withoutOpener_of_not_isPrefix {text : Text} (other : ¬opener <+: text) :
    withoutOpener text = text :=
  if_neg (by rwa [startsWith, List.isPrefixOf_iff_prefix])

theorem opener_isPrefix_trimEnd {line : Text} : opener <+: trimEnd line ↔ opener <+: line := by
  refine ⟨fun start => start.trans (trimEnd_isPrefix line), ?_⟩
  rintro ⟨rest, rfl⟩
  rw [trimEnd_opener_append]
  exact List.prefix_append _ _

/-- Blanks at the end of the line that opens a comment make no difference. -/
theorem stripStar_withoutOpener_trimEnd (line : Text) :
    stripStar (withoutOpener (trimEnd line)) = stripStar (withoutOpener line) := by
  refine (alike_of_trim_eq ?_).content
  by_cases opens : opener <+: line
  · obtain ⟨rest, rfl⟩ := opens
    rw [trimEnd_opener_append, withoutOpener_append, withoutOpener_append, trim_trimEnd]
  · rw [withoutOpener_of_not_isPrefix opens,
      withoutOpener_of_not_isPrefix (mt opener_isPrefix_trimEnd.mp opens), trim_trimEnd]

theorem terminator_isSuffix_trim {line : Text} (tidy : Tidy line) :
    terminator <:+ trim line ↔ terminator <:+ line := by
  constructor
  · intro ends
    rw [← trimStart_trimEnd, tidy] at ends
    exact ends.trans (trimStart_isSuffix line)
  · rintro ⟨front, rfl⟩
    rw [trim_append_terminator]
    exact List.suffix_append _ _

theorem terminator_isSuffix_indentLine (indent line : Text) :
    terminator <:+ indentLine indent line ↔ terminator <:+ line := by
  have apart : ' ' ∉ terminator := by decide
  unfold indentLine
  split
  · rw [isSuffix_append_cons_iff apart]
    decide
  · exact isSuffix_append_cons_iff apart
  · rw [isSuffix_append_cons_iff apart]
    exact @isSuffix_append_cons_iff terminator ['*'] line ' ' apart

theorem indentLine_append (indent : Text) {line : Text} (filled : line ≠ []) (more : Text) :
    indentLine indent (line ++ more) = indentLine indent line ++ more := by
  cases line with
  | nil => exact absurd rfl filled
  | cons c rest =>
      by_cases star : c = '*'
      · subst star
        simp [indentLine]
      · rw [List.cons_append, indentLine_of_ne star, indentLine_of_ne star]
        simp

/-- The line that ends a comment is like the line that it is indented to, the closing markers of
    both left out. -/
theorem alike_last {indent : Text} (blank : isBlankText indent = true) {last : Text}
    (tidy : Tidy last) :
    Alike (withoutTerminator (indentLine indent (trim last))) (withoutTerminator last) := by
  by_cases closes : terminator <:+ last
  · obtain ⟨body, rfl⟩ := closes
    rw [withoutTerminator_append, trim_append_terminator]
    -- A line that is nothing but the closing marker starts with its star and gets no other.
    by_cases nothing : trimStart body = []
    · have alone : indentLine indent (trimStart body ++ terminator) =
          indent ++ [' '] ++ terminator := by
        simp [nothing, indentLine, terminator]
      have empty : trim body = trim [] := by rw [trim, nothing, trim, trimStart_nil]
      rw [alone, withoutTerminator_append]
      exact alike_of_trim_eq ((trim_indent_append blank []).trans empty.symm)
    · rw [indentLine_append indent nothing, withoutTerminator_append]
      exact (alike_indentLine blank (trimStart_trimStart body)).trans
        (alike_of_trim_eq (trim_trimStart body))
  · have goesOn : ¬terminator <:+ indentLine indent (trim last) := by
      rwa [terminator_isSuffix_indentLine, terminator_isSuffix_trim tidy]
    rw [withoutTerminator_of_not_isSuffix goesOn, withoutTerminator_of_not_isSuffix closes]
    exact (alike_indentLine blank (trimStart_trim last)).trans (alike_of_trim_eq (trim_trim last))

/-! ## Comments of more lines than one -/

theorem withoutOpener_append_newline (first rest : Text) :
    withoutOpener (first ++ '\n' :: rest) = withoutOpener first ++ '\n' :: rest := by
  by_cases opens : opener <+: first
  · obtain ⟨body, rfl⟩ := opens
    rw [List.append_assoc, withoutOpener_append, withoutOpener_append]
  · have other : ¬opener <+: first ++ '\n' :: rest := by
      rwa [isPrefix_append_cons_iff (by decide)]
    rw [withoutOpener_of_not_isPrefix opens, withoutOpener_of_not_isPrefix other]

theorem withoutTerminator_append_newline (front last : Text) :
    withoutTerminator (front ++ '\n' :: last) = front ++ '\n' :: withoutTerminator last := by
  by_cases closes : terminator <:+ last
  · obtain ⟨body, rfl⟩ := closes
    rw [← List.cons_append, ← List.append_assoc, withoutTerminator_append, withoutTerminator_append]
  · have goesOn : ¬terminator <:+ front ++ '\n' :: last := by
      rwa [isSuffix_append_cons_iff (by decide)]
    rw [withoutTerminator_of_not_isSuffix closes, withoutTerminator_of_not_isSuffix goesOn]

theorem unclosed_joinLines_iff {lines : List Text} :
    Unclosed (joinLines lines) ↔ ∀ line ∈ lines, Unclosed line :=
  ⟨fun unclosed _ member => unclosed.of_isInfix (isInfix_joinLines member),
    separator_newline.unclosed_join⟩

section Lines

variable {text first last : Text} {mid : List Text}
  (cut : splitLines (trim text) = first :: mid ++ [last])

include cut

theorem trim_eq_front : trim text = joinLines (first :: mid) ++ '\n' :: last := by
  rw [← joinLines_splitLines (trim text), cut, joinLines_append (by simp) (by simp),
    joinLines_singleton]

theorem trim_eq_back : trim text = first ++ '\n' :: joinLines (mid ++ [last]) := by
  rw [← joinLines_splitLines (trim text), cut, List.cons_append, joinLines_cons _ (by simp)]

theorem starts_of_lines : trimStart first = first ∧ first ≠ [] := by
  have starts := trimStart_eq_self_iff.mp (trimStart_trim text)
  rw [trim_eq_back cut] at starts
  have filled : first ≠ [] := by
    rintro rfl
    exact absurd (starts '\n' rfl) (by decide)
  refine ⟨trimStart_eq_self_iff.mpr fun c head => starts c ?_, filled⟩
  rw [List.head?_append, head]
  rfl

/-- At the end of the first line only blanks change. -/
theorem trimEnd_first {blanks : Text} (blank : isBlankText blanks = true) :
    trimEnd (trim first ++ blanks) = trimEnd first := by
  rw [trim, (starts_of_lines cut).1, trimEnd_append, if_pos (trimEnd_eq_nil.mpr blank),
    trimEnd_trimEnd]

theorem tidy_of_lines : Tidy last := by
  have tidy : Tidy (trim text) := trimEnd_trim text
  exact tidy.of_isSuffix ⟨joinLines (first :: mid) ++ ['\n'], by simp [trim_eq_front cut]⟩

/-- The markers stand in the first and in the last line. -/
theorem contentLines_of_lines : contentLines text = dropBlankEnds
    ((withoutOpener first :: mid ++ [withoutTerminator last]).map stripStar) := by
  have flat : ∀ line ∈ first :: mid ++ [last], '\n' ∉ line := fun line member =>
    newline_not_mem_of_mem_splitLines (cut ▸ member)
  have body : withoutTerminator (withoutOpener (trim text)) =
      joinLines (withoutOpener first :: mid ++ [withoutTerminator last]) := by
    have opened : withoutOpener (trim text) =
        joinLines (withoutOpener first :: mid) ++ '\n' :: last := by
      rw [trim_eq_back cut, withoutOpener_append_newline, ← joinLines_cons _ (by simp),
        ← List.cons_append, joinLines_append (by simp) (by simp), joinLines_singleton]
    rw [opened, withoutTerminator_append_newline, joinLines_append (by simp) (by simp),
      joinLines_singleton]
  have bare : ∀ line ∈ withoutOpener first :: mid ++ [withoutTerminator last], '\n' ∉ line := by
    intro line member
    simp only [List.cons_append, List.mem_cons, List.mem_append, List.not_mem_nil,
      or_false] at member
    rcases member with rfl | inside | rfl
    · exact fun feed => flat first (by simp) ((withoutOpener_isSuffix first).subset feed)
    · exact flat line (by simp [inside])
    · exact fun feed => flat last (by simp) ((withoutTerminator_isPrefix last).subset feed)
  rw [contentLines, body, splitLines_joinLines bare (by simp)]

/-- A comment is closed by its last line, and by no line before. -/
theorem isBlock_of_lines : isBlock text = true ↔ opener <+: first ∧ terminator <:+ last ∧
    ∀ line ∈ first :: mid ++ [withoutTerminator last], Unclosed line := by
  have opens : opener <+: trim text ↔ opener <+: first := by
    rw [trim_eq_back cut, isPrefix_append_cons_iff (by decide)]
  have closes : terminator <:+ trim text ↔ terminator <:+ last := by
    rw [trim_eq_front cut, isSuffix_append_cons_iff (by decide)]
  have inner : ¬terminator <:+: withoutTerminator (trim text) ↔
      ∀ line ∈ first :: mid ++ [withoutTerminator last], Unclosed line := by
    rw [← Unclosed, ← unclosed_joinLines_iff, trim_eq_front cut, withoutTerminator_append_newline,
      joinLines_append (by simp) (by simp), joinLines_singleton]
  simp only [isBlock, hasInnerTerminator, trim_trim, startsWith, endsWith, Bool.and_eq_true,
    Bool.not_eq_true', decide_eq_true_eq, List.isPrefixOf_iff_prefix, List.isSuffixOf_iff_suffix,
    ← Bool.not_eq_true, occursIn_iff, opens, closes, inner]
  constructor
  · rintro ⟨⟨⟨starts, ends⟩, -⟩, unclosed⟩
    exact ⟨starts, ends, unclosed⟩
  · rintro ⟨starts, ends, unclosed⟩
    have front := starts.length_le
    have back := ends.length_le
    refine ⟨⟨⟨starts, ends⟩, ?_⟩, unclosed⟩
    rw [trim_eq_back cut, List.length_append, List.length_cons]
    have inside := (@isInfix_joinLines last (mid ++ [last]) (by simp)).length_le
    simp only [opener, terminator, List.length_cons, List.length_nil] at front back
    omega

end Lines

end Comment

end Scholia
