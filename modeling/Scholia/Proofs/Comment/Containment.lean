import Scholia.Comment.Markers
import Scholia.Proofs.Comment.Outcome
import Scholia.Proofs.Text.Boundaries

/-! # Comments stay comments

Whatever text is reconciled with a declaration, the comment written for it is closed: it opens
with `/**`, and its only `*/` stands at its end. Indenting it for the file keeps it closed, so no
generated text ends the comment early and spills into the code.
-/

namespace Scholia

/-- At how many positions of a text another one occurs. -/
def Text.occurrences (part : Text) : Text → Nat
  | [] => if part.isEmpty then 1 else 0
  | c :: rest => (if part.isPrefixOf (c :: rest) then 1 else 0) + occurrences part rest

namespace Comment

open Text

/-- A single closed comment. -/
structure Closed (text : Text) : Prop where
  opens : startsWith opener text = true
  long : 5 ≤ text.length
  closes : endsWith terminator text = true
  once : occurrences terminator text = 1

theorem Unclosed.occurrences_append {text : Text} (unclosed : Unclosed text) :
    occurrences terminator (text ++ terminator) = 1 := by
  induction text with
  | nil => decide
  | cons c rest ih =>
      obtain ⟨other, unclosed⟩ := unclosed_cons.mp unclosed
      have apart : ¬(c = '*' ∧ (rest ++ terminator).head? = some '/') := by
        cases rest with
        | nil => simp [terminator]
        | cons d rest => exact other
      have front : terminator.isPrefixOf (c :: (rest ++ terminator)) = false := by
        rw [← Bool.not_eq_true, List.isPrefixOf_iff_prefix]
        intro start
        rw [terminator, List.cons_prefix_cons, List.singleton_prefix_iff_head?_eq_some] at start
        exact apart ⟨start.1.symm, start.2⟩
      rw [List.cons_append, occurrences, front, ih unclosed]
      rfl

theorem Enclosed.closed {text : Text} (enclosed : Enclosed text) : Closed text := by
  obtain ⟨body, rfl, unclosed⟩ := enclosed
  refine ⟨?_, ?_, ?_, unclosed.occurrences_append⟩
  · rw [startsWith, List.isPrefixOf_iff_prefix, List.append_assoc]
    exact List.prefix_append _ _
  · simp only [List.length_append, opener, terminator, List.length_cons, List.length_nil]
    omega
  · rw [endsWith, List.isSuffixOf_iff_suffix]
    exact List.suffix_append _ _

/-- A text that keeps the texts around it apart. -/
structure Separator (text : Text) : Prop where
  filled : text ≠ []
  apart : ∀ c ∈ text, c ≠ '*' ∧ c ≠ '/'

theorem Separator.unclosed_append {separator : Text} (separates : Separator separator)
    {first second : Text} :
    Unclosed (first ++ separator ++ second) ↔ Unclosed first ∧ Unclosed second := by
  obtain ⟨filled, apart⟩ := separates
  induction separator generalizing first with
  | nil => exact absurd rfl filled
  | cons c rest ih =>
      obtain ⟨star, slash⟩ := apart c List.mem_cons_self
      have later : Unclosed (rest ++ second) ↔ Unclosed second := by
        cases rest with
        | nil => rfl
        | cons d rest =>
            have front : Unclosed ([] ++ (d :: rest) ++ second) ↔ Unclosed [] ∧ Unclosed second :=
              ih (List.cons_ne_nil d rest) fun e member => apart e (List.mem_cons_of_mem c member)
            simpa [unclosed_nil] using front
      rw [List.append_assoc, List.cons_append, unclosed_append_cons star slash, later]

theorem Separator.unclosed_join {separator : Text} (separates : Separator separator)
    {texts : List Text} (unclosed : ∀ text ∈ texts, Unclosed text) :
    Unclosed (join separator texts) := by
  induction texts with
  | nil => exact unclosed_nil
  | cons text rest ih =>
      have here := unclosed text List.mem_cons_self
      have later := ih fun other member => unclosed other (List.mem_cons_of_mem text member)
      cases rest with
      | nil => simpa [join] using here
      | cons next rest =>
          rw [join, List.intercalate_cons_cons, separates.unclosed_append]
          exact ⟨here, later⟩

theorem separator_newline : Separator ['\n'] :=
  ⟨by simp, by simp⟩

theorem unclosed_of_isBlankText {text : Text} (blank : isBlankText text = true) :
    Unclosed text := by
  refine unclosed_of_not_mem fun star => ?_
  have inked := List.all_eq_true.mp blank _ star
  exact absurd inked (by decide)

/-! ## Rendered comments -/

theorem unclosed_starred (line : Text) : Unclosed (Block.starred line) := by
  have whole : Unclosed (' ' :: '*' :: ' ' :: escapeTerminators line) := by
    simp [unclosed_cons, unclosed_escapeTerminators]
  exact whole.of_isInfix (trimEnd_isPrefix _).isInfix

theorem render_eq {block : Block} (content : block.lines ≠ []) :
    block.render = opener ++
      ('\n' :: joinLines (block.lines.map Block.starred) ++ ['\n', ' ']) ++ terminator := by
  have filled : block.lines.map Block.starred ≠ [] := by simpa using content
  rw [Block.render, if_neg (by simpa [List.isEmpty_iff] using content),
    joinLines_append (List.cons_ne_nil _ _) (List.cons_ne_nil _ _), joinLines_cons _ filled]
  simp

/-- The comment rendered for any content is enclosed in its markers. -/
theorem enclosed_render (block : Block) : Enclosed block.render := by
  by_cases content : block.lines = []
  · exact ⟨[' '], by rw [Block.render, content]; rfl, by simp [opener, unclosed_cons, unclosed_nil]⟩
  · have lines : Unclosed (joinLines (block.lines.map Block.starred)) := by
      refine separator_newline.unclosed_join fun line member => ?_
      obtain ⟨source, -, rfl⟩ := List.mem_map.mp member
      exact unclosed_starred source
    refine ⟨_, render_eq content, ?_⟩
    rw [← List.append_assoc, unclosed_append_cons (by decide) (by decide)]
    refine ⟨(unclosed_append_cons (by decide) (by decide)).mpr ⟨?_, lines⟩, ?_⟩
    · simp [opener, unclosed_cons, unclosed_nil]
    · simp [unclosed_cons, unclosed_nil]

/-- A text that is no doc comment is put into one of its own. -/
theorem wrap_of_not_isBlock {text : Text} (bare : isBlock text = false) :
    Block.wrap text = (Block.read text).render :=
  if_neg (by simp [bare])

theorem enclosed_wrap (text : Text) : Enclosed (Block.wrap text) := by
  unfold Block.wrap
  split
  · next block => exact isBlock_iff.mp block
  · exact enclosed_render _

/-! ## Indented comments -/

theorem boundaryLines_opener_append (text : Text) :
    boundaryLines (opener ++ text) = prependToFirst opener (boundaryLines text) := by
  simp only [opener, List.cons_append, List.nil_append]
  rw [boundaryLines_cons_of_inner (by decide), boundaryLines_cons_of_inner (by decide),
    boundaryLines_cons_of_inner (by decide)]
  cases boundaryLines text <;> rfl

/-- The lines of a text that a closing marker follows: the marker ends the last line, all lines
    are parts of the text, and the first one is its start. -/
def MarkedLines (text : Text) : Prop :=
  (∃ last, last <+: text ∧ boundaryLines (text ++ terminator) = [last ++ terminator]) ∨
  ∃ first mid last, first <+: text ∧ (∀ line ∈ mid, line <:+: text) ∧ last <:+: text ∧
    boundaryLines (text ++ terminator) = first :: (mid ++ [last ++ terminator])

theorem MarkedLines.after_break {rest text : Text} (later : MarkedLines rest) (tail : rest <:+ text)
    (cut : boundaryLines (text ++ terminator) = [] :: boundaryLines (rest ++ terminator)) :
    MarkedLines text := by
  have longer : ∀ {line : Text}, line <:+: rest → line <:+: text :=
    fun inside => inside.trans tail.isInfix
  right
  rcases later with ⟨last, start, whole⟩ | ⟨first, mid, last, start, inside, stop, whole⟩
  · exact ⟨[], [], last, List.nil_prefix, by simp, longer start.isInfix, by rw [cut, whole]; rfl⟩
  · refine ⟨[], first :: mid, last, List.nil_prefix, ?_, longer stop, by rw [cut, whole]; rfl⟩
    intro line member
    rcases List.mem_cons.mp member with rfl | member
    · exact longer start.isInfix
    · exact longer (inside line member)

theorem MarkedLines.cons {c : Char} {rest : Text} (later : MarkedLines rest)
    (inner : isLineBoundary c = false) : MarkedLines (c :: rest) := by
  rcases later with ⟨last, start, whole⟩ | ⟨first, mid, last, start, inside, stop, whole⟩
  · refine .inl ⟨c :: last, List.cons_prefix_cons.mpr ⟨rfl, start⟩, ?_⟩
    rw [List.cons_append, boundaryLines_cons_of_inner inner, whole]
    rfl
  · refine .inr ⟨c :: first, mid, last, List.cons_prefix_cons.mpr ⟨rfl, start⟩,
      fun line member => List.infix_cons (inside line member), List.infix_cons stop, ?_⟩
    rw [List.cons_append, boundaryLines_cons_of_inner inner, whole]
    rfl

theorem markedLines (text : Text) : MarkedLines text := by
  induction text using boundaryLines.induct with
  | case1 => exact .inl ⟨[], List.nil_prefix, by decide⟩
  | case2 rest ih =>
      exact ih.after_break ⟨['\r', '\n'], rfl⟩ (boundaryLines.eq_2 _)
  | case3 c rest feed boundary ih =>
      refine ih.after_break (List.suffix_cons c rest) ?_
      have alone : ∀ tail, c = '\r' → rest ++ terminator = '\n' :: tail → False := by
        intro tail ret next
        cases rest with
        | nil => exact absurd (List.cons.inj next).1 (by decide)
        | cons d rest => exact feed rest ret (by rw [(List.cons.inj next).1])
      rw [List.cons_append, boundaryLines.eq_3 _ _ alone, if_pos boundary]
  | case4 c rest _ inner _ ih | case5 c rest _ inner _ _ _ ih =>
      exact ih.cons (by simpa using inner)

theorem indentLine_append_terminator (indent : Text) {line : Text} (unclosed : Unclosed line)
    (blank : isBlankText indent = true) :
    ∃ start, indentLine indent (line ++ terminator) = start ++ terminator ∧ Unclosed start := by
  have space := unclosed_of_isBlankText blank
  cases line with
  | nil => exact ⟨indent ++ [' '], by simp [indentLine, terminator],
      (unclosed_append_cons (by decide) (by decide)).mpr ⟨space, unclosed_nil⟩⟩
  | cons c rest =>
      by_cases star : c = '*'
      · subst star
        exact ⟨indent ++ ' ' :: '*' :: rest, by simp [indentLine],
          (unclosed_append_cons (by decide) (by decide)).mpr ⟨space, unclosed⟩⟩
      · refine ⟨indent ++ ' ' :: '*' :: ' ' :: c :: rest, ?_, ?_⟩
        · have other : ∀ tail, c :: rest ++ terminator = '*' :: tail → False :=
            fun tail same => star (List.cons.inj same).1
          rw [indentLine.eq_3 _ _ (by simp) other]
          simp
        · rw [unclosed_append_cons (by decide) (by decide)]
          exact ⟨space, by simpa [unclosed_cons] using unclosed⟩

theorem unclosed_indentLine {indent line : Text} (unclosed : Unclosed line)
    (blank : isBlankText indent = true) : Unclosed (indentLine indent line) := by
  have space := unclosed_of_isBlankText blank
  unfold indentLine
  split
  · exact (unclosed_append_cons (by decide) (by decide)).mpr
      ⟨space, by simp [unclosed_cons, unclosed_nil]⟩
  · exact (unclosed_append_cons (by decide) (by decide)).mpr ⟨space, unclosed⟩
  · exact (unclosed_append_cons (by decide) (by decide)).mpr
      ⟨space, by simpa [unclosed_cons] using unclosed⟩

theorem join_append_terminator (separator : Text) (texts : List Text) (last : Text) :
    join separator (texts ++ [last ++ terminator]) =
      join separator (texts ++ [last]) ++ terminator := by
  induction texts with
  | nil => simp [join]
  | cons text rest ih =>
      have filled : ∀ tail : Text, rest ++ [tail] ≠ [] := by simp
      simp only [join, List.cons_append] at ih ⊢
      rw [List.intercalate_cons_of_ne_nil (filled _), List.intercalate_cons_of_ne_nil (filled _), ih]
      simp only [List.append_assoc]

theorem trimEnd_opener_append (text : Text) : trimEnd (opener ++ text) = opener ++ trimEnd text := by
  rw [trimEnd_append]
  split
  · next nothing => rw [nothing, List.append_nil]; decide
  · rfl

theorem trim_opener_append (text : Text) : trim (opener ++ text) = opener ++ trimEnd text := by
  have front : trimStart (opener ++ text) = opener ++ text := trimStart_of_ink (by decide) _
  rw [trim, front, trimEnd_opener_append]

theorem trim_append_terminator (text : Text) :
    trim (text ++ terminator) = trimStart text ++ terminator := by
  have front : trimStart (text ++ terminator) = trimStart text ++ terminator := by
    rw [trimStart_append]
    split
    · next nothing => rw [nothing, List.nil_append]; decide
    · rfl
  have back : trimEnd terminator = terminator := by decide
  rw [trim, front, trimEnd_append, back, if_neg (by decide)]

/-- Indenting an enclosed comment keeps it enclosed. -/
theorem Enclosed.indentBlock {text indent newline : Text} (enclosed : Enclosed text)
    (blank : isBlankText indent = true) (separates : Separator newline) :
    Enclosed (indentBlock text indent newline) := by
  rw [Comment.indentBlock, enclosed.trim_eq]
  obtain ⟨body, rfl, unclosed⟩ := enclosed
  have content : Unclosed body := unclosed.of_isInfix (List.suffix_append _ _).isInfix
  have starts {line : Text} (start : line <+: body) : Unclosed (opener ++ line) :=
    unclosed.of_isInfix ((List.prefix_append_right_inj opener).mpr start).isInfix
  rw [List.append_assoc, boundaryLines_opener_append]
  rcases markedLines body with ⟨last, start, whole⟩ | ⟨first, mid, last, start, inside, stop, whole⟩
  -- A comment of one line is not changed; else its first and last lines carry the markers.
  · have single : Enclosed (opener ++ last ++ terminator) := ⟨last, rfl, starts start⟩
    simp only [whole, prependToFirst, List.map_cons, List.map_nil, ← List.append_assoc,
      single.trim_eq]
    simpa only [join, List.intercalate_singleton] using single
  · obtain ⟨stem, ends, bare⟩ := indentLine_append_terminator indent
      (content.of_isInfix ((trimStart_isSuffix last).isInfix.trans stop)) blank
    simp only [whole, prependToFirst, List.map_cons, List.map_append, List.map_nil,
      trim_opener_append, trim_append_terminator, ends]
    have lines : ∀ line ∈ (mid.map trim).map (indentLine indent) ++ [stem], Unclosed line := by
      intro line member
      rcases List.mem_append.mp member with middle | final
      · obtain ⟨trimmed, of_mid, rfl⟩ := List.mem_map.mp middle
        obtain ⟨source, of_lines, rfl⟩ := List.mem_map.mp of_mid
        exact unclosed_indentLine
          (content.of_isInfix ((trim_isInfix source).trans (inside source of_lines))) blank
      · rwa [List.mem_singleton.mp final]
    refine ⟨trimEnd first ++ newline ++
      join newline ((mid.map trim).map (indentLine indent) ++ [stem]), ?_, ?_⟩
    · rw [← List.cons_append, join_append_terminator, List.cons_append, join,
        List.intercalate_cons_of_ne_nil (by simp), ← join]
      simp only [List.append_assoc]
    · simp only [← List.append_assoc]
      rw [separates.unclosed_append]
      exact ⟨starts ((trimEnd_isPrefix first).trans start), separates.unclosed_join lines⟩

end Comment

namespace Reconciler

/-- An applied comment is enclosed in its markers. -/
theorem enclosed_of_applied {rules : Reconciler} {slot : Slot} {generated : Text}
    (applied : (rules.reconcile slot generated).1.applied = true) :
    ∃ doc, (rules.reconcile slot generated).2.current = some doc ∧ Comment.Enclosed doc := by
  have reached := rules.effect slot generated
  generalize rules.reconcile slot generated = result at reached applied ⊢
  cases reached with
  | kept _ unapplied => exact absurd applied (by simp [unapplied])
  | inserted | overwritten =>
      have enclosed := Comment.enclosed_wrap generated
      exact ⟨_, enclosed.current_write _, enclosed⟩
  | merged existing =>
      have enclosed : Comment.Enclosed (mergedText existing generated) := Comment.enclosed_render _
      exact ⟨_, enclosed.current_write _, enclosed⟩

/-- A comment that reconciliation applies, whatever the generated text, is a single closed comment,
    and so is its indented form that is written into the file. -/
theorem reconcile_applied_closed (rules : Reconciler) (slot : Slot) (generated : Text)
    (applied : (rules.reconcile slot generated).1.applied = true) :
    ∃ doc, (rules.reconcile slot generated).2.current = some doc ∧ Comment.Closed doc ∧
      ∀ indent newline : Text, Text.isBlankText indent = true →
        newline = ['\n'] ∨ newline = ['\r', '\n'] →
        Comment.Closed (Comment.indentBlock doc indent newline) := by
  obtain ⟨doc, written, enclosed⟩ := enclosed_of_applied applied
  refine ⟨doc, written, enclosed.closed, fun indent newline blank ending => ?_⟩
  have separates : Comment.Separator newline := by
    rcases ending with rfl | rfl
    · exact Comment.separator_newline
    · exact ⟨by simp, by simp⟩
  exact (enclosed.indentBlock blank separates).closed

/-- A text that ends a comment in its middle is written as one closed comment. -/
theorem reconcile_early_end_closed :
    (reconcile ⟨0, {}⟩ {} "ends */ early".toList).1.applied = true ∧
      ∃ doc, (reconcile ⟨0, {}⟩ {} "ends */ early".toList).2.current = some doc ∧
        Comment.Closed (Comment.indentBlock doc "\t ".toList "\r\n".toList) := by
  have applied : (reconcile ⟨0, {}⟩ {} "ends */ early".toList).1.applied = true := by decide
  obtain ⟨doc, written, -, indented⟩ := reconcile_applied_closed ⟨0, {}⟩ {} _ applied
  exact ⟨applied, doc, written, indented _ _ (by decide) (.inr (by decide))⟩

end Reconciler

end Scholia
