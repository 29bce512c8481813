import Scholia.Proofs.Text.Lines

/-! # Lines at every boundary

A text may be cut into lines at every line boundary or at line feeds alone. Where a text has no
other boundaries than line feeds, with or without a carriage return in front, both ways give the
same lines but for the blanks at their ends. Lines that are joined by a line ending come back in
either way.
-/

namespace Scholia.Text

theorem isBlank_of_isLineBoundary {c : Char} (boundary : isLineBoundary c = true) :
    isBlank c = true := by
  simp only [isLineBoundary, isBlank, Bool.or_eq_true, Bool.and_eq_true, decide_eq_true_eq,
    beq_iff_eq] at boundary ⊢
  omega

/-- Put characters in front of the first of some lines. -/
def prependToFirst (text : Text) : List Text → List Text
  | [] => [text]
  | line :: lines => (text ++ line) :: lines

theorem boundaryLines_cons_of_inner {c : Char} (inner : isLineBoundary c = false) (text : Text) :
    boundaryLines (c :: text) = prependToFirst [c] (boundaryLines text) := by
  have feed : ∀ rest, c = '\r' → text = '\n' :: rest → False := by
    rintro rest rfl -
    exact absurd inner (by decide)
  rw [boundaryLines.eq_3 c text feed, if_neg (by simp [inner])]
  cases boundaryLines text <;> rfl

theorem splitLines_cons_of_ne {c : Char} (other : c ≠ '\n') (text : Text) :
    splitLines (c :: text) = prependToFirst [c] (splitLines text) := by
  rw [splitLines, splitAt, if_neg other, splitLines]
  cases splitAt '\n' text <;> rfl

theorem map_trimEnd_prependToFirst {first second : List Text} (c : Char)
    (same : first.map trimEnd = second.map trimEnd) :
    (prependToFirst [c] first).map trimEnd = (prependToFirst [c] second).map trimEnd := by
  cases first with
  | nil => simp [List.map_eq_nil_iff.mp same.symm]
  | cons line lines =>
      cases second with
      | nil => cases same
      | cons other others =>
          obtain ⟨here, later⟩ := List.cons.inj same
          simp only [prependToFirst, List.singleton_append, List.map_cons]
          rw [trimEnd_cons, here, ← trimEnd_cons, later]

/-- No line boundary is left in a line. -/
theorem inner_of_mem_boundaryLines {text line : Text} (member : line ∈ boundaryLines text) :
    ∀ c ∈ line, isLineBoundary c = false := by
  induction text using boundaryLines.induct generalizing line with
  | case1 => simp [boundaryLines] at member
  | case2 rest ih =>
      rw [boundaryLines.eq_2] at member
      rcases List.mem_cons.mp member with rfl | later
      · simp
      · exact ih later
  | case3 c rest feed boundary ih =>
      rw [boundaryLines.eq_3 c rest feed, if_pos boundary] at member
      rcases List.mem_cons.mp member with rfl | later
      · simp
      · exact ih later
  | case4 c rest _ inner _ ih | case5 c rest _ inner _ _ _ ih =>
      rw [boundaryLines_cons_of_inner (by simpa using inner)] at member
      cases cut : boundaryLines rest with
      | nil =>
          rw [cut, prependToFirst, List.mem_singleton] at member
          simpa [member] using inner
      | cons first others =>
          rw [cut] at member ih
          rcases List.mem_cons.mp member with rfl | later
          · simpa [inner] using ih List.mem_cons_self
          · exact ih (List.mem_cons_of_mem _ later)

/-- The line boundaries of a text are line feeds, with or without a carriage return in front. -/
def FeedsOnly (text : Text) : Prop :=
  ∀ c rest, c :: rest <:+ text → isLineBoundary c = true →
    c = '\n' ∨ c = '\r' ∧ rest.head? = some '\n'

namespace FeedsOnly

theorem nil : FeedsOnly [] := by
  intro c rest suffix
  cases List.suffix_nil.mp suffix

theorem cons_iff {c : Char} {rest : Text} : FeedsOnly (c :: rest) ↔
    (isLineBoundary c = true → c = '\n' ∨ c = '\r' ∧ rest.head? = some '\n') ∧ FeedsOnly rest := by
  constructor
  · intro feeds
    exact ⟨feeds c rest List.suffix_rfl,
      fun d tail suffix => feeds d tail (suffix.trans (List.suffix_cons c rest))⟩
  · rintro ⟨here, later⟩ d tail suffix
    rcases List.suffix_cons_iff.mp suffix with whole | inside
    · obtain ⟨rfl, rfl⟩ := List.cons.inj whole
      exact here
    · exact later d tail inside

instance decide : (text : Text) → Decidable (FeedsOnly text)
  | [] => .isTrue nil
  | _ :: rest =>
    have := decide rest
    decidable_of_iff _ cons_iff.symm

variable {text : Text}

theorem of_isSuffix {tail : Text} (feeds : FeedsOnly text) (inside : tail <:+ text) :
    FeedsOnly tail :=
  fun c rest suffix => feeds c rest (suffix.trans inside)

theorem trimEnd (feeds : FeedsOnly text) : FeedsOnly (trimEnd text) := by
  intro c rest suffix boundary
  obtain ⟨blanks, whole⟩ := trimEnd_isPrefix text
  obtain ⟨front, ends⟩ := suffix
  have longer : c :: (rest ++ blanks) <:+ text := ⟨front, by rw [← whole, ← ends]; simp⟩
  refine (feeds c _ longer boundary).imp_right fun ⟨ret, next⟩ => ⟨ret, ?_⟩
  cases rest with
  | cons d tail => exact next
  | nil =>
      -- A boundary at the end would have been trimmed.
      have last := tidy_iff.mp (trimEnd_trimEnd text) c (by simp [← ends])
      rw [isBlank_of_isLineBoundary boundary] at last
      cases last

theorem trim (feeds : FeedsOnly text) : FeedsOnly (trim text) :=
  (feeds.of_isSuffix (trimStart_isSuffix text)).trimEnd

end FeedsOnly

theorem getLast?_of_isSuffix {last whole : Text} (ends : last <:+ whole) (filled : last ≠ []) :
    whole.getLast? = last.getLast? := by
  obtain ⟨front, rfl⟩ := ends
  exact List.getLast?_append_of_ne_nil front filled

theorem Tidy.of_isSuffix {last whole : Text} (tidy : Tidy whole) (ends : last <:+ whole) :
    Tidy last := by
  by_cases empty : last = []
  · exact empty ▸ trimEnd_nil
  · rw [tidy_iff] at tidy ⊢
    rwa [← getLast?_of_isSuffix ends empty]

/-- The end of a text decides whether it has blanks there. -/
theorem Tidy.of_end {last whole : Text} (tidy : Tidy last) (ends : last <:+ whole)
    (filled : last ≠ []) : Tidy whole := by
  rw [tidy_iff] at tidy ⊢
  rwa [getLast?_of_isSuffix ends filled]

theorem Tidy.tail_ne_nil {c : Char} {rest : Text} (tidy : Tidy (c :: rest))
    (blank : isBlank c = true) : rest ≠ [] := by
  rintro rfl
  have ink := tidy_iff.mp tidy c rfl
  rw [blank] at ink
  cases ink

/-- Where there are no other line boundaries than line feeds, the lines are those between line
    feeds but for blanks at their ends. -/
theorem map_trimEnd_boundaryLines {text : Text} (feeds : FeedsOnly text) (tidy : Tidy text)
    (filled : text ≠ []) :
    (boundaryLines text).map Text.trimEnd = (splitLines text).map Text.trimEnd := by
  -- Tidiness carries the induction: a boundary at the very end starts a line in one way only.
  induction text using boundaryLines.induct with
  | case1 => exact absurd rfl filled
  | case2 rest ih =>
      have later := ih (feeds.of_isSuffix ⟨['\r', '\n'], rfl⟩)
        (tidy.of_isSuffix ⟨['\r', '\n'], rfl⟩)
        ((tidy.of_isSuffix (List.suffix_cons _ _)).tail_ne_nil (by decide))
      have cut : splitLines ('\r' :: '\n' :: rest) = ['\r'] :: splitLines rest :=
        splitLines_append_newline ['\r'] rest
      rw [boundaryLines.eq_2, cut, List.map_cons, List.map_cons, later]
      rfl
  | case3 c rest feed boundary ih =>
      have later := ih (feeds.of_isSuffix (List.suffix_cons c rest))
        (tidy.of_isSuffix (List.suffix_cons c rest))
        (tidy.tail_ne_nil (isBlank_of_isLineBoundary boundary))
      rcases feeds c rest List.suffix_rfl boundary with rfl | ⟨rfl, next⟩
      · have cut : splitLines ('\n' :: rest) = [] :: splitLines rest :=
          splitLines_append_newline [] rest
        rw [boundaryLines.eq_3 _ rest feed, if_pos boundary, cut, List.map_cons, List.map_cons,
          later]
      · obtain ⟨tail, rfl⟩ := List.head?_eq_some_iff.mp next
        exact (feed tail rfl rfl).elim
  | case4 c rest _ inner _ ih | case5 c rest _ inner _ _ _ ih =>
      have same : isLineBoundary c = false := by simpa using inner
      have other : c ≠ '\n' := by
        rintro rfl
        exact absurd same (by decide)
      rw [boundaryLines_cons_of_inner same, splitLines_cons_of_ne other]
      by_cases empty : rest = []
      · rw [empty]
        rfl
      · exact map_trimEnd_prependToFirst c
          (ih (feeds.of_isSuffix (List.suffix_cons c rest))
            (tidy.of_isSuffix (List.suffix_cons c rest)) empty)

/-! ## Joined lines -/

theorem join_cons (separator line : Text) {rest : List Text} (more : rest ≠ []) :
    join separator (line :: rest) = line ++ separator ++ join separator rest := by
  rw [join, List.intercalate_cons_of_ne_nil more, ← join]

theorem isSuffix_join (separator : Text) (lines : List Text) (last : Text) :
    last <:+ join separator (lines ++ [last]) := by
  induction lines with
  | nil => simp [join]
  | cons line rest ih =>
      rw [List.cons_append, join_cons _ _ (by simp)]
      exact ih.trans (List.suffix_append _ _)

theorem boundaryLines_of_inner {line : Text} (inner : ∀ c ∈ line, isLineBoundary c = false)
    (filled : line ≠ []) : boundaryLines line = [line] := by
  induction line with
  | nil => exact absurd rfl filled
  | cons c rest ih =>
      obtain ⟨here, later⟩ := List.forall_mem_cons.mp inner
      rw [boundaryLines_cons_of_inner here]
      by_cases empty : rest = []
      · rw [empty]
        rfl
      · rw [ih later empty]
        rfl

section Joined

variable {newline : Text} (ending : newline = ['\n'] ∨ newline = ['\r', '\n'])

include ending

theorem boundaryLines_append_newline {line : Text} (inner : ∀ c ∈ line, isLineBoundary c = false)
    (text : Text) : boundaryLines (line ++ newline ++ text) = line :: boundaryLines text := by
  induction line with
  | nil =>
      rcases ending with rfl | rfl
      · have feed : ∀ rest, '\n' = '\r' → text = '\n' :: rest → False := by simp
        exact (boundaryLines.eq_3 '\n' text feed).trans (if_pos rfl)
      · exact boundaryLines.eq_2 text
  | cons c rest ih =>
      obtain ⟨here, later⟩ := List.forall_mem_cons.mp inner
      rw [List.cons_append, List.cons_append, boundaryLines_cons_of_inner here, ih later]
      rfl

/-- Lines without boundaries come back from the text they are joined to. -/
theorem boundaryLines_join {lines : List Text}
    (inner : ∀ line ∈ lines, ∀ c ∈ line, isLineBoundary c = false)
    (filled : ∀ line ∈ lines, line ≠ []) : boundaryLines (join newline lines) = lines := by
  induction lines with
  | nil => rfl
  | cons line rest ih =>
      obtain ⟨here, later⟩ := List.forall_mem_cons.mp inner
      obtain ⟨ink, others⟩ := List.forall_mem_cons.mp filled
      cases rest with
      | nil =>
          have single : join newline [line] = line := List.intercalate_singleton
          rw [single, boundaryLines_of_inner here ink]
      | cons next more =>
          rw [join_cons _ _ (by simp), boundaryLines_append_newline ending here, ih later others]

/-- A line ending is a line feed with nothing but blanks in front. -/
theorem exists_return :
    ∃ ret : Text, newline = ret ++ ['\n'] ∧ isBlankText ret = true ∧ '\n' ∉ ret := by
  rcases ending with rfl | rfl
  · exact ⟨[], rfl, rfl, by simp⟩
  · exact ⟨['\r'], rfl, by decide, by decide⟩

end Joined

/-- The lines between the line feeds of joined lines keep what stands in front of the feeds. -/
theorem splitLines_join {ret : Text} (unbroken : '\n' ∉ ret) {lines : List Text} {last : Text}
    (flat : ∀ line ∈ lines ++ [last], '\n' ∉ line) :
    splitLines (join (ret ++ ['\n']) (lines ++ [last])) = lines.map (· ++ ret) ++ [last] := by
  have alone {line : Text} (plain : '\n' ∉ line) : splitLines line = [line] := by
    simpa using @splitLines_joinLines [line] (by simpa using plain) (by simp)
  induction lines with
  | nil =>
      have single : join (ret ++ ['\n']) ([] ++ [last]) = last := List.intercalate_singleton
      rw [single, alone (flat last (by simp))]
      rfl
  | cons line rest ih =>
      obtain ⟨here, later⟩ := List.forall_mem_cons.mp flat
      have cut : line ++ (ret ++ ['\n']) ++ join (ret ++ ['\n']) (rest ++ [last]) =
          (line ++ ret) ++ '\n' :: join (ret ++ ['\n']) (rest ++ [last]) := by simp
      rw [List.cons_append, join_cons _ _ (by simp), cut, splitLines_append_newline, ih later,
        alone (by simp [here, unbroken])]
      rfl

end Scholia.Text
