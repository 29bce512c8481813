import Scholia.Comment.Markers
import Scholia.Proofs.Text.Trimming

/-! # Cutting and joining lines

Joining at line feeds undoes cutting there. A passage is a list of lines that stands for a text
and comes back from it whole: trimming, cutting and dropping blank ends leave it alone.
-/

namespace Scholia.Text

theorem splitAt_eq_splitOn (separator : Char) (text : Text) :
    splitAt separator text = text.splitOn separator := by
  induction text with
  | nil => rfl
  | cons c rest ih =>
      simp only [splitAt, ih, List.splitOn_cons_eq_if_modifyHead, beq_iff_eq]
      split
      · rfl
      · cases cut : rest.splitOn separator with
        | nil => exact absurd cut (List.splitOn_ne_nil _ _)
        | cons line lines => rfl

theorem joinLines_splitLines (text : Text) : joinLines (splitLines text) = text := by
  rw [splitLines, splitAt_eq_splitOn]
  exact List.intercalate_splitOn '\n'

theorem splitLines_joinLines {lines : List Text} (unbroken : ∀ line ∈ lines, '\n' ∉ line)
    (filled : lines ≠ []) : splitLines (joinLines lines) = lines := by
  rw [splitLines, splitAt_eq_splitOn]
  exact List.splitOn_intercalate '\n' unbroken filled

theorem splitLines_append_newline (first second : Text) :
    splitLines (first ++ '\n' :: second) = splitLines first ++ splitLines second := by
  simp only [splitLines, splitAt_eq_splitOn]
  exact List.splitOn_append_cons_self first second

theorem splitLines_ne_nil (text : Text) : splitLines text ≠ [] := by
  rw [splitLines, splitAt_eq_splitOn]
  exact List.splitOn_ne_nil _ _

@[simp] theorem joinLines_nil : joinLines [] = [] := rfl

@[simp] theorem joinLines_singleton (line : Text) : joinLines [line] = line := by
  simp [joinLines, join]

@[simp] theorem joinLines_cons_cons (line next : Text) (rest : List Text) :
    joinLines (line :: next :: rest) = line ++ '\n' :: joinLines (next :: rest) := by
  simp [joinLines, join]

theorem joinLines_cons (line : Text) {rest : List Text} (more : rest ≠ []) :
    joinLines (line :: rest) = line ++ '\n' :: joinLines rest := by
  cases rest with
  | nil => exact absurd rfl more
  | cons next rest => exact joinLines_cons_cons line next rest

theorem joinLines_append {first second : List Text} (left : first ≠ []) (right : second ≠ []) :
    joinLines (first ++ second) = joinLines first ++ '\n' :: joinLines second := by
  induction first with
  | nil => exact absurd rfl left
  | cons line rest ih =>
      cases rest with
      | nil => simpa using joinLines_cons line right
      | cons next rest =>
          rw [List.cons_append, List.cons_append, joinLines_cons_cons, ← List.cons_append,
            ih (List.cons_ne_nil _ _), joinLines_cons_cons]
          simp only [List.append_assoc, List.cons_append]

/-- The lines with the blanks in front of the first one dropped. -/
def flushFirst : List Text → List Text
  | [] => []
  | line :: rest => trimStart line :: rest

theorem mem_flushFirst {line : Text} {lines : List Text} (member : line ∈ flushFirst lines) :
    ∃ source ∈ lines, line = source ∨ line = trimStart source := by
  cases lines with
  | nil => cases member
  | cons first rest =>
      rcases List.mem_cons.mp member with rfl | later
      · exact ⟨first, List.mem_cons_self, .inr rfl⟩
      · exact ⟨line, List.mem_cons_of_mem _ later, .inl rfl⟩

/-- Blanks in front of a text stand in its blank first lines and in front of the line after. -/
theorem trimStart_joinLines (lines : List Text) :
    trimStart (joinLines lines) = joinLines (flushFirst (lines.dropWhile isBlankText)) := by
  induction lines with
  | nil => rfl
  | cons line rest ih =>
      by_cases blank : isBlankText line = true
      · have nothing : trimStart line = [] := trimStart_eq_nil.mpr blank
        rw [List.dropWhile_cons_of_pos blank, ← ih]
        cases rest with
        | nil => simp [nothing]
        | cons next rest =>
            rw [joinLines_cons_cons, trimStart_append, if_pos nothing,
              trimStart_of_blank (by decide)]
      · have filled : trimStart line ≠ [] := mt trimStart_eq_nil.mp blank
        rw [List.dropWhile_cons_of_neg blank, flushFirst]
        cases rest with
        | nil => simp
        | cons next rest =>
            rw [joinLines_cons_cons, joinLines_cons_cons, trimStart_append, if_neg filled]

theorem isInfix_joinLines {line : Text} {lines : List Text} (member : line ∈ lines) :
    line <:+: joinLines lines := by
  induction lines with
  | nil => cases member
  | cons first rest ih =>
      cases rest with
      | nil => simp [List.mem_singleton.mp member]
      | cons next rest =>
          rw [joinLines_cons_cons]
          rcases List.mem_cons.mp member with rfl | later
          · exact (List.prefix_append _ _).isInfix
          · refine (ih later).trans (List.IsSuffix.isInfix ?_)
            exact (List.suffix_cons _ _).trans (List.suffix_append _ _)

theorem newline_not_mem_of_mem_splitLines {text line : Text} (member : line ∈ splitLines text) :
    '\n' ∉ line := by
  induction text generalizing line with
  | nil =>
      rw [splitLines, splitAt, List.mem_singleton] at member
      simp [member]
  | cons c rest ih =>
      simp only [splitLines, splitAt] at member
      split at member
      · rcases List.mem_cons.mp member with rfl | later
        · simp
        · exact ih later
      · next other =>
        cases cut : splitAt '\n' rest with
        | nil => exact absurd cut (splitLines_ne_nil rest)
        | cons first others =>
            have old : ∀ kept ∈ first :: others, '\n' ∉ kept := by
              intro kept inside
              refine ih ?_
              rwa [splitLines, cut]
            rw [cut] at member
            rcases List.mem_cons.mp member with rfl | later
            · simpa [Ne.symm other] using old first List.mem_cons_self
            · exact old line (List.mem_cons_of_mem _ later)

/-- A line has no blanks at its end. -/
def Tidy (line : Text) : Prop :=
  trimEnd line = line

theorem tidy_iff {line : Text} :
    Tidy line ↔ ∀ c, line.getLast? = some c → isBlank c = false := by
  have whole : Tidy line ↔ ∀ filled : line ≠ [], ¬isBlank (line.getLast filled) = true :=
    List.rdropWhile_eq_self_iff
  rw [whole]
  constructor
  · intro ink c last
    have filled : line ≠ [] := by
      rintro rfl
      cases last
    rw [List.getLast?_eq_some_getLast filled, Option.some.injEq] at last
    simpa [last] using ink filled
  · intro ink filled
    simpa using ink _ (List.getLast?_eq_some_getLast filled)

theorem Tidy.isBlankText_iff {line : Text} (tidy : Tidy line) :
    isBlankText line = true ↔ line = [] := by
  rw [← trimEnd_eq_nil, tidy]

theorem Tidy.trimStart {line : Text} (tidy : Tidy line) : Tidy (trimStart line) := by
  rw [Tidy, ← trim, ← trimStart_trimEnd, tidy]

theorem tidy_joinLines_append (lines : List Text) {last : Text} (tidy : Tidy last)
    (filled : last ≠ []) : Tidy (joinLines (lines ++ [last])) := by
  cases lines with
  | nil => simpa using tidy
  | cons line rest =>
      have feed : trimEnd ('\n' :: last) = '\n' :: last := by
        rw [trimEnd_cons, tidy, if_neg filled]
      rw [joinLines_append (List.cons_ne_nil _ _) (List.cons_ne_nil _ _), joinLines_singleton,
        Tidy, trimEnd_append, feed, if_neg (List.cons_ne_nil _ _)]

/-- Trimming the end of a text made of tidy lines drops its blank last lines. -/
theorem trimEnd_joinLines {lines : List Text} (tidy : ∀ line ∈ lines, Tidy line) :
    trimEnd (joinLines lines) = joinLines (lines.rdropWhile isBlankText) := by
  induction lines using List.reverseRecOn with
  | nil => rfl
  | append_singleton lines last ih =>
      have stops : Tidy last := tidy last (by simp)
      by_cases blank : isBlankText last = true
      · rw [List.rdropWhile_concat_pos _ _ _ blank,
          ← ih fun line member => tidy line (List.mem_append_left _ member),
          stops.isBlankText_iff.mp blank]
        by_cases empty : lines = []
        · simp [empty]
        · rw [joinLines_append empty (List.cons_ne_nil _ _), trimEnd_append]
          exact if_pos rfl
      · rw [List.rdropWhile_concat_neg _ _ _ blank]
        exact tidy_joinLines_append lines stops fun empty => blank (by simp [empty])

theorem dropBlankEnds_eq_dropWhile (lines : List Text) :
    Comment.dropBlankEnds lines = (lines.rdropWhile isBlankText).dropWhile isBlankText :=
  (dropWhile_rdropWhile isBlankText lines).symm

theorem dropBlankEnds_isInfix (lines : List Text) : Comment.dropBlankEnds lines <:+: lines :=
  (List.rdropWhile_prefix _ _).isInfix.trans (List.dropWhile_suffix _).isInfix

theorem mem_of_mem_dropBlankEnds {line : Text} {lines : List Text}
    (member : line ∈ Comment.dropBlankEnds lines) : line ∈ lines :=
  (dropBlankEnds_isInfix lines).subset member

theorem dropBlankEnds_cons {line : Text} (blank : isBlankText line = true) (lines : List Text) :
    Comment.dropBlankEnds (line :: lines) = Comment.dropBlankEnds lines := by
  rw [Comment.dropBlankEnds, List.dropWhile_cons_of_pos blank, ← Comment.dropBlankEnds]

theorem dropBlankEnds_concat {line : Text} (blank : isBlankText line = true) (lines : List Text) :
    Comment.dropBlankEnds (lines ++ [line]) = Comment.dropBlankEnds lines := by
  rw [dropBlankEnds_eq_dropWhile, List.rdropWhile_concat_pos _ _ _ blank,
    ← dropBlankEnds_eq_dropWhile]

theorem trim_joinLines {lines : List Text} (tidy : ∀ line ∈ lines, Tidy line) :
    trim (joinLines lines) = joinLines (flushFirst (Comment.dropBlankEnds lines)) := by
  rw [dropBlankEnds_eq_dropWhile, ← trimStart_trimEnd, trimEnd_joinLines tidy,
    trimStart_joinLines]

theorem dropWhile_isEmpty {lines : List Text} (tidy : ∀ line ∈ lines, Tidy line) :
    lines.dropWhile List.isEmpty = lines.dropWhile isBlankText := by
  induction lines with
  | nil => rfl
  | cons line rest ih =>
      have same : line.isEmpty = isBlankText line := by
        rw [Bool.eq_iff_iff, List.isEmpty_iff, (tidy line List.mem_cons_self).isBlankText_iff]
      rw [List.dropWhile_cons, List.dropWhile_cons, same,
        ih fun line member => tidy line (List.mem_cons_of_mem _ member)]

/-- What is left of tidy lines that are joined without the empty ones in front, and trimmed. -/
theorem trimEnd_joinLines_dropWhile {lines : List Text} (tidy : ∀ line ∈ lines, Tidy line) :
    trimEnd (joinLines (lines.dropWhile List.isEmpty)) =
      joinLines (Comment.dropBlankEnds lines) := by
  rw [dropWhile_isEmpty tidy]
  exact trimEnd_joinLines fun line member => tidy line ((List.dropWhile_suffix _).subset member)

/-- Lines that come back whole from the text they are joined to: they hold no line feeds, have no
blanks at their ends, and neither the first nor the last one is empty. -/
structure Passage (lines : List Text) : Prop where
  unbroken : ∀ line ∈ lines, '\n' ∉ line
  tidy : ∀ line ∈ lines, Tidy line
  opens : lines.head? ≠ some []
  closes : lines.getLast? ≠ some []

/-- The lines of a text, none for the empty text. -/
def passage (text : Text) : List Text :=
  if text.isEmpty then [] else splitLines text

theorem passage_eq_nil {text : Text} : passage text = [] ↔ text = [] := by
  unfold passage
  split
  · next empty => simpa using empty
  · next filled =>
    exact ⟨fun nothing => absurd nothing (splitLines_ne_nil text), fun empty => by simp [empty] at filled⟩

theorem newline_not_mem_of_mem_passage {text line : Text} (member : line ∈ passage text) :
    '\n' ∉ line := by
  unfold passage at member
  split at member
  · cases member
  · exact newline_not_mem_of_mem_splitLines member

theorem passage_of_splitLines {text first : Text} {rest : List Text}
    (cut : splitLines text = first :: rest) :
    (text = [] ∧ first = [] ∧ rest = []) ∨ (text ≠ [] ∧ passage text = first :: rest) := by
  by_cases empty : text = []
  · rw [empty] at cut
    obtain ⟨rfl, rfl⟩ := List.cons.inj cut
    exact .inl ⟨empty, rfl, rfl⟩
  · exact .inr ⟨empty, by rw [passage, if_neg (by simpa [List.isEmpty_iff] using empty), cut]⟩

theorem joinLines_passage (text : Text) : joinLines (passage text) = text := by
  unfold passage
  split
  · next empty => simp [List.isEmpty_iff.mp empty]
  · exact joinLines_splitLines text

namespace Passage

theorem nil : Passage [] :=
  ⟨by simp, by simp, by simp, by simp⟩

theorem joinLines_eq_nil {lines : List Text} (whole : Passage lines) :
    joinLines lines = [] ↔ lines = [] := by
  constructor
  · intro nothing
    cases lines with
    | nil => rfl
    | cons line rest =>
        have empty : line = [] := by
          cases rest with
          | nil => simpa using nothing
          | cons next rest => simp at nothing
        exact absurd (by simp [empty]) whole.opens
  · rintro rfl
    rfl

theorem passage_joinLines {lines : List Text} (whole : Passage lines) :
    passage (joinLines lines) = lines := by
  unfold passage
  by_cases empty : lines = []
  · simp [empty]
  · rw [if_neg (by simpa [List.isEmpty_iff] using mt whole.joinLines_eq_nil.mp empty),
      splitLines_joinLines whole.unbroken empty]

theorem head_ne_nil {line : Text} {rest : List Text} (whole : Passage (line :: rest)) :
    line ≠ [] :=
  fun empty => whole.opens (by simp [empty])

theorem tidy_joinLines {lines : List Text} (whole : Passage lines) : Tidy (joinLines lines) := by
  rcases List.eq_nil_or_concat lines with rfl | ⟨before, last, rfl⟩
  · exact trimEnd_nil
  · rw [List.concat_eq_append] at whole ⊢
    exact tidy_joinLines_append before (whole.tidy last (by simp)) fun empty =>
      whole.closes (by simp [empty])

theorem isBlankText_head {line : Text} {rest : List Text} (whole : Passage (line :: rest)) :
    isBlankText line = false := by
  rw [← Bool.not_eq_true, (whole.tidy line List.mem_cons_self).isBlankText_iff]
  exact whole.head_ne_nil

theorem dropWhile_eq {lines : List Text} (whole : Passage lines) :
    lines.dropWhile isBlankText = lines := by
  cases lines with
  | nil => rfl
  | cons line rest => exact List.dropWhile_cons_of_neg (by simp [whole.isBlankText_head])

theorem dropBlankEnds_eq {lines : List Text} (whole : Passage lines) :
    Comment.dropBlankEnds lines = lines := by
  rw [Comment.dropBlankEnds, whole.dropWhile_eq]
  refine List.rdropWhile_eq_self_iff.mpr fun filled blank => whole.closes ?_
  have empty := ((whole.tidy _ (List.getLast_mem filled)).isBlankText_iff).mp blank
  rw [List.getLast?_eq_some_getLast filled, empty]

theorem trimStart_joinLines_eq {lines : List Text} (whole : Passage lines) :
    trimStart (joinLines lines) = joinLines (flushFirst lines) := by
  rw [trimStart_joinLines, whole.dropWhile_eq]

theorem flushFirst {lines : List Text} (whole : Passage lines) : Passage (flushFirst lines) := by
  cases lines with
  | nil => exact nil
  | cons line rest =>
      have filled : trimStart line ≠ [] := by
        rw [Ne, trimStart_eq_nil, whole.isBlankText_head]
        decide
      refine ⟨?_, ?_, by simpa [Text.flushFirst] using filled, ?_⟩
      · intro other member
        rcases List.mem_cons.mp member with rfl | later
        · exact fun feed =>
            whole.unbroken line List.mem_cons_self ((trimStart_isSuffix line).subset feed)
        · exact whole.unbroken other (List.mem_cons_of_mem _ later)
      · intro other member
        rcases List.mem_cons.mp member with rfl | later
        · exact (whole.tidy line List.mem_cons_self).trimStart
        · exact whole.tidy other (List.mem_cons_of_mem _ later)
      · cases rest with
        | nil => simpa [Text.flushFirst] using filled
        | cons next rest => simpa [Text.flushFirst] using whole.closes

/-- A text that is a passage, trimmed. -/
theorem passage_trim {text : Text} (whole : Passage (passage text)) :
    passage (trim text) = Text.flushFirst (passage text) := by
  have start : trim text = joinLines (Text.flushFirst (passage text)) := by
    rw [← whole.trimStart_joinLines_eq, joinLines_passage, ← trimStart_trimEnd,
      ← joinLines_passage text, whole.tidy_joinLines]
  rw [start, whole.flushFirst.passage_joinLines]

/-- A passage does not start with a blank if its text does not. -/
theorem flushFirst_eq_iff {text : Text} (whole : Passage (passage text)) :
    trimStart text = text ↔ Text.flushFirst (passage text) = passage text := by
  have start : trimStart text = joinLines (Text.flushFirst (passage text)) := by
    rw [← whole.trimStart_joinLines_eq, joinLines_passage]
  constructor
  · intro same
    rw [← whole.flushFirst.passage_joinLines, ← start, same]
  · intro same
    rw [start, same, joinLines_passage]

theorem append {first second : List Text} (left : Passage first) (right : Passage second) :
    Passage (first ++ second) where
  unbroken := by
    intro line member
    exact (List.mem_append.mp member).elim (left.unbroken line) (right.unbroken line)
  tidy := by
    intro line member
    exact (List.mem_append.mp member).elim (left.tidy line) (right.tidy line)
  opens := by
    cases first with
    | nil => exact right.opens
    | cons line rest => exact left.opens
  closes := by
    cases second with
    | nil => simpa using left.closes
    | cons line rest => simpa [List.getLast?_append_cons] using right.closes

/-- Two passages with an empty line between them are one. -/
theorem append_gap {first second : List Text} (left : Passage first) (right : Passage second)
    (start : first ≠ []) (filled : second ≠ []) : Passage (first ++ [] :: second) where
  unbroken := by
    intro line member
    rcases List.mem_append.mp member with before | after
    · exact left.unbroken line before
    · rcases List.mem_cons.mp after with rfl | after
      · simp
      · exact right.unbroken line after
  tidy := by
    intro line member
    rcases List.mem_append.mp member with before | after
    · exact left.tidy line before
    · rcases List.mem_cons.mp after with rfl | after
      · exact trimEnd_nil
      · exact right.tidy line after
  opens := by
    rw [List.head?_append_of_ne_nil _ start]
    exact left.opens
  closes := by
    cases second with
    | nil => exact absurd rfl filled
    | cons line rest =>
        rw [List.getLast?_append_cons, List.getLast?_cons_cons]
        exact right.closes

theorem flatMap {α : Type} {lines : α → List Text} {sources : List α}
    (whole : ∀ source ∈ sources, Passage (lines source)) : Passage (sources.flatMap lines) := by
  induction sources with
  | nil => exact nil
  | cons source rest ih =>
      obtain ⟨here, later⟩ := List.forall_mem_cons.mp whole
      exact here.append (ih later)

end Passage

/-- Dropping the blank lines at both ends of tidy lines leaves a passage. -/
theorem passage_dropBlankEnds {lines : List Text} (unbroken : ∀ line ∈ lines, '\n' ∉ line)
    (tidy : ∀ line ∈ lines, Tidy line) : Passage (Comment.dropBlankEnds lines) := by
  have back : Comment.dropBlankEnds lines <+: lines.dropWhile isBlankText :=
    List.rdropWhile_prefix _ _
  refine ⟨fun line member => unbroken line (mem_of_mem_dropBlankEnds member),
    fun line member => tidy line (mem_of_mem_dropBlankEnds member), ?_, ?_⟩
  · intro empty
    have first : (lines.dropWhile isBlankText).head? = some [] :=
      List.singleton_prefix_iff_head?_eq_some.mp
        ((List.singleton_prefix_iff_head?_eq_some.mpr empty).trans back)
    have ink := List.head?_dropWhile_not isBlankText lines
    rw [first] at ink
    exact absurd ink (by simp)
  · intro empty
    have filled : Comment.dropBlankEnds lines ≠ [] := by
      intro nothing
      simp [nothing] at empty
    have last : (Comment.dropBlankEnds lines).getLast filled = [] := by
      simpa [List.getLast?_eq_some_getLast filled] using empty
    apply List.rdropWhile_last_not isBlankText (lines.dropWhile isBlankText) filled
    exact (congrArg isBlankText last).trans isBlankText_nil

/-- Lines without blanks at their ends make up a passage if their text is trimmed. -/
theorem passage_of_trim_eq {text : Text} (trimmed : trim text = text)
    (tidy : ∀ line ∈ passage text, Tidy line) : Passage (passage text) := by
  have kept : Passage (flushFirst (Comment.dropBlankEnds (passage text))) :=
    (passage_dropBlankEnds (fun _ => newline_not_mem_of_mem_passage) tidy).flushFirst
  have whole : text = joinLines (flushFirst (Comment.dropBlankEnds (passage text))) := by
    rw [← trim_joinLines tidy, joinLines_passage, trimmed]
  rw [whole, kept.passage_joinLines]
  exact kept

end Scholia.Text
