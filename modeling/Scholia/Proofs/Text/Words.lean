import Scholia.Proofs.Text.Lines

/-! # Words

The words of a text stand between its blanks. Trimming and collapsing blanks leave the words as they
are, and a text whose blanks are collapsed and trimmed is its words with single spaces between them.
-/

namespace Scholia

namespace Text

/-- The words of a text. -/
def words (text : Text) : List Text :=
  (text.splitOnP isBlank).filter fun word => !word.isEmpty

@[simp] theorem words_nil : words [] = [] := rfl

theorem words_append_cons {c : Char} (blank : isBlank c = true) (first second : Text) :
    words (first ++ c :: second) = words first ++ words second := by
  rw [words, List.splitOnP_append_cons first second blank, List.filter_append, ← words, ← words]

theorem words_cons_of_blank {c : Char} (blank : isBlank c = true) (text : Text) :
    words (c :: text) = words text :=
  words_append_cons blank [] text

theorem words_of_ink {word : Text} (ink : ∀ c ∈ word, isBlank c = false) (filled : word ≠ []) :
    words word = [word] := by
  rw [words, List.splitOnP_eq_singleton ink]
  simpa [List.isEmpty_iff] using filled

/-- A character that no other one follows in its word is a word. -/
theorem words_cons_of_gap {c : Char} (ink : isBlank c = false) {text : Text}
    (gap : ∀ d, text.head? = some d → isBlank d = true) :
    words (c :: text) = [c] :: words text := by
  cases text with
  | nil => exact words_of_ink (by simpa using ink) (List.cons_ne_nil c [])
  | cons d rest =>
      rw [← List.singleton_append, words_append_cons (gap d rfl), words_cons_of_blank (gap d rfl),
        words_of_ink (by simpa using ink) (List.cons_ne_nil c []), List.singleton_append]

/-- A character in front of a word is part of the word. -/
theorem words_cons_of_word {c d : Char} (front : isBlank c = false) (ink : isBlank d = false)
    {rest word : Text} {others : List Text} (same : words (d :: rest) = word :: others) :
    words (c :: d :: rest) = (c :: word) :: others := by
  have cons {e : Char} (ink : isBlank e = false) (text : Text) :
      (e :: text).splitOnP isBlank = (text.splitOnP isBlank).modifyHead (e :: ·) := by
    rw [List.splitOnP_cons_eq_if_modifyHead, if_neg (by simp [ink])]
  rw [words, cons ink] at same
  rw [words, cons front, cons ink]
  obtain ⟨first, fields, cut⟩ := List.exists_cons_of_ne_nil (List.splitOnP_ne_nil isBlank rest)
  simp only [cut, List.modifyHead_cons] at same ⊢
  rw [List.filter_cons_of_pos rfl] at same ⊢
  obtain ⟨rfl, rfl⟩ := List.cons.inj same
  rfl

/-- A text that starts with no blank starts with its first word. -/
theorem exists_words_cons {c : Char} (ink : isBlank c = false) (text : Text) :
    ∃ word others, words (c :: text) = (c :: word) :: others ∧ c :: word <+: c :: text := by
  induction text generalizing c with
  | nil => exact ⟨[], [], words_of_ink (by simpa using ink) (List.cons_ne_nil c []), List.prefix_rfl⟩
  | cons d rest ih =>
      cases blank : isBlank d with
      | true =>
          refine ⟨[], words (d :: rest), words_cons_of_gap ink ?_, ?_⟩
          · simpa using blank
          · simp
      | false =>
          obtain ⟨word, others, same, start⟩ := ih blank
          exact ⟨d :: word, others, words_cons_of_word ink blank same,
            List.cons_prefix_cons.mpr ⟨rfl, start⟩⟩

theorem ink_of_mem_words {text word : Text} (member : word ∈ words text) :
    word ≠ [] ∧ ∀ c ∈ word, isBlank c = false := by
  induction text generalizing word with
  | nil => cases member
  | cons c rest ih =>
      cases blank : isBlank c with
      | true =>
          rw [words_cons_of_blank blank] at member
          exact ih member
      | false =>
          by_cases gap : ∀ d, rest.head? = some d → isBlank d = true
          · rw [words_cons_of_gap blank gap] at member
            rcases List.mem_cons.mp member with rfl | later
            · exact ⟨List.cons_ne_nil c [], by simpa using blank⟩
            · exact ih later
          · simp only [not_forall, Bool.not_eq_true] at gap
            obtain ⟨d, next, ink⟩ := gap
            obtain ⟨tail, rfl⟩ := List.head?_eq_some_iff.mp next
            obtain ⟨first, others, same, -⟩ := exists_words_cons ink tail
            rw [words_cons_of_word blank ink same] at member
            rw [same] at ih
            rcases List.mem_cons.mp member with rfl | later
            · refine ⟨List.cons_ne_nil _ _, List.forall_mem_cons.mpr ⟨blank, ?_⟩⟩
              exact (ih List.mem_cons_self).2
            · exact ih (List.mem_cons_of_mem _ later)

theorem words_eq_nil {text : Text} : words text = [] ↔ isBlankText text = true := by
  induction text with
  | nil => simp
  | cons c rest ih =>
      cases blank : isBlank c with
      | true => rw [words_cons_of_blank blank, ih, isBlankText_cons, blank, Bool.true_and]
      | false =>
          obtain ⟨word, others, same, -⟩ := exists_words_cons blank rest
          simp [same, blank]

theorem words_trimStart (text : Text) : words (trimStart text) = words text := by
  induction text with
  | nil => rfl
  | cons c rest ih =>
      cases blank : isBlank c with
      | true => rw [trimStart_of_blank blank, ih, words_cons_of_blank blank]
      | false => rw [trimStart_of_ink blank]

theorem words_append_of_blank (text : Text) {blanks : Text} (blank : isBlankText blanks = true) :
    words (text ++ blanks) = words text := by
  cases blanks with
  | nil => rw [List.append_nil]
  | cons c rest =>
      rw [isBlankText_cons, Bool.and_eq_true] at blank
      rw [words_append_cons blank.1, words_eq_nil.mpr blank.2, List.append_nil]

theorem words_trimEnd (text : Text) : words (trimEnd text) = words text := by
  induction text using List.reverseRecOn with
  | nil => rfl
  | append_singleton text c ih =>
      cases blank : isBlank c with
      | true =>
          have trimmed : trimEnd (text ++ [c]) = trimEnd text :=
            List.rdropWhile_concat_pos isBlank text c blank
          rw [trimmed, ih, words_append_of_blank]
          simpa using blank
      | false =>
          have trimmed : trimEnd (text ++ [c]) = text ++ [c] :=
            List.rdropWhile_concat_neg isBlank text c (by simp [blank])
          rw [trimmed]

theorem words_trim (text : Text) : words (trim text) = words text := by
  rw [trim, words_trimEnd, words_trimStart]

/-- The words of texts with a blank between them are those of each text. -/
theorem words_join {c : Char} (blank : isBlank c = true) (texts : List Text) :
    words (join [c] texts) = texts.flatMap words := by
  induction texts with
  | nil => rfl
  | cons text rest ih =>
      cases rest with
      | nil => simp [join]
      | cons next rest =>
          rw [join, List.intercalate_cons_cons, List.append_assoc, List.singleton_append,
            words_append_cons blank, ← join, ih, ← List.flatMap_cons]

theorem words_joinLines (lines : List Text) : words (joinLines lines) = lines.flatMap words :=
  words_join (by decide) lines

theorem flatMap_words_splitLines (text : Text) : (splitLines text).flatMap words = words text := by
  rw [← words_joinLines, joinLines_splitLines]

theorem flatMap_words_dropBlankEnds (lines : List Text) :
    (Comment.dropBlankEnds lines).flatMap words = lines.flatMap words := by
  have front : (lines.dropWhile isBlankText).flatMap words = lines.flatMap words := by
    induction lines with
    | nil => rfl
    | cons line rest ih =>
        by_cases blank : isBlankText line = true
        · rw [List.dropWhile_cons_of_pos blank, ih, List.flatMap_cons, words_eq_nil.mpr blank,
            List.nil_append]
        · rw [List.dropWhile_cons_of_neg blank]
  rw [← front]
  show ((lines.dropWhile isBlankText).rdropWhile isBlankText).flatMap words = _
  generalize lines.dropWhile isBlankText = list
  induction list using List.reverseRecOn with
  | nil => rfl
  | append_singleton list last ih =>
      by_cases blank : isBlankText last = true
      · rw [List.rdropWhile_concat_pos _ _ _ blank, ih, List.flatMap_append, List.flatMap_singleton,
          words_eq_nil.mpr blank, List.append_nil]
      · rw [List.rdropWhile_concat_neg _ _ _ blank]

/-- The words of a text make it up again. -/
theorem words_join_words (text : Text) : words (join [' '] (words text)) = words text := by
  rw [words_join (by decide)]
  have single : ∀ word ∈ words text, words word = [word] := fun word member =>
    words_of_ink (ink_of_mem_words member).2 (ink_of_mem_words member).1
  generalize words text = list at single ⊢
  induction list with
  | nil => rfl
  | cons word rest ih =>
      obtain ⟨here, later⟩ := List.forall_mem_cons.mp single
      rw [List.flatMap_cons, here, ih later, List.singleton_append]

theorem join_cons_cons (c : Char) (word : Text) (others : List Text) :
    join [' '] ((c :: word) :: others) = c :: join [' '] (word :: others) := by
  cases others <;> simp [join]

theorem join_words_ne_nil {text : Text} (filled : words text ≠ []) :
    join [' '] (words text) ≠ [] := by
  intro nothing
  rw [← words_join_words, nothing] at filled
  exact filled rfl

theorem collapseBlanks_cons_of_ink {c : Char} (ink : isBlank c = false) (text : Text) :
    collapseBlanks (c :: text) = c :: collapseBlanks text := by
  rw [collapseBlanks.eq_def]
  simp [ink]

theorem collapseBlanks_cons_cons {c : Char} (blank : isBlank c = true) (d : Char) (text : Text) :
    collapseBlanks (c :: d :: text) =
      if isBlank d then collapseBlanks (d :: text) else ' ' :: collapseBlanks (d :: text) := by
  rw [collapseBlanks.eq_def]
  simp [blank]

/-- The words with single spaces between them, and one in front if the text starts with a blank. -/
def spaced (text : Text) : Text :=
  if text.head?.any isBlank && !(words text).isEmpty then ' ' :: join [' '] (words text)
  else join [' '] (words text)

theorem spaced_of_blank {c : Char} (blank : isBlank c = true) {text : Text}
    (filled : words text ≠ []) : spaced (c :: text) = ' ' :: join [' '] (words text) := by
  have present : (words text).isEmpty = false := by simpa [List.isEmpty_iff] using filled
  rw [spaced, words_cons_of_blank blank, List.head?_cons, Option.any_some, blank, present]
  rfl

theorem spaced_of_ink {c : Char} (ink : isBlank c = false) (text : Text) :
    spaced (c :: text) = join [' '] (words (c :: text)) := by
  rw [spaced, List.head?_cons, Option.any_some, ink]
  rfl

/-- A character that is no blank goes in front of the first word, or makes a word of its own. -/
theorem join_words_cons_of_ink {c : Char} (ink : isBlank c = false) (text : Text) :
    join [' '] (words (c :: text)) = c :: spaced text := by
  cases text with
  | nil =>
      have single : words [c] = [[c]] :=
        words_of_ink (by simpa using ink) (List.cons_ne_nil c [])
      rw [single]
      rfl
  | cons d tail =>
      cases next : isBlank d with
      | true =>
          rw [words_cons_of_gap ink (by simpa using next)]
          cases cut : words (d :: tail) with
          | nil => simp [spaced, cut, join]
          | cons word others => simp [spaced, cut, next, join]
      | false =>
          obtain ⟨word, others, same, -⟩ := exists_words_cons next tail
          rw [words_cons_of_word ink next same, spaced_of_ink next, same, join_cons_cons c]

theorem trimEnd_collapseBlanks (text : Text) : trimEnd (collapseBlanks text) = spaced text := by
  induction text with
  | nil => rfl
  | cons c rest ih =>
      cases blank : isBlank c with
      | false =>
          rw [collapseBlanks_cons_of_ink blank, trimEnd_cons_of_ink blank, ih, spaced_of_ink blank,
            join_words_cons_of_ink blank]
      | true =>
          cases rest with
          | nil =>
              have space : collapseBlanks [c] = [' '] := by simp [collapseBlanks, blank]
              have nothing : spaced [c] = [] := by simp [spaced, words_cons_of_blank blank, join]
              rw [space, nothing]
              decide
          | cons d tail =>
              rw [collapseBlanks_cons_cons blank]
              cases next : isBlank d with
              | true =>
                  -- Only the last blank of a row leaves a space.
                  rw [if_pos rfl, ih, spaced, spaced, words_cons_of_blank blank]
                  simp only [List.head?_cons, Option.any_some, next, blank]
              | false =>
                  obtain ⟨word, others, same, -⟩ := exists_words_cons next tail
                  have filled : words (d :: tail) ≠ [] := by simp [same]
                  rw [if_neg Bool.false_ne_true, trimEnd_cons, ih, spaced_of_ink next,
                    if_neg (join_words_ne_nil filled), spaced_of_blank blank filled]

theorem trim_collapseBlanks (text : Text) :
    trim (collapseBlanks text) = join [' '] (words text) := by
  have start : trimStart (join [' '] (words text)) = join [' '] (words text) := by
    cases cut : words text with
    | nil => rfl
    | cons word others =>
        obtain ⟨filled, ink⟩ := ink_of_mem_words (cut ▸ List.mem_cons_self : word ∈ words text)
        obtain ⟨c, rest, rfl⟩ := List.exists_cons_of_ne_nil filled
        rw [join_cons_cons]
        exact trimStart_of_ink (ink c List.mem_cons_self) _
  rw [← trimStart_trimEnd, trimEnd_collapseBlanks, spaced]
  split
  · rw [trimStart_of_blank (by decide), start]
  · exact start

end Text

end Scholia
