import Scholia.Proofs.Comment.Tag
import Scholia.Reply

/-! # Fences around replies

A text in a fence can be read in several ways: line feeds at the seams may count to the fence or to
the body. All readings agree in the body but for blanks around it, and taking the fence off gives
this body, whatever fences stand inside of it.
-/

namespace Scholia.Reply

open Text

theorem isBlank_of_isLanguageChar {c : Char} (name : isLanguageChar c = true) :
    isBlank c = false :=
  Tag.isBlank_of_isNameChar name

/-- The text reads as a body in a fence: the opening fence with a language name, blanks and a line
    feed, the body, perhaps a line feed, and the closing fence with blanks. -/
def Encloses (text body : Text) : Prop :=
  ∃ language blanks feed rest, (∀ c ∈ language, isLanguageChar c = true) ∧
    isBlankText blanks = true ∧ (feed = [] ∨ feed = ['\n']) ∧ isBlankText rest = true ∧
    text = fence ++ (language ++ (blanks ++ '\n' :: (body ++ feed ++ fence))) ++ rest

/-- There is no way to read the text, once trimmed, as something in a fence. -/
def Unfenced (text : Text) : Prop :=
  ∀ body, ¬Encloses (trim text) body

/-! ## Texts between fences -/

theorem trimStart_fence_append (text : Text) : trimStart (fence ++ text) = fence ++ text :=
  trimStart_of_ink (by decide) _

theorem trimEnd_append_fence (text : Text) : trimEnd (text ++ fence) = text ++ fence := by
  have stays : trimEnd fence = fence := by decide
  rw [trimEnd_append, stays, if_neg (by decide)]

theorem trimStart_append_fence (text : Text) :
    trimStart (text ++ fence) = trimStart text ++ fence := by
  rw [trimStart_append]
  split
  · next nothing => rw [nothing]; rfl
  · rfl

theorem dropLast_append_fence (text : Text) : dropLast 3 (text ++ fence) = text := by
  rw [dropLast, List.length_append]
  exact List.take_left

/-- The language name ends where the blanks and the line feed after it begin. -/
theorem dropWhile_language {language blanks : Text}
    (name : ∀ c ∈ language, isLanguageChar c = true) (blank : isBlankText blanks = true)
    (rest : Text) : (language ++ (blanks ++ '\n' :: rest)).dropWhile isLanguageChar =
      blanks ++ '\n' :: rest := by
  rw [List.dropWhile_append_of_pos name]
  cases blanks with
  | nil => exact List.dropWhile_cons_of_neg (by decide)
  | cons c blanks =>
      refine List.dropWhile_cons_of_neg fun letter => ?_
      rw [isBlankText_cons, isBlank_of_isLanguageChar letter] at blank
      cases blank

/-- What a fence encloses is found behind the language name and the blanks after it. -/
theorem fenced?_fence_append (text : Text) :
    fenced? (fence ++ text) =
      if '\n' ∈ (text.dropWhile isLanguageChar).takeWhile isBlank ∧
          fence <:+ trimStart (text.dropWhile isLanguageChar) then
        some (trim (dropLast 3 (trimStart (text.dropWhile isLanguageChar))))
      else none := by
  have opens : startsWith fence (fence ++ text) = true := by
    rw [startsWith, List.isPrefixOf_iff_prefix]
    exact List.prefix_append fence text
  have behind : (fence ++ text).drop 3 = text := rfl
  unfold fenced?
  simp only [opens, behind, if_true, Bool.and_eq_true, List.contains_iff_mem, endsWith,
    List.isSuffixOf_iff_suffix]

/-- Nothing comes after the closing fence of a trimmed text. -/
theorem Encloses.closed {text body : Text} (encloses : Encloses text body)
    (trimmed : trim text = text) :
    ∃ language blanks feed, (∀ c ∈ language, isLanguageChar c = true) ∧
      isBlankText blanks = true ∧ (feed = [] ∨ feed = ['\n']) ∧
      text = fence ++ (language ++ (blanks ++ '\n' :: (body ++ feed ++ fence))) := by
  obtain ⟨language, blanks, feed, rest, name, blank, fed, ending, rfl⟩ := encloses
  refine ⟨language, blanks, feed, name, blank, fed, ?_⟩
  have ends := (trim_eq_self_iff.mp trimmed).2
  rw [trimEnd_append, if_pos (trimEnd_eq_nil.mpr ending)] at ends
  have short := (trimEnd_isPrefix (fence ++
    (language ++ (blanks ++ '\n' :: (body ++ feed ++ fence))))).length_le
  rw [ends, List.length_append] at short
  rw [List.length_eq_zero_iff.mp (by omega : rest.length = 0), List.append_nil]

theorem Encloses.fenced?_eq_some {text body : Text} (encloses : Encloses text body)
    (trimmed : trim text = text) : fenced? text = some (trim body) := by
  obtain ⟨language, blanks, feed, name, blank, fed, rfl⟩ := encloses.closed trimmed
  have inner : trimStart (blanks ++ '\n' :: (body ++ feed ++ fence)) =
      trimStart (body ++ feed) ++ fence := by
    rw [trimStart_append, if_pos (trimStart_eq_nil.mpr blank), trimStart_of_blank (by decide),
      trimStart_append_fence]
  have broken : '\n' ∈ (blanks ++ '\n' :: (body ++ feed ++ fence)).takeWhile Text.isBlank := by
    rw [List.takeWhile_append_of_pos (List.all_eq_true.mp blank),
      List.takeWhile_cons_of_pos (by decide)]
    simp
  have nothing : isBlankText feed = true := by
    rcases fed with rfl | rfl <;> decide
  rw [fenced?_fence_append, dropWhile_language name blank, inner,
    if_pos ⟨broken, List.suffix_append _ _⟩, dropLast_append_fence, trim_trimStart,
    trim_append_of_blank nothing]

theorem encloses_of_fenced? {text content : Text} (fenced : fenced? text = some content) :
    ∃ body, Encloses text body ∧ trim body = content := by
  have opens : fence <+: text := by
    rw [← List.isPrefixOf_iff_prefix]
    unfold Reply.fenced? at fenced
    split at fenced
    · next opens => exact opens
    · cases fenced
  obtain ⟨inside, rfl⟩ := opens
  rw [fenced?_fence_append] at fenced
  split at fenced
  · next seams =>
    obtain ⟨broken, body, closed⟩ := seams
    -- the opening line may end at any line feed among the blanks
    obtain ⟨first, second, blanks⟩ := List.append_of_mem broken
    have blank : isBlankText (first ++ '\n' :: second) = true := by
      rw [← blanks]
      exact List.all_eq_true.mpr fun c member => List.mem_takeWhile_imp member
    rw [isBlankText, List.all_append, List.all_cons, Bool.and_eq_true, Bool.and_eq_true] at blank
    refine ⟨second ++ body, ⟨inside.takeWhile isLanguageChar, first, [], [], ?_, blank.1,
      .inl rfl, rfl, ?_⟩, ?_⟩
    · exact fun c member => List.mem_takeWhile_imp member
    · have line : first ++ '\n' :: (second ++ body ++ [] ++ fence) =
          inside.dropWhile isLanguageChar := by
        rw [← List.takeWhile_append_dropWhile
          (p := isBlank) (l := inside.dropWhile isLanguageChar), blanks]
        change _ = _ ++ trimStart (inside.dropWhile isLanguageChar)
        rw [← closed]
        simp
      rw [line, List.takeWhile_append_dropWhile, List.append_nil]
    · rw [← closed, dropLast_append_fence] at fenced
      rw [trim_blank_append blank.2.2]
      exact Option.some.inj fenced
  · cases fenced

/-- A trimmed text is taken out of its fence just if it reads as something in a fence, and all
    readings agree in the content. -/
theorem fenced?_eq_some_iff {text content : Text} (trimmed : trim text = text) :
    fenced? text = some content ↔ ∃ body, Encloses text body ∧ trim body = content := by
  constructor
  · exact encloses_of_fenced?
  · rintro ⟨body, encloses, rfl⟩
    exact encloses.fenced?_eq_some trimmed

/-! ## Taking the fence off -/

theorem stripFence_of_encloses {text body : Text} (encloses : Encloses (trim text) body) :
    stripFence text = trim body := by
  have fenced := (fenced?_eq_some_iff (trim_trim text)).mpr ⟨body, encloses, rfl⟩
  rw [stripFence, fenced, Option.getD_some]

theorem unfenced_iff {text : Text} : Unfenced text ↔ fenced? (trim text) = none := by
  simp only [Option.eq_none_iff_forall_ne_some, ne_eq, fenced?_eq_some_iff (trim_trim text)]
  constructor
  · rintro unfenced content ⟨body, encloses, -⟩
    exact unfenced body encloses
  · intro none body encloses
    exact none _ ⟨body, encloses, rfl⟩

instance (text : Text) : Decidable (Unfenced text) :=
  decidable_of_iff _ unfenced_iff.symm

theorem stripFence_of_unfenced {text : Text} (unfenced : Unfenced text) :
    stripFence text = trim text := by
  rw [stripFence, unfenced_iff.mp unfenced, Option.getD_none]

/-- A text that lacks a fence at one of its ends is in none. -/
theorem unfenced_of_open {text : Text}
    (lacks : startsWith fence (trim text) = false ∨ endsWith fence (trim text) = false) :
    Unfenced text := by
  intro body encloses
  obtain ⟨language, blanks, feed, -, -, -, whole⟩ := encloses.closed (trim_trim text)
  rw [startsWith, endsWith, ← Bool.not_eq_true, ← Bool.not_eq_true, List.isPrefixOf_iff_prefix,
    List.isSuffixOf_iff_suffix] at lacks
  rcases lacks with noStart | noEnd
  · exact noStart ⟨_, whole.symm⟩
  · refine noEnd ⟨fence ++ (language ++ (blanks ++ '\n' :: (body ++ feed))), ?_⟩
    rw [whole]
    simp

/-- A text in a fence with a language name. -/
def inFence (language text : Text) : Text :=
  fence ++ language ++ '\n' :: text ++ '\n' :: fence

theorem trim_inFence (language text : Text) :
    trim (inFence language text) = inFence language text := by
  rw [trim_eq_self_iff]
  constructor
  · rw [inFence, List.append_assoc, List.append_assoc, trimStart_fence_append]
  · have ends : inFence language text = fence ++ language ++ '\n' :: text ++ ['\n'] ++ fence := by
      simp [inFence]
    rw [ends, trimEnd_append_fence]

theorem stripFence_inFence {before language after : Text} (text : Text)
    (left : isBlankText before = true) (name : ∀ c ∈ language, isLanguageChar c = true)
    (right : isBlankText after = true) :
    stripFence (before ++ inFence language text ++ after) = trim text := by
  refine stripFence_of_encloses ⟨language, [], ['\n'], [], name, rfl, .inr rfl, rfl, ?_⟩
  rw [trim_append_of_blank right, trim_blank_append left, trim_inFence, inFence]
  simp

end Scholia.Reply
