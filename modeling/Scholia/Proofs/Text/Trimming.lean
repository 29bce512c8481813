import Mathlib.Data.List.DropRight
import Scholia.Text.Basic
import Scholia.Text.Lines

/-! # Trimming

Trimming at the end is read from the front here: a character stays unless it is a blank and
nothing after it stays. Both trimmings then go along with appending, which is what the proofs
about lines and comments use.
-/

namespace Scholia

section FromTheEnd

variable {α : Type} (p : α → Bool)

theorem rdropWhile_append (first second : List α) :
    (first ++ second).rdropWhile p =
      if second.rdropWhile p = [] then first.rdropWhile p else first ++ second.rdropWhile p := by
  simp only [List.rdropWhile, List.reverse_append, List.dropWhile_append, List.isEmpty_iff,
    List.reverse_eq_nil_iff]
  split
  · rfl
  · simp only [List.reverse_append, List.reverse_reverse]

/-- What is dropped at the end, told from the front. -/
theorem rdropWhile_cons (a : α) (rest : List α) :
    (a :: rest).rdropWhile p =
      if rest.rdropWhile p = [] then (if p a = true then [] else [a])
      else a :: rest.rdropWhile p := by
  rw [← List.rdropWhile_singleton p a]
  exact rdropWhile_append p [a] rest

/-- It does not matter at which end dropping begins. -/
theorem dropWhile_rdropWhile (list : List α) :
    (list.rdropWhile p).dropWhile p = (list.dropWhile p).rdropWhile p := by
  induction list with
  | nil => rfl
  | cons a rest ih =>
      rw [rdropWhile_cons, List.dropWhile_cons]
      by_cases dropped : p a = true
      · rw [if_pos dropped, if_pos dropped, ← ih]
        split
        · next nothing => rw [nothing]
        · rw [List.dropWhile_cons_of_pos dropped]
      · rw [if_neg dropped, if_neg dropped, rdropWhile_cons, if_neg dropped]
        split <;> rw [List.dropWhile_cons_of_neg dropped]

end FromTheEnd

namespace Text

@[simp] theorem trimStart_nil : trimStart [] = [] := rfl

@[simp] theorem trimEnd_nil : trimEnd [] = [] := rfl

@[simp] theorem isBlankText_nil : isBlankText [] = true := rfl

@[simp] theorem isBlankText_cons (c : Char) (text : Text) :
    isBlankText (c :: text) = (isBlank c && isBlankText text) := rfl

theorem trimStart_of_blank {c : Char} (blank : isBlank c = true) (text : Text) :
    trimStart (c :: text) = trimStart text :=
  List.dropWhile_cons_of_pos blank

theorem trimStart_of_ink {c : Char} (ink : isBlank c = false) (text : Text) :
    trimStart (c :: text) = c :: text :=
  List.dropWhile_cons_of_neg (by simp [ink])

theorem trimStart_eq_self_iff {text : Text} :
    trimStart text = text ↔ ∀ c, text.head? = some c → isBlank c = false := by
  cases text with
  | nil => simp
  | cons c rest =>
      simp only [List.head?_cons, Option.some.injEq, forall_eq']
      constructor
      · intro same
        have ink := List.head?_dropWhile_not isBlank (c :: rest)
        rw [← trimStart, same] at ink
        simpa using ink
      · exact fun ink => trimStart_of_ink ink rest

theorem trimStart_append (first second : Text) :
    trimStart (first ++ second) =
      if trimStart first = [] then trimStart second else trimStart first ++ second := by
  induction first with
  | nil => rfl
  | cons c first ih =>
      cases blank : isBlank c with
      | true => rw [List.cons_append, trimStart_of_blank blank, trimStart_of_blank blank, ih]
      | false =>
          rw [List.cons_append, trimStart_of_ink blank, trimStart_of_ink blank,
            if_neg (List.cons_ne_nil c first), List.cons_append]

theorem trimEnd_append (first second : Text) :
    trimEnd (first ++ second) =
      if trimEnd second = [] then trimEnd first else first ++ trimEnd second :=
  rdropWhile_append isBlank first second

theorem trimEnd_cons (c : Char) (text : Text) :
    trimEnd (c :: text) =
      if trimEnd text = [] then (if isBlank c = true then [] else [c]) else c :: trimEnd text :=
  rdropWhile_cons isBlank c text

theorem trimEnd_cons_of_ink {c : Char} (ink : isBlank c = false) (text : Text) :
    trimEnd (c :: text) = c :: trimEnd text := by
  rw [trimEnd_cons]
  split
  · next nothing => simp [ink, nothing]
  · rfl

theorem trimStart_eq_nil {text : Text} : trimStart text = [] ↔ isBlankText text = true := by
  simp [trimStart, isBlankText, List.dropWhile_eq_nil_iff]

theorem trimEnd_eq_nil {text : Text} : trimEnd text = [] ↔ isBlankText text = true := by
  induction text with
  | nil => simp
  | cons c text ih =>
      rw [trimEnd_cons, isBlankText_cons, Bool.and_eq_true, ← ih]
      split
      · next nothing => simp [nothing]
      · next something => simp [something]

theorem trimStart_trimEnd (text : Text) : trimStart (trimEnd text) = trim text :=
  dropWhile_rdropWhile isBlank text

theorem trimEnd_isPrefix (text : Text) : trimEnd text <+: text :=
  List.rdropWhile_prefix isBlank text

theorem head?_trimEnd {text : Text} (ink : trimEnd text ≠ []) :
    (trimEnd text).head? = text.head? := by
  obtain ⟨rest, whole⟩ := trimEnd_isPrefix text
  conv_rhs => rw [← whole]
  rw [List.head?_append_of_ne_nil _ ink]

theorem trimStart_isSuffix (text : Text) : trimStart text <:+ text :=
  List.dropWhile_suffix isBlank

theorem trim_isInfix (text : Text) : trim text <:+: text :=
  (trimEnd_isPrefix _).isInfix.trans (trimStart_isSuffix _).isInfix

@[simp] theorem trimStart_trimStart (text : Text) : trimStart (trimStart text) = trimStart text :=
  List.dropWhile_idempotent ..

@[simp] theorem trimEnd_trimEnd (text : Text) : trimEnd (trimEnd text) = trimEnd text :=
  List.rdropWhile_idempotent isBlank text

@[simp] theorem trimEnd_trim (text : Text) : trimEnd (trim text) = trim text :=
  trimEnd_trimEnd _

@[simp] theorem trim_trimEnd (text : Text) : trim (trimEnd text) = trim text := by
  rw [← trimStart_trimEnd, trimEnd_trimEnd, trimStart_trimEnd]

@[simp] theorem trimStart_trim (text : Text) : trimStart (trim text) = trim text := by
  rw [← trimStart_trimEnd, trimStart_trimStart]

@[simp] theorem trim_trimStart (text : Text) : trim (trimStart text) = trim text := by
  rw [trim, trimStart_trimStart, ← trim]

@[simp] theorem trim_trim (text : Text) : trim (trim text) = trim text := by
  rw [trim, trimStart_trim, trimEnd_trim]

theorem trim_append_of_blank {blanks : Text} (blank : isBlankText blanks = true) (text : Text) :
    trim (text ++ blanks) = trim text := by
  rw [← trim_trimEnd, trimEnd_append, if_pos (trimEnd_eq_nil.mpr blank), trim_trimEnd]

theorem trim_blank_append {blanks : Text} (blank : isBlankText blanks = true) (text : Text) :
    trim (blanks ++ text) = trim text := by
  rw [← trim_trimStart, trimStart_append, if_pos (trimStart_eq_nil.mpr blank), trim_trimStart]

theorem trim_eq_nil {text : Text} : trim text = [] ↔ isBlankText text = true := by
  constructor
  · intro nothing
    rw [← trimStart_trimEnd, trimStart_eq_nil] at nothing
    have ends : trimEnd (trimEnd text) = [] := trimEnd_eq_nil.mpr nothing
    exact trimEnd_eq_nil.mp (by rwa [trimEnd_trimEnd] at ends)
  · intro blank
    rw [trim, trimStart_eq_nil.mpr blank, trimEnd_nil]

/-- A trimmed text is trimmed at either end. -/
theorem trim_eq_self_iff {text : Text} :
    trim text = text ↔ trimStart text = text ∧ trimEnd text = text := by
  constructor
  · intro whole
    rw [← whole]
    exact ⟨trimStart_trim text, trimEnd_trim text⟩
  · rintro ⟨start, stop⟩
    rw [trim, start, stop]

end Text

end Scholia
