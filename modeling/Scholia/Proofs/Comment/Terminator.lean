import Scholia.Proofs.Text.Lines

/-! # Closing markers in texts

A text is unclosed if no closing marker occurs in it. Escaping makes every text unclosed and
leaves an unclosed one alone. As it only puts backslashes between a star and a slash, it goes along
with trimming, with joining lines and with everything else that looks at blanks.
-/

namespace Scholia

theorem Text.occursIn_iff {part text : Text} : occursIn part text = true ↔ part <:+: text := by
  induction text with
  | nil => simp [occursIn]
  | cons c rest ih =>
      rw [occursIn, Bool.or_eq_true, List.isPrefixOf_iff_prefix, ih, List.infix_cons_iff]

namespace Comment

open Text

/-- No closing marker occurs in the text. -/
def Unclosed (text : Text) : Prop :=
  ¬terminator <:+: text

/-- A star and a slash stand next to each other where the texts meet. -/
def Meet (first second : Text) : Prop :=
  first.getLast? = some '*' ∧ second.head? = some '/'

theorem unclosed_nil : Unclosed [] := by
  simp [Unclosed, terminator]

theorem unclosed_cons {c : Char} {rest : Text} :
    Unclosed (c :: rest) ↔ ¬(c = '*' ∧ rest.head? = some '/') ∧ Unclosed rest := by
  have front : terminator <+: c :: rest ↔ c = '*' ∧ rest.head? = some '/' := by
    rw [terminator, List.cons_prefix_cons, List.singleton_prefix_iff_head?_eq_some, eq_comm]
  rw [Unclosed, List.infix_cons_iff, front, not_or, Unclosed]

theorem unclosed_append {first second : Text} :
    Unclosed (first ++ second) ↔ Unclosed first ∧ Unclosed second ∧ ¬Meet first second := by
  induction first with
  | nil => simp [unclosed_nil, Meet]
  | cons c rest ih =>
      rw [List.cons_append, unclosed_cons, ih, unclosed_cons]
      cases rest with
      | nil => simp [Meet, unclosed_nil, and_comm]
      | cons d rest => simp only [List.cons_append, List.head?_cons, Meet, List.getLast?_cons_cons,
          and_assoc]

theorem Unclosed.of_isInfix {part text : Text} (unclosed : Unclosed text) (inside : part <:+: text) :
    Unclosed part :=
  fun occurs => unclosed (occurs.trans inside)

theorem unclosed_of_not_mem {text : Text} (starless : '*' ∉ text) : Unclosed text :=
  fun occurs => starless (occurs.subset List.mem_cons_self)

/-- A character other than star and slash keeps the texts around it apart. -/
theorem unclosed_append_cons {c : Char} (star : c ≠ '*') (slash : c ≠ '/') {first second : Text} :
    Unclosed (first ++ c :: second) ↔ Unclosed first ∧ Unclosed second := by
  rw [unclosed_append, unclosed_cons]
  simp [Meet, star, slash]

theorem escapeTerminators_cons (c : Char) (rest : Text) :
    escapeTerminators (c :: rest) =
      if c = '*' ∧ rest.head? = some '/' then c :: '\\' :: escapeTerminators rest
      else c :: escapeTerminators rest := by
  cases rest with
  | nil => simp [escapeTerminators]
  | cons d rest =>
      by_cases marker : c = '*' ∧ d = '/'
      · obtain ⟨rfl, rfl⟩ := marker
        simp [escapeTerminators]
      · rw [escapeTerminators.eq_2 c (d :: rest) (fun tail star same => marker ⟨star, by simp_all⟩)]
        simp [marker]

theorem escapeTerminators_nil : escapeTerminators [] = [] := rfl

@[simp] theorem head?_escapeTerminators (text : Text) :
    (escapeTerminators text).head? = text.head? := by
  cases text with
  | nil => rfl
  | cons c rest =>
      rw [escapeTerminators_cons]
      split <;> rfl

theorem escapeTerminators_eq_nil {text : Text} : escapeTerminators text = [] ↔ text = [] := by
  rw [← List.head?_eq_none_iff, head?_escapeTerminators, List.head?_eq_none_iff]

theorem unclosed_escapeTerminators (text : Text) : Unclosed (escapeTerminators text) := by
  induction text with
  | nil => exact unclosed_nil
  | cons c rest ih =>
      rw [escapeTerminators_cons]
      split
      · simp [unclosed_cons, ih]
      · next other => exact unclosed_cons.mpr ⟨by rwa [head?_escapeTerminators], ih⟩

theorem Unclosed.escapeTerminators_eq {text : Text} (unclosed : Unclosed text) :
    escapeTerminators text = text := by
  induction text with
  | nil => rfl
  | cons c rest ih =>
      obtain ⟨other, unclosed⟩ := unclosed_cons.mp unclosed
      rw [escapeTerminators_cons, if_neg other, ih unclosed]

@[simp] theorem escapeTerminators_escapeTerminators (text : Text) :
    escapeTerminators (escapeTerminators text) = escapeTerminators text :=
  (unclosed_escapeTerminators text).escapeTerminators_eq

theorem escapeTerminators_append {first second : Text} (apart : ¬Meet first second) :
    escapeTerminators (first ++ second) = escapeTerminators first ++ escapeTerminators second := by
  induction first with
  | nil => rfl
  | cons c rest ih =>
      cases rest with
      | nil =>
          have other : ¬(c = '*' ∧ second.head? = some '/') := by simpa [Meet] using apart
          rw [List.singleton_append, escapeTerminators_cons, if_neg other]
          simp [escapeTerminators_cons, escapeTerminators_nil]
      | cons d rest =>
          have later : ¬Meet (d :: rest) second := by
            simpa only [Meet, List.getLast?_cons_cons] using apart
          -- What is escaped at the first character depends on the one behind it only.
          rw [List.cons_append, escapeTerminators_cons, escapeTerminators_cons c (d :: rest),
            ih later]
          by_cases marker : c = '*' ∧ d = '/'
          · simp [marker]
          · simp [marker]

theorem escapeTerminators_append_cons {c : Char} (star : c ≠ '*') (slash : c ≠ '/')
    (first second : Text) : escapeTerminators (first ++ c :: second) =
      escapeTerminators first ++ c :: escapeTerminators second := by
  rw [escapeTerminators_append (by simp [Meet, slash]), escapeTerminators_cons, if_neg (by simp [star])]

/-- An unclosed start of a text stays its start. -/
theorem Unclosed.prefix_escapeTerminators {start : Text} (unclosed : Unclosed start) (rest : Text) :
    start <+: escapeTerminators (start ++ rest) := by
  induction start with
  | nil => exact List.nil_prefix
  | cons c start ih =>
      obtain ⟨other, later⟩ := unclosed_cons.mp unclosed
      cases start with
      | nil =>
          rw [List.singleton_append, escapeTerminators_cons]
          split <;> simp
      | cons d start =>
          rw [List.cons_append, escapeTerminators_cons, if_neg (by simpa using other)]
          exact List.cons_prefix_cons.mpr ⟨rfl, ih later⟩

theorem newline_not_mem_escapeTerminators {text : Text} (unbroken : '\n' ∉ text) :
    '\n' ∉ escapeTerminators text := by
  induction text with
  | nil => exact unbroken
  | cons c rest ih =>
      simp only [List.mem_cons, not_or] at unbroken
      rw [escapeTerminators_cons]
      split <;> simp [unbroken.1, ih unbroken.2]

theorem trimStart_escapeTerminators (text : Text) :
    trimStart (escapeTerminators text) = escapeTerminators (trimStart text) := by
  induction text with
  | nil => rfl
  | cons c rest ih =>
      cases blank : isBlank c with
      | true =>
          have star : c ≠ '*' := by rintro rfl; exact absurd blank (by decide)
          rw [escapeTerminators_cons, if_neg (by simp [star]), trimStart_of_blank blank,
            trimStart_of_blank blank, ih]
      | false =>
          rw [trimStart_of_ink blank, escapeTerminators_cons]
          split <;> exact trimStart_of_ink blank _

theorem trimEnd_escapeTerminators (text : Text) :
    trimEnd (escapeTerminators text) = escapeTerminators (trimEnd text) := by
  induction text with
  | nil => rfl
  | cons c rest ih =>
      by_cases nothing : trimEnd rest = []
      · have other : rest.head? ≠ some '/' := by
          intro slash
          obtain ⟨tail, rfl⟩ := List.head?_eq_some_iff.mp slash
          rw [trimEnd_cons_of_ink rfl] at nothing
          exact List.cons_ne_nil _ _ nothing
        rw [escapeTerminators_cons, if_neg (by simp [other]), trimEnd_cons, ih, trimEnd_cons,
          nothing]
        simp only [escapeTerminators_nil, ↓reduceIte]
        split <;> simp [escapeTerminators_cons, escapeTerminators_nil]
      · have ink : trimEnd (escapeTerminators rest) ≠ [] := by
          rw [ih]
          exact mt escapeTerminators_eq_nil.mp nothing
        rw [trimEnd_cons c rest, if_neg nothing, escapeTerminators_cons, escapeTerminators_cons,
          head?_trimEnd nothing]
        split
        · rw [trimEnd_cons, trimEnd_cons, if_neg ink, if_neg (List.cons_ne_nil _ _), ih]
        · rw [trimEnd_cons, if_neg ink, ih]

theorem trim_escapeTerminators (text : Text) :
    trim (escapeTerminators text) = escapeTerminators (trim text) := by
  rw [trim, trimStart_escapeTerminators, trimEnd_escapeTerminators, ← trim]

theorem joinLines_map_escapeTerminators (lines : List Text) :
    joinLines (lines.map escapeTerminators) = escapeTerminators (joinLines lines) := by
  induction lines with
  | nil => rfl
  | cons line rest ih =>
      cases rest with
      | nil => simp
      | cons next rest =>
          rw [List.map_cons, joinLines_cons _ (by simp), ih, joinLines_cons_cons,
            escapeTerminators_append_cons (by decide) (by decide)]

theorem passage_map_escapeTerminators {lines : List Text} (whole : Passage lines) :
    Passage (lines.map escapeTerminators) where
  unbroken := by
    intro line member
    obtain ⟨source, inside, rfl⟩ := List.mem_map.mp member
    exact newline_not_mem_escapeTerminators (whole.unbroken source inside)
  tidy := by
    intro line member
    obtain ⟨source, inside, rfl⟩ := List.mem_map.mp member
    rw [Tidy, trimEnd_escapeTerminators, whole.tidy source inside]
  opens := by
    cases lines with
    | nil => exact whole.opens
    | cons line rest => simpa [escapeTerminators_eq_nil] using whole.head_ne_nil
  closes := by
    rw [List.getLast?_map]
    cases last : lines.getLast? with
    | none => simp
    | some line =>
        have filled : line ≠ [] := fun empty => whole.closes (by rw [last, empty])
        simpa [escapeTerminators_eq_nil] using filled

theorem getLast?_escapeTerminators (text : Text) :
    (escapeTerminators text).getLast? = text.getLast? := by
  induction text with
  | nil => rfl
  | cons c rest ih =>
      cases rest with
      | nil => simp [escapeTerminators_cons, escapeTerminators_nil]
      | cons d rest =>
          have filled : escapeTerminators (d :: rest) ≠ [] := mt escapeTerminators_eq_nil.mp (by simp)
          rw [escapeTerminators_cons, List.getLast?_cons_cons, ← ih]
          obtain ⟨e, stem, whole⟩ := List.exists_cons_of_ne_nil filled
          rw [whole]
          split <;> simp only [List.getLast?_cons_cons]

theorem trimStart_escapeTerminators_iff {text : Text} :
    trimStart (escapeTerminators text) = escapeTerminators text ↔ trimStart text = text := by
  rw [trimStart_eq_self_iff, head?_escapeTerminators, ← trimStart_eq_self_iff]

theorem tidy_escapeTerminators {line : Text} : Tidy (escapeTerminators line) ↔ Tidy line := by
  rw [tidy_iff, getLast?_escapeTerminators, ← tidy_iff]

theorem trim_escapeTerminators_iff {text : Text} :
    trim (escapeTerminators text) = escapeTerminators text ↔ trim text = text := by
  rw [trim_eq_self_iff, trim_eq_self_iff, trimStart_escapeTerminators_iff]
  exact and_congr_right fun _ => tidy_escapeTerminators

theorem passage_escapeTerminators (text : Text) :
    passage (escapeTerminators text) = (passage text).map escapeTerminators := by
  by_cases empty : text = []
  · rw [empty]
    rfl
  · have filled : escapeTerminators text ≠ [] := mt escapeTerminators_eq_nil.mp empty
    have unbroken : ∀ line ∈ (splitLines text).map escapeTerminators, '\n' ∉ line := by
      intro line member
      obtain ⟨source, inside, rfl⟩ := List.mem_map.mp member
      exact newline_not_mem_escapeTerminators (newline_not_mem_of_mem_splitLines inside)
    have cut := splitLines_joinLines unbroken (by simpa using splitLines_ne_nil text)
    rw [joinLines_map_escapeTerminators, joinLines_splitLines] at cut
    rw [passage, passage, if_neg (by simpa [List.isEmpty_iff] using filled),
      if_neg (by simpa [List.isEmpty_iff] using empty), cut]

theorem passage_map_escapeTerminators_iff {lines : List Text}
    (unbroken : ∀ line ∈ lines, '\n' ∉ line) :
    Passage (lines.map escapeTerminators) ↔ Passage lines := by
  refine ⟨fun whole => ⟨unbroken, ?_, ?_, ?_⟩, passage_map_escapeTerminators⟩
  · exact fun line member =>
      tidy_escapeTerminators.mp (whole.tidy _ (List.mem_map_of_mem member))
  · intro empty
    exact whole.opens (by rw [List.head?_map, empty]; rfl)
  · intro empty
    exact whole.closes (by rw [List.getLast?_map, empty]; rfl)

theorem withoutOpener_isSuffix (text : Text) : withoutOpener text <:+ text := by
  unfold withoutOpener
  split
  · exact List.drop_suffix 3 text
  · exact List.suffix_rfl

theorem withoutTerminator_isPrefix (text : Text) : withoutTerminator text <+: text := by
  unfold withoutTerminator
  split
  · exact List.take_prefix _ text
  · exact List.prefix_rfl

theorem withoutTerminator_append (body : Text) : withoutTerminator (body ++ terminator) = body := by
  have ends : endsWith terminator (body ++ terminator) = true :=
    List.isSuffixOf_iff_suffix.mpr (List.suffix_append _ _)
  rw [withoutTerminator, if_pos ends, dropLast, List.length_append]
  exact List.take_left' (Nat.add_sub_cancel _ _).symm

theorem withoutTerminator_of_not_isSuffix {text : Text} (goesOn : ¬terminator <:+ text) :
    withoutTerminator text = text :=
  if_neg (by rwa [endsWith, List.isSuffixOf_iff_suffix])

/-- One comment: an opening marker, and a closing marker that is the first one to occur. -/
def Enclosed (text : Text) : Prop :=
  ∃ body, text = opener ++ body ++ terminator ∧ Unclosed (opener ++ body)

theorem isBlock_iff {text : Text} : isBlock text = true ↔ Enclosed (trim text) := by
  simp only [isBlock, hasInnerTerminator, trim_trim, startsWith, endsWith, Bool.and_eq_true,
    Bool.not_eq_true', decide_eq_true_eq, List.isPrefixOf_iff_prefix, List.isSuffixOf_iff_suffix,
    ← Bool.not_eq_true, occursIn_iff]
  constructor
  · rintro ⟨⟨⟨opens, body, ends⟩, long⟩, unclosed⟩
    rw [← ends] at opens long unclosed
    rw [withoutTerminator_append] at unclosed
    have room : opener.length ≤ body.length := by
      simp only [List.length_append, terminator, List.length_cons, List.length_nil] at long
      simp only [opener, List.length_cons, List.length_nil]
      omega
    obtain ⟨inner, rfl⟩ := List.prefix_of_prefix_length_le opens (List.prefix_append _ _) room
    exact ⟨inner, ends.symm, unclosed⟩
  · rintro ⟨inner, whole, unclosed⟩
    rw [whole, withoutTerminator_append]
    refine ⟨⟨⟨?_, List.suffix_append _ _⟩, ?_⟩, unclosed⟩
    · rw [List.append_assoc]
      exact List.prefix_append _ _
    · simp only [List.length_append, opener, terminator, List.length_cons, List.length_nil]
      omega

theorem Enclosed.trim_eq {text : Text} (enclosed : Enclosed text) : trim text = text := by
  obtain ⟨body, rfl, -⟩ := enclosed
  have front : trimStart (opener ++ body ++ terminator) = opener ++ body ++ terminator :=
    trimStart_of_ink (by decide) _
  have back : trimEnd terminator = terminator := by decide
  rw [trim, front, trimEnd_append, back, if_neg (by decide)]

theorem Enclosed.isBlock_eq {text : Text} (enclosed : Enclosed text) : isBlock text = true :=
  isBlock_iff.mpr (by rwa [enclosed.trim_eq])

end Comment

end Scholia
