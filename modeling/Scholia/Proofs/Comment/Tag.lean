import Scholia.Comment.Block
import Scholia.Proofs.Comment.Terminator

/-! # Tags and their lines

A tag that is readable comes back from its own lines, but for blanks in front of its text. Whether
a line starts a tag depends on nothing that escaping changes.
-/

namespace Scholia

open Text Comment

namespace Text

/-- The code points of blanks. -/
def blankCodes : List Nat :=
  [0x09, 0x0A, 0x0B, 0x0C, 0x0D, 0x1C, 0x1D, 0x1E, 0x1F, 0x20, 0x85, 0xA0, 0x1680, 0x2000, 0x2001,
    0x2002, 0x2003, 0x2004, 0x2005, 0x2006, 0x2007, 0x2008, 0x2009, 0x200A, 0x2028, 0x2029, 0x202F,
    0x205F, 0x3000]

theorem toNat_mem_blankCodes {c : Char} (blank : isBlank c = true) : c.toNat ∈ blankCodes := by
  simp only [isBlank, Bool.or_eq_true, Bool.and_eq_true, decide_eq_true_eq, beq_iff_eq] at blank
  simp only [blankCodes, List.mem_cons, List.not_mem_nil, or_false]
  omega

/-- No character that blanks are tested for has a property that no blank code has. -/
theorem isBlank_eq_false_of {p : Char → Bool} {c : Char} (holds : p c = true)
    (codes : ∀ code ∈ blankCodes, p (Char.ofNat code) = false) : isBlank c = false := by
  rw [← Bool.not_eq_true]
  intro blank
  have fails := codes _ (toNat_mem_blankCodes blank)
  rw [Char.ofNat_toNat, holds] at fails
  exact absurd fails (by decide)

end Text

namespace Tag

theorem isBlank_of_isNameChar {c : Char} (name : isNameChar c = true) : isBlank c = false :=
  isBlank_eq_false_of name (by decide +kernel)

theorem isBlank_of_isAlpha {c : Char} (letter : c.isAlpha = true) : isBlank c = false :=
  isBlank_eq_false_of letter (by decide)

/-- A name that tags are read with. -/
def IsName (name : Text) : Prop :=
  ∃ first rest, name = first :: rest ∧ first.isAlpha = true ∧ ∀ c ∈ rest, isNameChar c = true

theorem IsName.ink {name : Text} (valid : IsName name) : ∀ c ∈ name, isBlank c = false := by
  obtain ⟨first, rest, rfl, letter, others⟩ := valid
  intro c member
  rcases List.mem_cons.mp member with rfl | member
  · exact isBlank_of_isAlpha letter
  · exact isBlank_of_isNameChar (others c member)

theorem IsName.newline_not_mem {name : Text} (valid : IsName name) : '\n' ∉ name :=
  fun member => absurd (valid.ink _ member) (by decide)

/-- The tag with its closing markers broken up. -/
def escaped (tag : Tag) : Tag :=
  { tag with text := escapeTerminators tag.text }

theorem ofLine?_trim (line : Text) : ofLine? (trim line) = ofLine? line := by
  rw [ofLine?, trim_trim, ← ofLine?.eq_def]

/-- A line that starts a tag, read off its trimmed form. -/
theorem ofLine?_of_trim_eq {line rest : Text} {first : Char} (whole : trim line = '@' :: first :: rest)
    (letter : first.isAlpha = true) : ofLine? line =
      some ⟨first :: rest.takeWhile isNameChar, trim (rest.dropWhile isNameChar)⟩ := by
  rw [ofLine?, whole]
  simp [letter]

theorem exists_of_ofLine?_eq_some {line : Text} {tag : Tag} (starts : ofLine? line = some tag) :
    ∃ first rest, trim line = '@' :: first :: rest ∧ first.isAlpha = true ∧
      tag = ⟨first :: rest.takeWhile isNameChar, trim (rest.dropWhile isNameChar)⟩ := by
  unfold ofLine? at starts
  split at starts
  · next first rest whole =>
    split at starts
    · next letter => exact ⟨first, rest, whole, letter, (Option.some.inj starts).symm⟩
    · cases starts
  · cases starts

theorem isName_of_ofLine? {line : Text} {tag : Tag} (starts : ofLine? line = some tag) :
    IsName tag.name := by
  obtain ⟨first, rest, -, letter, rfl⟩ := exists_of_ofLine?_eq_some starts
  exact ⟨first, _, rfl, letter, fun c member => List.mem_takeWhile_imp member⟩

theorem trim_of_ofLine? {line : Text} {tag : Tag} (starts : ofLine? line = some tag) :
    trim tag.text = tag.text := by
  obtain ⟨first, rest, -, -, rfl⟩ := exists_of_ofLine?_eq_some starts
  exact trim_trim _

theorem newline_not_mem_of_ofLine? {line : Text} {tag : Tag} (starts : ofLine? line = some tag)
    (unbroken : '\n' ∉ line) : '\n' ∉ tag.text := by
  obtain ⟨first, rest, whole, -, rfl⟩ := exists_of_ofLine?_eq_some starts
  intro member
  have inside : '\n' ∈ rest :=
    (List.dropWhile_suffix _).subset ((trim_isInfix _).subset member)
  refine unbroken ((trim_isInfix line).subset ?_)
  rw [whole]
  exact List.mem_cons_of_mem _ (List.mem_cons_of_mem _ inside)

/-- Escaping touches no line in front of where a name ends. -/
theorem takeWhile_escapeTerminators {p : Char → Bool} (star : p '*' = false) (text : Text) :
    (escapeTerminators text).takeWhile p = text.takeWhile p ∧
      (escapeTerminators text).dropWhile p = escapeTerminators (text.dropWhile p) := by
  induction text with
  | nil => exact ⟨rfl, rfl⟩
  | cons c rest ih =>
      cases holds : p c with
      | true =>
          have other : ¬(c = '*' ∧ rest.head? = some '/') := by
            rintro ⟨rfl, -⟩
            rw [star] at holds
            cases holds
          rw [escapeTerminators_cons, if_neg other]
          simp [holds, ih]
      | false =>
          have stop : ∀ tail : Text, (c :: tail).takeWhile p = [] ∧ (c :: tail).dropWhile p = c :: tail :=
            fun tail => by simp [holds]
          rw [(stop rest).1, (stop rest).2, escapeTerminators_cons]
          split <;> exact stop _

theorem ofLine?_escapeTerminators (line : Text) :
    ofLine? (escapeTerminators line) = (ofLine? line).map escaped := by
  cases starts : ofLine? line with
  | some tag =>
      obtain ⟨first, rest, whole, letter, rfl⟩ := exists_of_ofLine?_eq_some starts
      -- Neither the sign nor a letter begins a closing marker.
      have notStar : first ≠ '*' := by rintro rfl; exact absurd letter (by decide)
      have same : trim (escapeTerminators line) = '@' :: first :: escapeTerminators rest := by
        rw [trim_escapeTerminators, whole, escapeTerminators_cons, if_neg (by simp),
          escapeTerminators_cons, if_neg (by simp [notStar])]
      obtain ⟨name, text⟩ := takeWhile_escapeTerminators (p := isNameChar) (by decide) rest
      rw [ofLine?_of_trim_eq same letter, name, text, trim_escapeTerminators]
      rfl
  | none =>
      rw [Option.map_none, Option.eq_none_iff_forall_ne_some]
      intro tag found
      obtain ⟨first, rest, whole, letter, -⟩ := exists_of_ofLine?_eq_some found
      rw [trim_escapeTerminators] at whole
      cases source : trim line with
      | nil => rw [source] at whole; cases whole
      | cons c later =>
          rw [source, escapeTerminators_cons] at whole
          have sign : c = '@' := by
            split at whole <;> exact (List.cons.inj whole).1
          subst sign
          rw [if_neg (by simp)] at whole
          have next : later.head? = some first := by
            rw [← head?_escapeTerminators, (List.cons.inj whole).2, List.head?_cons]
          obtain ⟨others, rfl⟩ := List.head?_eq_some_iff.mp next
          rw [ofLine?_of_trim_eq source letter] at starts
          cases starts

/-- A tag that reading can yield: the lines of its text make up a passage, and none but the first
    starts a tag. -/
structure Readable (tag : Tag) : Prop where
  named : IsName tag.name
  whole : Passage (passage tag.text)
  plain : ∀ line ∈ (passage tag.text).tail, ofLine? line = none

/-- The tag without blanks in front of its text. -/
def flush (tag : Tag) : Tag :=
  { tag with text := trimStart tag.text }

theorem map_flush_escaped_flush (tags : List Tag) :
    ((tags.map flush).map escaped).map flush = (tags.map escaped).map flush := by
  simp only [List.map_map]
  refine List.map_congr_left fun tag _ => ?_
  simp [flush, escaped, trimStart_escapeTerminators]

/-- The first line of a tag. -/
def opening (name text : Text) : Text :=
  trimEnd ('@' :: name ++ ' ' :: text)

theorem lines_eq (tag : Tag) :
    ∃ first rest, splitLines tag.text = first :: rest ∧ tag.lines = opening tag.name first :: rest := by
  unfold lines
  cases cut : splitLines tag.text with
  | nil => exact absurd cut (splitLines_ne_nil _)
  | cons first rest => exact ⟨first, rest, rfl, rfl⟩

theorem IsName.opening_eq {name : Text} (valid : IsName name) (text : Text) :
    opening name text = '@' :: name ++ trimEnd (' ' :: text) := by
  have ends : trimEnd ('@' :: name) = '@' :: name := by
    refine List.rdropWhile_eq_self_iff.mpr fun filled blank => ?_
    rcases List.mem_cons.mp (List.getLast_mem filled) with sign | inside
    · rw [sign] at blank
      exact absurd blank (by decide)
    · rw [valid.ink _ inside] at blank
      cases blank
  rw [opening, trimEnd_append]
  split
  · next nothing => rw [ends, nothing, List.append_nil]
  · rfl

theorem IsName.ofLine?_opening {name : Text} (valid : IsName name) (text : Text) :
    ofLine? (opening name text) = some ⟨name, trim text⟩ := by
  have front : trim (opening name text) = opening name text := by
    rw [trim_eq_self_iff, opening, trimEnd_trimEnd, ← opening, valid.opening_eq]
    exact ⟨trimStart_of_ink (by decide) _, rfl⟩
  have space : trim (trimEnd (' ' :: text)) = trim text := by
    rw [trim_trimEnd, trim, trimStart_of_blank (by decide), ← trim]
  have stop : (trimEnd (' ' :: text)).takeWhile isNameChar = [] ∧
      (trimEnd (' ' :: text)).dropWhile isNameChar = trimEnd (' ' :: text) := by
    have other : isNameChar ' ' = false := by decide
    rw [trimEnd_cons, if_pos (by decide : isBlank ' ' = true)]
    split <;> simp [other]
  rw [valid.opening_eq] at front ⊢
  obtain ⟨first, rest, rfl, letter, others⟩ := valid
  simp only [List.cons_append] at front ⊢
  rw [ofLine?_of_trim_eq front letter, List.takeWhile_append_of_pos others,
    List.dropWhile_append_of_pos others, stop.1, stop.2, space, List.append_nil]

/-! ## Tags made of lines -/

/-- Add lines to the text of a tag. -/
def extend (tag : Tag) (lines : List Text) : Tag :=
  lines.foldl addLine tag

@[simp] theorem extend_name (tag : Tag) (lines : List Text) : (tag.extend lines).name = tag.name := by
  induction lines generalizing tag with
  | nil => rfl
  | cons line rest ih => exact ih (tag.addLine line)

/-- The text of a tag with lines added: empty lines in front get lost, all else is joined. -/
theorem extend_text (tag : Tag) (lines : List Text) :
    (tag.extend lines).text = joinLines ((tag.text :: lines).dropWhile List.isEmpty) := by
  induction lines generalizing tag with
  | nil =>
      cases empty : tag.text with
      | nil => simp [extend, empty]
      | cons c rest => simp [extend, empty]
  | cons line rest ih =>
      have step : (tag.extend (line :: rest)).text = ((tag.addLine line).extend rest).text := rfl
      rw [step, ih (tag.addLine line)]
      cases empty : tag.text with
      | nil => simp [addLine, empty]
      | cons c text => cases rest <;> simp [addLine, empty]

theorem addLine_escaped (tag : Tag) (line : Text) :
    tag.escaped.addLine (escapeTerminators line) = (tag.addLine line).escaped := by
  cases empty : tag.text with
  | nil => simp [addLine, escaped, empty, escapeTerminators_nil]
  | cons c text =>
      have filled : escapeTerminators (c :: text) ≠ [] := by simp [escapeTerminators_eq_nil]
      simp only [addLine, escaped, empty, List.isEmpty_iff, if_neg filled, reduceCtorEq, if_false]
      rw [escapeTerminators_append_cons (by decide) (by decide)]

theorem Readable.plain_rest {tag : Tag} (readable : tag.Readable) {first : Text} {rest : List Text}
    (cut : splitLines tag.text = first :: rest) : ∀ line ∈ rest, ofLine? line = none := by
  rcases passage_of_splitLines cut with ⟨-, -, rfl⟩ | ⟨-, lines⟩
  · simp
  · simpa [lines] using readable.plain

/-- The lines of a readable tag are a passage. -/
theorem Readable.passage_lines {tag : Tag} (readable : tag.Readable) : Passage tag.lines := by
  obtain ⟨first, rest, cut, lines⟩ := tag.lines_eq
  have opening : Tag.opening tag.name first = '@' :: tag.name ++ trimEnd (' ' :: first) :=
    readable.named.opening_eq first
  have unbroken : ∀ line ∈ first :: rest, '\n' ∉ line := fun line member =>
    newline_not_mem_of_mem_splitLines (cut ▸ member)
  have front : '\n' ∉ Tag.opening tag.name first := by
    intro feed
    rw [opening] at feed
    rcases List.mem_append.mp feed with named | texted
    · simp [readable.named.newline_not_mem] at named
    · have inside := (trimEnd_isPrefix _).subset texted
      simp [unbroken first List.mem_cons_self] at inside
  have tidy : Tidy (Tag.opening tag.name first) := trimEnd_trimEnd _
  rw [lines]
  rcases passage_of_splitLines cut with ⟨-, -, rfl⟩ | ⟨-, whole⟩
  · exact ⟨by simpa using front, by simpa using tidy, by simp [opening], by simp [opening]⟩
  · have passage : Passage (first :: rest) := whole ▸ readable.whole
    refine ⟨?_, ?_, by simp [opening], ?_⟩
    · exact List.forall_mem_cons.mpr ⟨front, (List.forall_mem_cons.mp unbroken).2⟩
    · exact List.forall_mem_cons.mpr ⟨tidy, (List.forall_mem_cons.mp passage.tidy).2⟩
    · cases rest with
      | nil => simp [opening]
      | cons next rest => simpa using passage.closes

/-- A readable tag is read from its own lines, with its text flushed. -/
theorem Readable.extend_eq {tag : Tag} (readable : tag.Readable) {first : Text} {rest : List Text}
    (cut : splitLines tag.text = first :: rest) :
    Tag.extend ⟨tag.name, trim first⟩ rest = tag.flush := by
  have text : (Tag.extend ⟨tag.name, trim first⟩ rest).text = trimStart tag.text := by
    rw [extend_text]
    rcases passage_of_splitLines cut with ⟨empty, rfl, rfl⟩ | ⟨-, lines⟩
    · rw [empty]
      rfl
    · have whole : Passage (first :: rest) := lines ▸ readable.whole
      have filled : trim first ≠ [] := by
        rw [Ne, trim_eq_nil, whole.isBlankText_head]
        decide
      have start : trim first = trimStart first := by
        rw [← trimStart_trimEnd, whole.tidy first List.mem_cons_self]
      rw [List.dropWhile_cons_of_neg (by simpa [List.isEmpty_iff] using filled), start,
        ← joinLines_splitLines tag.text, cut, whole.trimStart_joinLines_eq, flushFirst]
  exact congr (congrArg Tag.mk (extend_name _ _)) text

end Tag

end Scholia
