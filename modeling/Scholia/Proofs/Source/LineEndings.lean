import Scholia.Proofs.Comment.Indenting
import Scholia.Proofs.Source.Order

/-! # Line endings stay uniform

Rendering writes the line ending of the source within and behind each comment, whatever lines the
text of the comment has. Where a source keeps to one line ending, so does the rendered text,
provided that no span of the tree parts a carriage return from its line feed.
-/

namespace Scholia

open Utf8

/-- Each occurrence of the second value stands directly behind one of the first. -/
def Follows {α : Type} (first second : α) (values : List α) : Prop :=
  ∀ front rest, values = front ++ second :: rest → front.getLast? = some first

/-- The offset parts an occurrence of the first value from one of the second directly behind it. -/
def Parts {α : Type} (first second : α) (values : List α) (offset : Nat) : Prop :=
  0 < offset ∧ values[offset - 1]? = some first ∧ values[offset]? = some second

instance {α : Type} [DecidableEq α] (first second : α) (values : List α) (offset : Nat) :
    Decidable (Parts first second values offset) :=
  inferInstanceAs (Decidable (_ ∧ _))

namespace Follows

variable {α : Type} {first second : α} {values others : List α}

theorem of_not_mem (free : second ∉ values) : Follows first second values := by
  intro front rest cut
  simp [cut] at free

theorem pair (differ : first ≠ second) : Follows first second [first, second] := by
  intro front rest cut
  cases front with
  | nil =>
      cases cut
      exact absurd rfl differ
  | cons value front =>
      cases front with
      | nil =>
          cases cut
          rfl
      | cons next front => simp at cut

theorem append (left : Follows first second values) (right : Follows first second others) :
    Follows first second (values ++ others) := by
  intro front rest cut
  rcases List.append_eq_append_iff.mp cut with ⟨middle, rfl, back⟩ | ⟨middle, rfl, back⟩
  · rw [List.getLast?_append, right middle rest back]
    rfl
  · cases middle with
    | nil =>
        have nothing := right [] rest back.symm
        cases nothing
    | cons value middle =>
        obtain ⟨rfl, _⟩ := List.cons.inj back
        exact left front middle rfl

theorem take (follows : Follows first second values) (count : Nat) :
    Follows first second (values.take count) := by
  intro front rest cut
  apply follows front (rest ++ values.drop count)
  rw [← List.cons_append, ← List.append_assoc, ← cut, List.take_append_drop]

/-- What starts between the values of no pair needs nothing in front. -/
theorem drop (follows : Follows first second values) {offset : Nat}
    (whole : ¬Parts first second values offset) : Follows first second (values.drop offset) := by
  intro front rest cut
  have same : values = (values.take offset ++ front) ++ second :: rest := by
    rw [List.append_assoc, ← cut, List.take_append_drop]
  have last := follows _ rest same
  cases front with
  | nil =>
      rw [List.append_nil] at last same
      obtain ⟨before, ends⟩ := List.getLast?_eq_some_iff.mp last
      have inside : offset < values.length := by
        have filled := congrArg List.length cut
        simp only [List.length_drop, List.nil_append, List.length_cons] at filled
        omega
      have length : offset = before.length + 1 := by
        have front := congrArg List.length ends
        simp only [List.length_take, List.length_append, List.length_singleton] at front
        omega
      rw [ends, List.append_assoc] at same
      refine absurd ⟨by omega, ?_, ?_⟩ whole
      · simp [same, length]
      · simp [same, length]
  | cons value front =>
      rw [List.getLast?_append] at last
      simpa using last

theorem slice {source : List UInt8} {first second : UInt8} (follows : Follows first second source)
    {start : Nat} (whole : ¬Parts first second source start) (stop : Nat) :
    Follows first second (sliceBytes source start stop) := by
  rw [sliceBytes, List.drop_take]
  exact (follows.drop whole).take _

theorem tail (differ : first ≠ second)
    (follows : Follows first second (values ++ second :: others)) :
    Follows first second others := by
  intro front rest cut
  have last := follows (values ++ second :: front) rest (by simp [cut])
  rw [List.getLast?_append] at last
  cases front with
  | nil => exact absurd (by simpa using last.symm) differ
  | cons value front => simpa using last

/-- A list with such a pair, cut at it. -/
theorem exists_pair (differ : first ≠ second) (follows : Follows first second values)
    (member : second ∈ values) : ∃ before rest, values = before ++ first :: second :: rest ∧
      Follows first second before ∧ Follows first second rest := by
  obtain ⟨front, rest, rfl⟩ := List.append_of_mem member
  obtain ⟨before, rfl⟩ := List.getLast?_eq_some_iff.mp (follows front rest rfl)
  refine ⟨before, rest, by simp, ?_, tail differ follows⟩
  have front := follows.take before.length
  simpa using front

/-! ## Text and bytes -/

theorem encode {text : Text} (follows : Follows '\r' '\n' text) :
    Follows (13 : UInt8) 10 (Utf8.encode text) := by
  by_cases member : '\n' ∈ text
  · obtain ⟨before, rest, same, front, back⟩ := exists_pair (by decide) follows member
    have shorter : before.length < text.length ∧ rest.length < text.length := by
      rw [same, List.length_append, List.length_cons, List.length_cons]
      omega
    have whole : Utf8.encode text = Utf8.encode before ++ [13, 10] ++ Utf8.encode rest := by
      rw [same, encode_append, encode_cons, encode_cons, List.append_assoc]
      rfl
    rw [whole]
    exact (front.encode.append (pair (by decide))).append back.encode
  · apply of_not_mem
    intro feed
    exact member (mem_of_mem_encode (by decide) feed)
termination_by text.length

theorem decodeLossy {bytes : List UInt8} (follows : Follows 13 10 bytes) :
    Follows '\r' '\n' (Utf8.decodeLossy bytes) := by
  by_cases member : (10 : UInt8) ∈ bytes
  · obtain ⟨before, rest, same, front, back⟩ := exists_pair (by decide) follows member
    have shorter : before.length < bytes.length ∧ rest.length < bytes.length := by
      rw [same, List.length_append, List.length_cons, List.length_cons]
      omega
    have whole : Utf8.decodeLossy bytes =
        Utf8.decodeLossy before ++ ['\r', '\n'] ++ Utf8.decodeLossy rest := by
      have feed := decodeLossy_append_cons (by decide : (10 : UInt8).toNat < 0x80) [] rest
      rw [List.nil_append] at feed
      rw [same, decodeLossy_append_cons (by decide), feed, Utf8.decodeLossy, List.append_assoc]
      rfl
    rw [whole]
    exact (front.decodeLossy.append (pair (by decide))).append back.decodeLossy
  · apply of_not_mem
    intro feed
    exact member (mem_of_mem_decodeLossy (by decide) (by decide) bytes feed)
termination_by bytes.length

end Follows

/-! ## Lines that are written -/

namespace Comment

open Text

/-- The lines of an indented comment have no line boundary but those of the indentation. -/
theorem exists_lines_indentBlock (block indent newline : Text) : ∃ lines,
    indentBlock block indent newline = join newline lines ∧
      ∀ line ∈ lines, ∀ c ∈ line, isLineBoundary c = true → c ∈ indent := by
  by_cases filled : trim block = []
  · exact ⟨[], indentBlock_of_blank filled indent newline, by simp⟩
  · obtain ⟨first, others, cut, _, inner⟩ := lines_of_filled filled
    refine ⟨_, indentBlock_eq_join cut, ?_⟩
    intro line member c within boundary
    have outer (other : Text) (here : other ∈ first :: others) : c ∉ other := by
      intro inside
      have noBoundary := (inner other here).2 c inside
      rw [boundary] at noBoundary
      cases noBoundary
    rcases List.mem_cons.mp member with rfl | later
    · exact absurd within (outer line List.mem_cons_self)
    · obtain ⟨other, inside, rfl⟩ := List.mem_map.mp later
      rcases mem_indentLine within with indented | rfl | rfl | own
      · exact indented
      · cases boundary
      · cases boundary
      · exact absurd own (outer other (List.mem_cons_of_mem _ inside))

end Comment

namespace Text

theorem mem_join {separator : Text} {lines : List Text} {c : Char}
    (member : c ∈ join separator lines) : c ∈ separator ∨ ∃ line ∈ lines, c ∈ line := by
  induction lines with
  | nil => cases member
  | cons line rest ih =>
      cases rest with
      | nil => exact .inr ⟨line, by simp, by simpa [join] using member⟩
      | cons next rest =>
          rw [join_cons _ _ (List.cons_ne_nil _ _), List.mem_append, List.mem_append] at member
          rcases member with (here | between) | later
          · exact .inr ⟨line, by simp, here⟩
          · exact .inl between
          · rcases ih later with between | ⟨other, inside, there⟩
            · exact .inl between
            · exact .inr ⟨other, List.mem_cons_of_mem _ inside, there⟩

theorem follows_join {lines : List Text} (free : ∀ line ∈ lines, '\n' ∉ line) :
    Follows '\r' '\n' (join ['\r', '\n'] lines) := by
  induction lines with
  | nil => exact .of_not_mem (by simp [join])
  | cons line rest ih =>
      have here : Follows '\r' '\n' line := .of_not_mem (free line List.mem_cons_self)
      have later := ih fun other member => free other (List.mem_cons_of_mem _ member)
      cases rest with
      | nil => simpa [join] using here
      | cons next rest =>
          rw [join_cons _ _ (List.cons_ne_nil _ _)]
          exact (here.append (.pair (by decide))).append later

end Text

/-! ## What is written above an anchor -/

namespace Anchor

/-- The indentation of an anchor is read from its own line. -/
theorem mem_indent {anchor : Anchor} {source : List UInt8} {c : Char}
    (member : c ∈ anchor.indent source) (low : c.toNat < 0x80) (filled : c.toNat ≠ 0) :
    c.toNat.toUInt8 ∈ source ∧ c ≠ '\n' := by
  unfold indent at member
  simp only at member
  split at member
  · have byte := mem_of_mem_decodeLossy low filled _ member
    have line := List.mem_reverse.mp byte
    constructor
    · have front := List.mem_reverse.mp (List.takeWhile_subset _ line)
      exact List.mem_of_mem_take front
    · rintro rfl
      have other := List.mem_takeWhile_imp line
      cases other
  · cases member

end Anchor

namespace Splice

variable {source : List UInt8}

theorem follows_weave {splices : List Splice} (follows : Follows 13 10 source)
    (whole : ∀ splice ∈ splices, ¬Parts 13 10 source splice.stop)
    (bytes : ∀ splice ∈ splices, Follows 13 10 splice.bytes) {done : Nat}
    (opens : ¬Parts 13 10 source done) : Follows 13 10 (weave source done splices) := by
  induction splices generalizing done with
  | nil => exact follows.drop opens
  | cons splice rest ih =>
      rw [List.forall_mem_cons] at whole bytes
      rw [weave]
      exact ((follows.slice opens splice.start).append bytes.1).append (ih whole.2 bytes.2 whole.1)

theorem mem_weave {splices : List Splice} {byte : UInt8} {done : Nat}
    (member : byte ∈ weave source done splices) :
    byte ∈ source ∨ ∃ splice ∈ splices, byte ∈ splice.bytes := by
  induction splices generalizing done with
  | nil => exact .inl (List.mem_of_mem_drop member)
  | cons splice rest ih =>
      rw [weave, List.mem_append, List.mem_append] at member
      rcases member with (kept | written) | later
      · exact .inl (List.mem_of_mem_take (List.mem_of_mem_drop kept))
      · exact .inr ⟨splice, List.mem_cons_self, written⟩
      · rcases ih later with kept | ⟨other, inside, written⟩
        · exact .inl kept
        · exact .inr ⟨other, List.mem_cons_of_mem _ inside, written⟩

end Splice

namespace Document

theorem newlineOf_of_follows {source : List UInt8} (follows : Follows 13 10 source)
    (member : 10 ∈ source) : newlineOf source = ['\r', '\n'] := by
  induction source using newlineOf.induct with
  | case1 => rfl
  | case2 rest =>
      have nothing := follows [] rest rfl
      cases nothing
  | case3 byte rest crlf lf ih =>
      rw [newlineOf.eq_3 byte rest crlf lf]
      apply ih
      · intro front others cut
        have last := follows (byte :: front) others (by rw [cut, List.cons_append])
        cases front with
        | nil => exact absurd cut (crlf others (by simpa using last))
        | cons next front => simpa using last
      · rcases List.mem_cons.mp member with here | later
        · exact absurd here.symm lf
        · exact later
  | case4 => cases member

theorem newlineOf_of_not_mem {source : List UInt8} (free : 13 ∉ source) :
    newlineOf source = ['\n'] := by
  induction source using newlineOf.induct with
  | case1 => simp at free
  | case2 => rfl
  | case3 byte rest crlf lf ih =>
      rw [newlineOf.eq_3 byte rest crlf lf]
      apply ih
      intro later
      exact free (List.mem_cons_of_mem _ later)
  | case4 => rfl

variable {d : Declaration} {source : List UInt8}

/-- What is written in a source with carriage returns has one in front of each line feed. -/
theorem follows_written (indent : d.indent = d.anchor.indent source) :
    Follows '\r' '\n' (written ['\r', '\n'] d) := by
  have plain : '\n' ∉ d.indent := by
    rw [indent]
    intro member
    exact (Anchor.mem_indent member (by decide) (by decide)).2 rfl
  unfold written
  split
  · exact .of_not_mem (by simp)
  · exact .of_not_mem (by simp)
  · next block _ _ =>
    obtain ⟨lines, same, inner⟩ := Comment.exists_lines_indentBlock block d.indent ['\r', '\n']
    have free : ∀ line ∈ lines, '\n' ∉ line := by
      intro line member feed
      exact plain (inner line member '\n' feed rfl)
    rw [same]
    exact ((Text.follows_join free).append (.pair (by decide))).append (.of_not_mem plain)

/-- What is written in a source without carriage returns has none. -/
theorem return_not_mem_written (indent : d.indent = d.anchor.indent source)
    (free : 13 ∉ source) : '\r' ∉ written ['\n'] d := by
  have plain : '\r' ∉ d.indent := by
    rw [indent]
    intro member
    exact free (Anchor.mem_indent member (by decide) (by decide)).1
  unfold written
  split
  · simp
  · simp
  · next block _ _ =>
    obtain ⟨lines, same, inner⟩ := Comment.exists_lines_indentBlock block d.indent ['\n']
    rw [same]
    intro member
    rcases List.mem_append.mp member with front | last
    · rcases List.mem_append.mp front with within | feed
      · rcases Text.mem_join within with feed | ⟨line, here, inside⟩
        · simp at feed
        · exact plain (inner line here '\r' inside rfl)
      · simp at feed
    · exact plain last

/-! ## The rendered text -/

/-- The offset lies in a source and parts no carriage return from its line feed. -/
def Seam (source : List UInt8) (offset : Nat) : Prop :=
  offset ≤ source.length ∧ ¬Parts 13 10 source offset

instance (source : List UInt8) (offset : Nat) : Decidable (Seam source offset) :=
  inferInstanceAs (Decidable (_ ∧ _))

variable {text : Text} {document : Document}

theorem follows_editedBytes (settled : document.Settled (Seam document.source))
    (follows : Follows 13 10 document.source) (member : 10 ∈ document.source) :
    Follows 13 10 document.editedBytes := by
  rw [settled.editedBytes_eq]
  have newline : document.newline = ['\r', '\n'] := newlineOf_of_follows follows member
  apply Splice.follows_weave follows
  · intro splice inside
    obtain ⟨d, stands, rfl⟩ := (mem_regions_iff settled).mp inside
    exact (settled.sited d stands.mem).closes.2
  · intro splice inside
    obtain ⟨d, stands, rfl⟩ := (mem_regions_iff settled).mp inside
    rw [newline]
    exact (follows_written (settled.indent d stands.mem)).encode
  · rintro ⟨before, _⟩
    omega

theorem return_not_mem_editedBytes {fair : Nat → Prop} (settled : document.Settled fair)
    (free : 13 ∉ document.source) : 13 ∉ document.editedBytes := by
  rw [settled.editedBytes_eq]
  have newline : document.newline = ['\n'] := newlineOf_of_not_mem free
  intro member
  rcases Splice.mem_weave member with kept | ⟨splice, inside, written⟩
  · exact free kept
  · obtain ⟨d, stands, rfl⟩ := (mem_regions_iff settled).mp inside
    rw [newline] at written
    exact return_not_mem_written (settled.indent d stands.mem) free
      (mem_of_mem_encode (by decide) written)

/-- However comments are edited, rendering keeps to the line ending of the source: each line feed
    stays behind a carriage return, and no carriage return comes in from the text of a comment. -/
theorem render_line_endings {path : Path} {relativePath : String} {root : Node}
    (brood : Node.Brood (Seam (encode text)) root.children)
    (parsed : parse path text relativePath (.ok root) = .ok document) (edits : List Edit) :
    ('\n' ∈ text → Follows '\r' '\n' text →
      Follows '\r' '\n' (document.edited edits).render) ∧
    ('\r' ∉ text → '\r' ∉ (document.edited edits).render) := by
  have source : (document.edited edits).source = encode text := by
    rw [source_edited, source_of_parse parsed]
  have stops : ∀ node ∈ root.children, node.stop ≤ (encode text).length := by
    intro node member
    exact (brood.nested node member).closes.1
  have settled := (settled_of_parse brood stops parsed).edited edits
  rw [← source] at settled
  constructor
  · intro member follows
    apply Follows.decodeLossy
    apply follows_editedBytes settled
    · rw [source]
      exact follows.encode
    · rw [source]
      exact List.mem_flatMap.mpr ⟨'\n', member, by decide⟩
  · intro free member
    have byte := mem_of_mem_decodeLossy (by decide) (by decide) _ member
    have plain : 13 ∉ encode text := fun inside => free (mem_of_mem_encode (by decide) inside)
    rw [← source] at plain
    exact return_not_mem_editedBytes settled plain byte

/-! ## A function behind carriage returns -/

/-- A source with carriage returns. -/
def returnedSource : Text :=
  "// A\r\nfunction f() {}\r\n".toList

/-- The tree of the source. -/
def returnedTree : Node :=
  ⟨"program", 0, 23, true, none,
    [⟨"comment", 0, 4, true, none, []⟩,
      ⟨"function_declaration", 6, 21, true, none,
        [⟨"identifier", 15, 16, true, some "name", []⟩]⟩]⟩

theorem brood_returnedTree : Node.Brood (Seam (encode returnedSource)) returnedTree.children := by
  have name : (⟨"identifier", 15, 16, true, some "name", []⟩ : Node).Nested
      (Seam (encode returnedSource)) :=
    .leaf (by decide) (by decide) (by decide) rfl
  have comment : (⟨"comment", 0, 4, true, none, []⟩ : Node).Nested
      (Seam (encode returnedSource)) :=
    .leaf (by decide) (by decide) (by decide) rfl
  have function : (⟨"function_declaration", 6, 21, true, none,
      [⟨"identifier", 15, 16, true, some "name", []⟩]⟩ : Node).Nested
        (Seam (encode returnedSource)) := by
    apply Node.Nested.intro (by decide) (by decide) (by decide)
    · simp
    · simp
    · intro _ body _ has
      cases has
    · simpa using name
  constructor
  · simpa [returnedTree] using ⟨comment, function⟩
  · simp [returnedTree]

theorem follows_returnedSource : Follows '\r' '\n' returnedSource := by
  have before : Follows '\r' '\n' "// A".toList := .of_not_mem (by decide)
  have behind : Follows '\r' '\n' "function f() {}".toList := .of_not_mem (by decide)
  have ending : Follows '\r' '\n' ['\r', '\n'] := .pair (by decide)
  exact ((before.append ending).append behind).append ending

/-- Carriage returns are written where the source has them, and left out where it has none. -/
theorem render_line_endings_both :
    (Node.Brood (Seam (encode returnedSource)) returnedTree.children ∧
      '\n' ∈ returnedSource ∧ Follows '\r' '\n' returnedSource ∧
      ∃ document, parse (.ofString "a.ts") returnedSource "" (.ok returnedTree) = .ok document ∧
        Follows '\r' '\n' (document.edited [.set 0 "/** B.\nC. */".toList]).render) ∧
    (Node.Brood (Seam (encode interfaceSource)) interfaceTree.children ∧ '\r' ∉ interfaceSource ∧
      ∃ document, parse (.ofString "a.ts") interfaceSource "" (.ok interfaceTree) = .ok document ∧
        '\r' ∉ (document.edited [.set 0 "/** B.\r\nC. */".toList]).render) := by
  have feed : '\n' ∈ returnedSource := by decide
  have free : '\r' ∉ interfaceSource := by decide
  have all : ∀ offset, offset ≤ 36 → Seam (encode interfaceSource) offset := by
    intro offset inside
    constructor
    · exact inside
    · intro parts
      have none : (13 : UInt8) ∉ encode interfaceSource := by decide
      exact none (List.mem_of_getElem? parts.2.1)
  have brood := brood_interfaceTree all
  constructor
  · exact ⟨brood_returnedTree, feed, follows_returnedSource, _, rfl,
      (render_line_endings brood_returnedTree rfl _).1 feed follows_returnedSource⟩
  · exact ⟨brood, free, _, rfl, (render_line_endings brood rfl _).2 free⟩

end Document

end Scholia
