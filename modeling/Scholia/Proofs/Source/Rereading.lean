import Scholia.Proofs.Comment.Containment
import Scholia.Proofs.Source.Rendering

/-! # Reading inserted comments again

Rendering copies the indentation of an anchor, blanks of any script, to the line below an inserted
comment. The comment is found above the moved anchor exactly if all of these are blanks of ASCII,
since only those are passed over between a comment and its anchor.
-/

namespace Scholia

open Utf8

/-- A blank of ASCII. -/
def Text.isPlainBlank (c : Char) : Bool :=
  c.toNat == 32 || (9 ≤ c.toNat && c.toNat ≤ 13)

namespace Anchor

theorem isBlankByte_toUInt8 {n : Nat} (small : n < 256) :
    isBlankByte n.toUInt8 = (n == 32 || (9 ≤ n && n ≤ 13)) := by
  have value := toNat_toUInt8 small
  simp only [isBlankByte, Bool.beq_eq_decide_eq, UInt8.le_iff_toNat_le, ← UInt8.toNat_inj, value]
  rfl

theorem all_isBlankByte_encodeChar (c : Char) :
    (encodeChar c).all isBlankByte = Text.isPlainBlank c := by
  unfold encodeChar Text.isPlainBlank
  have valid := toNat_valid c
  generalize c.toNat = n at valid
  -- The lead byte of a longer sequence is no blank, and no such character is one of ASCII.
  have lead {m : Nat} (low : 13 < m) (other : m ≠ 32) (small : m < 256) (rest : List UInt8)
      (wide : 32 < n) : (m.toUInt8 :: rest).all isBlankByte =
        (n == 32 || (9 ≤ n && n ≤ 13)) := by
    rw [List.all_cons, isBlankByte_toUInt8 small]
    simp only [beq_eq_false_iff_ne.mpr other, beq_eq_false_iff_ne.mpr (show n ≠ 32 by omega),
      decide_eq_false (show ¬m ≤ 13 by omega), decide_eq_false (show ¬n ≤ 13 by omega),
      Bool.and_false, Bool.or_false, Bool.false_and]
  simp only
  split
  · rw [List.all_cons, List.all_nil, Bool.and_true, isBlankByte_toUInt8 (by omega)]
  · split
    · exact lead (by omega) (by omega) (by omega) _ (by omega)
    · split
      · exact lead (by omega) (by omega) (by omega) _ (by omega)
      · exact lead (by omega) (by omega) (by omega) _ (by omega)

/-- The bytes of a text are all passed over exactly if its characters are blanks of ASCII. -/
theorem all_isBlankByte_encode (text : Text) :
    (encode text).all isBlankByte = text.all Text.isPlainBlank := by
  induction text with
  | nil => rfl
  | cons c rest ih => rw [encode_cons, List.all_append, all_isBlankByte_encodeChar, ih, List.all_cons]

/-- An anchor whose previous sibling is a comment: it covers some bytes from a position on, and the
    anchor stands behind it after a gap. -/
structure Below (anchor : Anchor) (comment : Node) (start length gap : Nat) : Prop where
  previous : anchor.previous = some comment
  isComment : comment.type = "comment"
  opens : comment.start = start
  closes : comment.stop = start + length
  begins : anchor.start = comment.stop + gap

theorem sliceBytes_append (front part back : List UInt8) :
    sliceBytes (front ++ part ++ back) front.length (front.length + part.length) = part := by
  rw [sliceBytes, ← List.length_append, List.take_left, List.drop_left]

theorem startsWith_of_enclosed {text : Text} (enclosed : Comment.Enclosed text) :
    Text.startsWith ['/', '*', '*'] text = true ∧
      Text.startsWith ['/', '*', '*', '/'] text = false := by
  obtain ⟨body, rfl, unclosed⟩ := enclosed
  constructor
  · rfl
  · rw [← Bool.not_eq_true, Text.startsWith, List.isPrefixOf_iff_prefix]
    cases body with
    | nil => decide
    | cons c rest =>
        intro start
        have slash : c = '/' := by
          simp only [Comment.opener, List.cons_append, List.nil_append, List.cons_prefix_cons] at start
          exact start.2.2.2.1.symm
        subst slash
        simp [Comment.opener, Comment.unclosed_cons] at unclosed

/-- A comment is found above an anchor exactly if the gap between them consists of plain blanks. -/
theorem comment?_of_below {anchor : Anchor} {comment : Node} {block gap : Text}
    {front : List UInt8} (enclosed : Comment.Enclosed block)
    (below : anchor.Below comment front.length (encode block).length (encode gap).length)
    (back : List UInt8) :
    anchor.comment? (front ++ encode block ++ encode gap ++ back) =
      if gap.all Text.isPlainBlank then some ⟨block, comment.start, comment.stop⟩ else none := by
  obtain ⟨previous, isComment, opens, closes, begins⟩ := below
  have content : comment.textIn (front ++ encode block ++ encode gap ++ back) = block := by
    rw [Node.textIn, opens, closes, List.append_assoc (front ++ encode block), sliceBytes_append,
      decodeLossy_encode]
  have between : sliceBytes (front ++ encode block ++ encode gap ++ back) comment.stop anchor.start =
      encode gap := by
    rw [begins, closes, ← List.length_append, sliceBytes_append]
  obtain ⟨open3, open4⟩ := startsWith_of_enclosed enclosed
  simp only [comment?, previous, content, between, isComment, open3, open4, all_isBlankByte_encode,
    beq_self_eq_true, Bool.not_false, Bool.and_true, Bool.true_and]

end Anchor

namespace Splice

/-- What is woven in front of a splice and behind it. -/
theorem weave_append_cons {source : List UInt8} {before after : List Splice} {splice : Splice}
    (fits : ∀ other ∈ before, other.Fits source)
    (earlier : ∀ other ∈ before, other.stop < splice.start) (done : Nat) :
    weave source done (before ++ splice :: after) =
      weave (source.take splice.start) done before ++ splice.bytes ++
        weave source splice.stop after := by
  induction before generalizing done with
  | nil => rfl
  | cons first rest ih =>
      obtain ⟨here, fits⟩ := List.forall_mem_cons.mp fits
      obtain ⟨behind, earlier⟩ := List.forall_mem_cons.mp earlier
      have same : sliceBytes (source.take splice.start) done first.start =
          sliceBytes source done first.start := by
        have order := here.order
        rw [sliceBytes, sliceBytes, List.take_take, Nat.min_eq_left (by omega)]
      rw [List.cons_append, weave, ih fits earlier, weave, same]
      simp only [List.append_assoc]

end Splice

namespace Document

variable {text : Text} {document : Document}

theorem newlineOf_cases (source : List UInt8) :
    newlineOf source = ['\n'] ∨ newlineOf source = ['\r', '\n'] := by
  induction source using newlineOf.induct with
  | case1 => exact .inr rfl
  | case2 => exact .inl rfl
  | case3 byte rest crlf lf ih => rwa [newlineOf.eq_3 byte rest crlf lf]
  | case4 => exact .inl rfl

theorem separator_newlineOf (source : List UInt8) : Comment.Separator (newlineOf source) := by
  rcases newlineOf_cases source with same | same
  · rw [same]
    exact Comment.separator_newline
  · rw [same]
    exact ⟨by simp, by simp⟩

theorem all_isPlainBlank_newlineOf (source : List UInt8) :
    (newlineOf source).all Text.isPlainBlank = true := by
  rcases newlineOf_cases source with same | same
  · rw [same]
    decide
  · rw [same]
    decide

/-- The indentation of an anchor consists of blanks. -/
theorem isBlankText_indent (anchor : Anchor) (source : List UInt8) :
    Text.isBlankText (anchor.indent source) = true := by
  unfold Anchor.indent
  simp only
  split
  · next blank => exact blank
  · rfl

/-- The edited source in front of the region of a declaration, and from its anchor on. -/
theorem Sound.exists_around (sound : document.Sound text) {d : Declaration}
    (stands : document.Stands d) :
    ∃ before after, document.regions = before ++ spliceOf document.newline d :: after ∧
      encode document.render =
        Splice.weave ((encode text).take (d.anchor.regionStart (encode text))) 0 before ++
          encode (written (newlineOf (encode text)) d) ++
          Splice.weave (encode text) d.anchor.start after := by
  have member := (mem_regions_iff sound.settled).mpr ⟨d, stands, rfl⟩
  obtain ⟨before, after, cut⟩ := List.append_of_mem member
  have ascending := sound.settled.ascending_regions
  rw [cut, Splice.Ascending, List.pairwise_append] at ascending
  have fits : ∀ other ∈ before, other.Fits (encode text) := by
    intro other inside
    exact (sound.textual_of_mem_regions other (by simp [cut, inside])).fits
  have earlier : ∀ other ∈ before, other.stop < (spliceOf document.newline d).start := by
    intro other inside
    exact ascending.2.2 other inside _ List.mem_cons_self
  refine ⟨before, after, cut, ?_⟩
  rw [sound.encode_render, cut, Splice.weave_append_cons fits earlier, spliceOf_eq sound stands.mem]

/-- The comment that rendering writes for a block, and what it puts between that and the anchor. -/
theorem written_of_block {d : Declaration} {block : Text} (doc : d.doc = some block)
    (isBlock : Comment.isBlock block = true) (newline : Text) :
    written newline d = Comment.indentBlock block d.indent newline ++ (newline ++ d.indent) := by
  have filled : block ≠ [] := by
    rintro rfl
    exact absurd isBlock (by decide)
  rw [written, doc]
  cases block with
  | nil => exact absurd rfl filled
  | cons c rest => exact List.append_assoc _ _ _

/-- A block that is inserted above an anchor is followed by a line break and the indentation of the
    anchor. These are all passed over, and the block is found above the moved anchor and counts as
    its comment, exactly if the indentation consists of blanks of ASCII. -/
theorem inserted_found_iff {path : Path} {relativePath : String} {root : Node}
    (siblings : Node.Siblings text root.children)
    (parsed : parse path text relativePath (.ok root) = .ok document) (edits : List Edit)
    {d : Declaration} (stands : (document.edited edits).Stands d) {block : Text}
    (doc : d.doc = some block) (isBlock : Comment.isBlock block = true) :
    d.indent = d.anchor.indent (encode text) ∧
    ∃ (before after : List Splice) (front back : List UInt8) (inserted gap : Text),
      (document.edited edits).regions =
        before ++ spliceOf (newlineOf (encode text)) d :: after ∧
      front = Splice.weave ((encode text).take (d.anchor.regionStart (encode text))) 0 before ∧
      back = Splice.weave (encode text) d.anchor.start after ∧
      inserted = Comment.indentBlock block d.indent (newlineOf (encode text)) ∧
      gap = newlineOf (encode text) ++ d.indent ∧
      encode (document.edited edits).render = front ++ encode inserted ++ encode gap ++ back ∧
      ((encode gap).all Anchor.isBlankByte = true ↔ d.indent.all Text.isPlainBlank = true) ∧
      ∀ (comment : Node) (anchor : Anchor),
        anchor.Below comment front.length (encode inserted).length (encode gap).length →
        (anchor.comment? (encode (document.edited edits).render) =
          if d.indent.all Text.isPlainBlank then some ⟨inserted, comment.start, comment.stop⟩
          else none) ∧
        ∀ (file : Walk.File) (scope : Walk.Scope) (node : Node) (own : Walk.Particulars),
          file.source = encode (document.edited edits).render →
          (Walk.declare file scope anchor node own).doc =
            if d.indent.all Text.isPlainBlank then some inserted else none := by
  have sound := (sound_of_parse siblings parsed).edited edits
  obtain ⟨old, recorded, sameAnchor, sameIndent, -⟩ := exists_origin edits stands.mem
  have indent : d.indent = d.anchor.indent (encode text) := by
    rw [sameIndent, sameAnchor]
    rw [(sound_of_parse siblings parsed).settled.indent old recorded, source_of_parse parsed]
  obtain ⟨before, after, cut, whole⟩ := sound.exists_around stands
  rw [newline, sound.source] at cut
  rw [written_of_block doc isBlock, encode_append, ← List.append_assoc] at whole
  have blank : Text.isBlankText d.indent = true := by
    rw [indent]
    exact isBlankText_indent d.anchor (encode text)
  have enclosed : Comment.Enclosed
      (Comment.indentBlock block d.indent (newlineOf (encode text))) := by
    have trimmed := (Comment.isBlock_iff.mp isBlock).indentBlock blank
      (separator_newlineOf (encode text))
    rwa [Comment.indentBlock, Text.trim_trim, ← Comment.indentBlock] at trimmed
  have gap : (newlineOf (encode text) ++ d.indent).all Text.isPlainBlank =
      d.indent.all Text.isPlainBlank := by
    rw [List.all_append, all_isPlainBlank_newlineOf, Bool.true_and]
  refine ⟨indent, before, after, _, _, _, _, cut, rfl, rfl, rfl, rfl, whole, ?_, ?_⟩
  · rw [Anchor.all_isBlankByte_encode, gap]
  · intro comment anchor below
    have found := Anchor.comment?_of_below enclosed below
      (Splice.weave (encode text) d.anchor.start after)
    rw [gap, ← whole] at found
    refine ⟨found, fun file scope node own source => ?_⟩
    have doc : (Walk.declare file scope anchor node own).doc =
        (anchor.comment? file.source).map (·.text) := rfl
    rw [doc, source, found]
    split <;> rfl

/-! ## An indented function -/

def indentedSource (blank : Text) : Text :=
  blank ++ "function f() {}\n".toList

def indentedFunction (offset : Nat) : Node :=
  ⟨"function_declaration", offset, offset + 15, true, none,
    [⟨"identifier", offset + 9, offset + 10, true, some "name", []⟩]⟩

/-- The tree of a function behind some bytes of blanks. -/
def indentedTree (offset : Nat) : Node :=
  ⟨"program", 0, offset + 16, true, none, [indentedFunction offset]⟩

theorem boundary_indentedSource (blank : Text) {offset : Nat}
    (boundary : Boundary "function f() {}\n".toList offset) :
    Boundary (indentedSource blank) ((encode blank).length + offset) := by
  obtain ⟨count, same⟩ := boundary
  refine ⟨blank.length + count, ?_⟩
  rw [indentedSource, List.take_length_add_append, encode_append, List.length_append, same]

theorem siblings_indentedTree (blank : Text) :
    Node.Siblings (indentedSource blank) (indentedTree (encode blank).length).children := by
  have bounds (offset : Nat) (boundary : Boundary "function f() {}\n".toList offset) :=
    boundary_indentedSource blank boundary
  have name : Node.WellFormed (indentedSource blank)
      ⟨"identifier", (encode blank).length + 9, (encode blank).length + 10, true, some "name", []⟩ :=
    .leaf (Nat.lt_succ_self _) (bounds 9 ⟨9, by decide⟩) (bounds 10 ⟨10, by decide⟩) rfl
  have function : (indentedFunction (encode blank).length).WellFormed (indentedSource blank) := by
    refine .intro (Nat.lt_add_of_pos_right (by decide)) (bounds 0 ⟨0, by decide⟩)
      (bounds 15 ⟨15, by decide⟩) ?_ (by simp [indentedFunction]) ?_
      (by simpa [indentedFunction] using name)
    · simp only [indentedFunction, List.mem_singleton, forall_eq]
      omega
    · intro _ body _ has
      have bodiless : (indentedFunction (encode blank).length).child? "body" = none := rfl
      rw [bodiless] at has
      cases has
  constructor
  · simpa [indentedTree] using function
  · simp [indentedTree]

/-- The function as the walk records it. -/
theorem exists_parse_indentedTree (blank : Text) : ∃ document own,
    parse (.ofString "a.ts") (indentedSource blank) "" (.ok (indentedTree (encode blank).length)) =
      .ok document ∧ document.source = encode (indentedSource blank) ∧
    ∃ file scope, file.source = encode (indentedSource blank) ∧ document.declarations =
      [Walk.declare file scope (.ofNode none (indentedFunction (encode blank).length))
        (indentedFunction (encode blank).length) own] := by
  obtain ⟨document, parsed⟩ : ∃ document, parse (.ofString "a.ts") (indentedSource blank) ""
      (.ok (indentedTree (encode blank).length)) = .ok document := ⟨_, rfl⟩
  refine ⟨document, ?_⟩
  have recorded (file : Walk.File) (scope : Walk.Scope) : ∃ own, ∀ anchor next,
      Walk.statement file scope none anchor next (indentedFunction (encode blank).length) =
        { declarations :=
            [Walk.declare file scope anchor (indentedFunction (encode blank).length) own] } := by
    apply Exists.intro
    intro anchor next
    rw [Walk.statement]
    rfl
  let file : Walk.File := ⟨(Path.ofString "a.ts").toString, encode (indentedSource blank),
    Walk.exportNames (encode (indentedSource blank)) (indentedTree (encode blank).length)⟩
  let scope := Walk.Scope.inside {} (indentedTree (encode blank).length)
  obtain ⟨own, recorded⟩ := recorded file scope
  have alone : (Walk.statements file scope none 0
      (indentedTree (encode blank).length).children).declarations =
        [Walk.declare file scope (.ofNode none (indentedFunction (encode blank).length))
          (indentedFunction (encode blank).length) own] := by
    simp [indentedTree, Walk.statements, recorded]
    rfl
  cases parsed
  exact ⟨own, rfl, rfl, file, scope, rfl, alone⟩

theorem regions_of_single {d : Declaration} (alone : document.declarations = [d])
    (changed : d.changed = true) : document.regions = [spliceOf document.newline d] := by
  simp [regions, splices, alone, changed, Splice.insert, Splice.backwards]

theorem render_of_single {d : Declaration} (alone : document.declarations = [d])
    (changed : d.changed = true) :
    document.render = decodeLossy ((spliceOf document.newline d).apply document.source) := by
  simp [render, editedBytes, splices, alone, changed, Splice.insert]

theorem indent_indentedFunction {blank : Text} (isBlank : Text.isBlankText blank = true)
    (inline : (encode blank).all (· != 10) = true) :
    (Anchor.ofNode none (indentedFunction (encode blank).length)).indent
      (encode (indentedSource blank)) = blank := by
  have line : (encode blank).reverse.takeWhile (· != 10) = (encode blank).reverse :=
    List.takeWhile_eq_self_iff.mpr fun byte member =>
      List.all_eq_true.mp inline byte (List.mem_reverse.mp member)
  simp only [Anchor.indent, Anchor.ofNode, indentedFunction, indentedSource, encode_append,
    List.take_left, line, List.reverse_reverse, decodeLossy_encode, isBlank, if_true]

/-- The document of an indented function with a new comment. -/
theorem exists_commented (blank : Text) (isBlank : Text.isBlankText blank = true)
    (inline : (encode blank).all (· != 10) = true) : ∃ document d,
    parse (.ofString "a.ts") (indentedSource blank) "" (.ok (indentedTree (encode blank).length)) =
      .ok document ∧
    (document.edited [.set 0 "/** A. */".toList]).source = encode (indentedSource blank) ∧
    (document.edited [.set 0 "/** A. */".toList]).declarations = [d] ∧ d.changed = true ∧
    d.doc = some "/** A. */".toList ∧ d.indent = blank ∧
    ∀ newline, spliceOf newline d = ⟨(encode blank).length, (encode blank).length,
      encode ("/** A. */".toList ++ (newline ++ blank))⟩ := by
  obtain ⟨document, own, parsed, source, file, scope, same, alone⟩ :=
    exists_parse_indentedTree blank
  have indent := indent_indentedFunction isBlank inline
  rw [← same] at indent
  refine ⟨document, _, parsed, source, congrArg (·.modify 0 (·.setDoc "/** A. */".toList)) alone,
    rfl, rfl, indent, fun newline => ?_⟩
  have doc : ((Walk.declare file scope (.ofNode none (indentedFunction (encode blank).length))
      (indentedFunction (encode blank).length) own).setDoc "/** A. */".toList).doc =
      some "/** A. */".toList := rfl
  rw [spliceOf, written_of_block doc (by decide)]
  simp only [Declaration.setDoc, Walk.declare, indent]
  rfl

theorem stands_of_single {d : Declaration} (alone : document.declarations = [d])
    (changed : d.changed = true) : document.Stands d :=
  (stands_iff_of_single alone changed d).mpr rfl

theorem render_commented {blank : Text} {d : Declaration}
    (source : document.source = encode (indentedSource blank))
    (alone : document.declarations = [d]) (changed : d.changed = true)
    (splice : spliceOf document.newline d = ⟨(encode blank).length, (encode blank).length,
      encode ("/** A. */".toList ++ (document.newline ++ blank))⟩) :
    document.render = blank ++ "/** A. */".toList ++ (document.newline ++ blank) ++
      "function f() {}\n".toList := by
  have whole : Splice.apply ⟨(encode blank).length, (encode blank).length,
      encode ("/** A. */".toList ++ (document.newline ++ blank))⟩ (encode (indentedSource blank)) =
      encode (blank ++ ("/** A. */".toList ++ (document.newline ++ blank)) ++
        "function f() {}\n".toList) := by
    simp only [Splice.apply, indentedSource, encode_append, List.take_left, List.drop_left]
  rw [render_of_single alone changed, splice, source, whole, decodeLossy_encode]
  simp only [List.append_assoc]

/-- A comment inserted above a function behind a tab is found again. -/
theorem inserted_found_tab :
    Node.Siblings (indentedSource ['\t']) (indentedTree 1).children ∧
    ∃ document d, parse (.ofString "a.ts") (indentedSource ['\t']) "" (.ok (indentedTree 1)) =
        .ok document ∧
      (document.edited [.set 0 "/** A. */".toList]).Stands d ∧
      d.doc = some "/** A. */".toList ∧ Comment.isBlock "/** A. */".toList = true ∧
      ∀ anchor : Anchor, anchor.Below ⟨"comment", 1, 10, true, none, []⟩ 1 9 2 →
        anchor.comment? (encode (document.edited [.set 0 "/** A. */".toList]).render) =
          some ⟨"/** A. */".toList, 1, 10⟩ := by
  have siblings : Node.Siblings (indentedSource ['\t']) (indentedTree 1).children :=
    siblings_indentedTree ['\t']
  obtain ⟨document, d, parsed, source, alone, changed, doc, indent, splice⟩ :=
    exists_commented ['\t'] (by decide) (by decide)
  have stands := stands_of_single alone changed
  refine ⟨siblings, document, d, parsed, stands, doc, by decide, fun anchor below => ?_⟩
  obtain ⟨-, before, after, _, _, _, _, cut, rfl, rfl, rfl, rfl, -, -, found⟩ :=
    inserted_found_iff siblings parsed _ stands doc (by decide)
  rw [regions_of_single alone changed] at cut
  obtain ⟨rfl, -⟩ : before = [] ∧ after = [] := by
    have length := congrArg List.length cut
    simp only [List.length_append, List.length_cons, List.length_nil] at length
    exact ⟨List.length_eq_zero_iff.mp (by omega), List.length_eq_zero_iff.mp (by omega)⟩
  have start : d.anchor.start = 1 := congrArg Splice.stop (splice [])
  have opens : d.anchor.regionStart (encode (indentedSource ['\t'])) = 1 := by
    have begins := congrArg Splice.start (splice [])
    rwa [((sound_of_parse siblings parsed).edited _).start_spliceOf stands.mem] at begins
  rw [indent, opens] at found
  exact (found ⟨"comment", 1, 10, true, none, []⟩ anchor below).1

/-- A comment inserted above a function behind a no-break space is lost: the space is copied as
    indentation, but it is not passed over when the comment is looked for. -/
theorem inserted_lost_noBreakSpace :
    Node.Siblings (indentedSource ['\u00a0']) (indentedTree 2).children ∧
    ∃ document d, parse (.ofString "a.ts") (indentedSource ['\u00a0']) "" (.ok (indentedTree 2)) =
        .ok document ∧
      (document.edited [.set 0 "/** A. */".toList]).Stands d ∧
      d.doc = some "/** A. */".toList ∧ Comment.isBlock "/** A. */".toList = true ∧
      (document.edited [.set 0 "/** A. */".toList]).render =
        "\u00a0/** A. */\n\u00a0function f() {}\n".toList ∧
      (encode "\n\u00a0".toList).all Anchor.isBlankByte = false ∧
      ∀ anchor : Anchor, anchor.Below ⟨"comment", 2, 11, true, none, []⟩ 2 9 3 →
        anchor.comment? (encode (document.edited [.set 0 "/** A. */".toList]).render) = none := by
  obtain ⟨document, d, parsed, source, alone, changed, doc, -, splice⟩ :=
    exists_commented ['\u00a0'] (by decide) (by decide)
  have newline : (document.edited [.set 0 "/** A. */".toList]).newline = ['\n'] := by
    rw [Document.newline, source]
    rfl
  have rendered := render_commented source alone changed (splice _)
  rw [newline] at rendered
  refine ⟨siblings_indentedTree ['\u00a0'], document, d, parsed, stands_of_single alone changed, doc,
    by decide, rendered, by decide, fun anchor below => ?_⟩
  have enclosed : Comment.Enclosed "/** A. */".toList :=
    Comment.isBlock_iff.mp (by decide : Comment.isBlock "/** A. */".toList = true)
  rw [rendered, encode_append, encode_append, encode_append]
  exact Anchor.comment?_of_below enclosed below _

end Document

end Scholia
