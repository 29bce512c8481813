import Scholia.Proofs.Source.Regions
import Scholia.Proofs.Text.Trimming

/-! # Rendering touches nothing but comments

However the comments of a parsed document are edited, rendering replaces the regions of changed
comments and leaves all other bytes of the source as they are and in their order.
-/

namespace Scholia

open Utf8

namespace Document

/-- A document of a text whose declarations stand where the walk over a well-formed tree has put
    them. -/
structure Sound (text : Text) (document : Document) : Prop where
  source : document.source = encode text
  settled : document.Settled (Boundary text)

section

variable {text : Text} {document : Document}

theorem sound_of_parse {path : Path} {relativePath : String} {root : Node}
    (siblings : Node.Siblings text root.children)
    (parsed : parse path text relativePath (.ok root) = .ok document) : document.Sound text where
  source := source_of_parse parsed
  settled := by
    apply settled_of_parse siblings.brood ?_ parsed
    intro node member
    exact (siblings.brood.nested node member).closes.le_length

theorem Sound.edited (sound : document.Sound text) (edits : List Edit) :
    (document.edited edits).Sound text where
  source := by rw [source_edited, sound.source]
  settled := sound.settled.edited edits

/-- The regions of declarations with different anchors do not touch. -/
theorem Sound.apart (sound : document.Sound text) :
    ∀ first ∈ document.declarations, ∀ second ∈ document.declarations,
      Anchor.Apart (encode text) first.anchor second.anchor := by
  rw [← sound.source]
  exact sound.settled.apart

theorem Sound.start_spliceOf (sound : document.Sound text) {d : Declaration}
    (member : d ∈ document.declarations) (newline : Text) :
    (spliceOf newline d).start = d.anchor.regionStart (encode text) := by
  rw [← sound.source]
  exact Document.start_spliceOf sound.settled member newline

theorem spliceOf_eq (sound : document.Sound text) {d : Declaration}
    (member : d ∈ document.declarations) : spliceOf document.newline d =
      ⟨d.anchor.regionStart (encode text), d.anchor.start,
        encode (written (newlineOf (encode text)) d)⟩ := by
  rw [← sound.start_spliceOf member document.newline, newline, sound.source]
  rfl

theorem Sound.textual (sound : document.Sound text) {d : Declaration}
    (member : d ∈ document.declarations) (newline : Text) :
    (spliceOf newline d).Textual text := by
  have sited := sound.settled.sited d member
  refine ⟨?_, sited.closes, (sound.settled.fits member newline).order, written newline d, rfl⟩
  rw [Document.start_spliceOf sound.settled member]
  exact sited.opens

theorem Sound.textual_of_mem_regions (sound : document.Sound text) :
    ∀ splice ∈ document.regions, splice.Textual text := by
  intro splice member
  obtain ⟨d, stands, rfl⟩ := (mem_regions_iff sound.settled).mp member
  exact sound.textual stands.mem document.newline

theorem Sound.encode_render (sound : document.Sound text) :
    encode document.render = Splice.weave (encode text) 0 document.regions := by
  have opens : Boundary text 0 := ⟨0, rfl⟩
  obtain ⟨edited, same⟩ := Splice.exists_weave_eq sound.textual_of_mem_regions
    sound.settled.ascending_regions opens (fun _ _ => Nat.zero_le _)
  rw [render, sound.settled.editedBytes_eq, sound.source, same, decodeLossy_encode]

/-- A document without changes renders to its source. -/
theorem Sound.render_of_unchanged (sound : document.Sound text) (unchanged : document.changed = false) :
    document.render = text := by
  have nothing : document.declarations.filter (·.changed) = [] := by
    rw [List.filter_eq_nil_iff]
    simpa [changed] using unchanged
  rw [render, editedBytes, splices, nothing, sound.source, List.foldl_nil, List.mergeSort_nil,
    List.foldl_nil, decodeLossy_encode]

/-- Whatever blank text a comment is set to, nothing is written for it. -/
theorem written_setDoc (newline content : Text) (d : Declaration) :
    written newline (d.setDoc content) =
      if Text.isBlankText content then []
      else Comment.indentBlock (Text.trim content) d.indent newline ++ newline ++ d.indent := by
  have doc : (d.setDoc content).doc = some (Text.trim content) := rfl
  rw [written, doc]
  cases blank : Text.isBlankText content with
  | true =>
      rw [Text.trim_eq_nil.mpr blank]
      rfl
  | false =>
      have filled : Text.trim content ≠ [] := by
        rw [Ne, Text.trim_eq_nil, blank]
        exact Bool.false_ne_true
      cases trimmed : Text.trim content with
      | nil => exact absurd trimmed filled
      | cons c rest => rfl

/-- After any edits of a parsed document, rendering gives the source with the regions of changed
    comments replaced and all else as it was: each anchor with a changed declaration has one
    region, for the last such declaration, and the regions of different anchors do not touch.
    The root of an empty source is empty, so only what stands below it has to be well-formed. -/
theorem render_edited {path : Path} {relativePath : String} {root : Node}
    (siblings : Node.Siblings text root.children)
    (parsed : parse path text relativePath (.ok root) = .ok document) (edits : List Edit) :
    (∃ regions : List Splice, Splice.Ascending regions ∧
      (∀ region ∈ regions, region.Fits (encode text)) ∧
      (∀ region, region ∈ regions ↔ ∃ d, (document.edited edits).Stands d ∧
        region = ⟨d.anchor.regionStart (encode text), d.anchor.start,
          encode (written (newlineOf (encode text)) d)⟩) ∧
      encode (document.edited edits).render = Splice.weave (encode text) 0 regions) ∧
    (∀ d newline, written newline (Declaration.removeDoc d) = [] ∧
      ∀ content, written newline (d.setDoc content) =
        if Text.isBlankText content then []
        else Comment.indentBlock (Text.trim content) d.indent newline ++ newline ++ d.indent) ∧
    (∀ first ∈ (document.edited edits).declarations,
      ∀ second ∈ (document.edited edits).declarations,
        Anchor.Apart (encode text) first.anchor second.anchor) ∧
    ((document.edited edits).changed = false → (document.edited edits).render = text) := by
  have sound := (sound_of_parse siblings parsed).edited edits
  refine ⟨⟨(document.edited edits).regions, sound.settled.ascending_regions, ?_, ?_,
    sound.encode_render⟩, ?_, sound.apart, sound.render_of_unchanged⟩
  · intro region member
    exact (sound.textual_of_mem_regions region member).fits
  · intro region
    rw [mem_regions_iff sound.settled]
    constructor
    · rintro ⟨d, stands, rfl⟩
      exact ⟨d, stands, spliceOf_eq sound stands.mem⟩
    · rintro ⟨d, stands, rfl⟩
      exact ⟨d, stands, (spliceOf_eq sound stands.mem).symm⟩
  · intro d newline
    exact ⟨rfl, fun content => written_setDoc newline content d⟩

end

theorem stands_iff_of_single {document : Document} {d : Declaration}
    (alone : document.declarations = [d]) (changed : d.changed = true) (other : Declaration) :
    document.Stands other ↔ other = d := by
  constructor
  · intro stands
    have member := stands.mem
    rw [alone] at member
    exact List.mem_singleton.mp member
  · rintro rfl
    exact ⟨[], [], alone, changed, by simp⟩

/-! ## A function below a comment -/

/-- A source with a function below a comment. -/
def commentedSource : Text :=
  "/** A. */\nfunction f() {}\n".toList

def commentNode : Node :=
  ⟨"comment", 0, 9, true, none, []⟩

def functionNode : Node :=
  ⟨"function_declaration", 10, 25, true, none, [⟨"identifier", 19, 20, true, some "name", []⟩]⟩

/-- The tree of the source. -/
def commentedTree : Node :=
  ⟨"program", 0, 26, true, none, [commentNode, functionNode]⟩

theorem siblings_commentedTree : Node.Siblings commentedSource commentedTree.children := by
  have name : Node.WellFormed commentedSource ⟨"identifier", 19, 20, true, some "name", []⟩ :=
    .leaf (by decide) ⟨19, by decide⟩ ⟨20, by decide⟩ rfl
  have comment : commentNode.WellFormed commentedSource :=
    .leaf (by decide) ⟨0, by decide⟩ ⟨9, by decide⟩ rfl
  have bodiless : functionNode.child? "body" = none := rfl
  have function : functionNode.WellFormed commentedSource := by
    refine .intro (by decide) ⟨10, by decide⟩ ⟨25, by decide⟩ (by simp [functionNode])
      (by simp [functionNode]) ?_ (by simpa [functionNode] using name)
    intro _ body _ has
    rw [bodiless] at has
    cases has
  constructor
  · simpa [commentedTree] using ⟨comment, function⟩
  · simp [commentedTree, commentNode, functionNode]

theorem declarations_commentedTree (file : Walk.File) (scope : Walk.Scope) :
    ∃ own, (Walk.statements file scope none 0 commentedTree.children).declarations =
      [Walk.declare file scope (.ofNode (some commentNode) functionNode) functionNode own] := by
  have comment : ∀ anchor next, Walk.statement file scope none anchor next commentNode = {} :=
    fun anchor next => Walk.statement_of_comment file scope none anchor next rfl
  have function : ∃ own, ∀ anchor next, Walk.statement file scope none anchor next functionNode =
      { declarations := [Walk.declare file scope anchor functionNode own] } := by
    apply Exists.intro
    intro anchor next
    rw [Walk.statement]
    rfl
  obtain ⟨own, function⟩ := function
  refine ⟨own, ?_⟩
  simp [commentedTree, Walk.statements, comment, function]
  rfl

theorem comment_functionNode :
    (Anchor.ofNode (some commentNode) functionNode).comment? (encode commentedSource) =
      some ⟨"/** A. */".toList, 0, 9⟩ := by
  have content : commentNode.textIn (encode commentedSource) = "/** A. */".toList :=
    decodeLossy_encode "/** A. */".toList
  simp only [Anchor.comment?, Anchor.ofNode, content]
  decide

theorem regionStart_functionNode :
    (Anchor.ofNode (some commentNode) functionNode).regionStart (encode commentedSource) = 0 := by
  rw [Anchor.regionStart, comment_functionNode]
  rfl

theorem indent_functionNode :
    (Anchor.ofNode (some commentNode) functionNode).indent (encode commentedSource) = [] := by
  have line : (((encode commentedSource).take 10).reverse.takeWhile (· != 10)).reverse =
      encode [] := by decide
  simp only [Anchor.indent, Anchor.ofNode, functionNode, line, decodeLossy_encode]
  rfl

/-- The function as the walk records it, with a new comment. -/
def editedFunction (file : Walk.File) (scope : Walk.Scope) (own : Walk.Particulars) : Declaration :=
  (Walk.declare file scope (.ofNode (some commentNode) functionNode) functionNode own).setDoc
    "/** B. */".toList

theorem changed_editedFunction {file : Walk.File} (source : file.source = encode commentedSource)
    (scope : Walk.Scope) (own : Walk.Particulars) :
    (editedFunction file scope own).changed = true := by
  rw [editedFunction, Walk.declare, source, comment_functionNode]
  rfl

theorem written_editedFunction {file : Walk.File} (source : file.source = encode commentedSource)
    (scope : Walk.Scope) (own : Walk.Particulars) :
    written ['\n'] (editedFunction file scope own) = "/** B. */\n".toList := by
  rw [editedFunction, written_setDoc, Walk.declare, source, indent_functionNode]
  rfl

/-- The comment of the function is replaced and nothing else. -/
theorem render_edited_commented :
    Node.Siblings commentedSource commentedTree.children ∧
      ∃ document, parse (.ofString "a.ts") commentedSource "" (.ok commentedTree) = .ok document ∧
        (document.edited [.set 0 "/** B. */".toList]).render =
          "/** B. */\nfunction f() {}\n".toList := by
  obtain ⟨document, parsed⟩ : ∃ document,
      parse (.ofString "a.ts") commentedSource "" (.ok commentedTree) = .ok document := ⟨_, rfl⟩
  refine ⟨siblings_commentedTree, document, parsed, ?_⟩
  obtain ⟨⟨regions, ascending, fits, member, same⟩, -⟩ :=
    render_edited siblings_commentedTree parsed [.set 0 "/** B. */".toList]
  have edited : ∃ file scope own, file.source = encode commentedSource ∧
      (document.edited [.set 0 "/** B. */".toList]).declarations =
        [editedFunction file scope own] := by
    cases parsed
    let file : Walk.File :=
      ⟨(Path.ofString "a.ts").toString, encode commentedSource,
        Walk.exportNames (encode commentedSource) commentedTree⟩
    obtain ⟨own, alone⟩ := declarations_commentedTree file (Walk.Scope.inside {} commentedTree)
    exact ⟨file, _, own, rfl, congrArg (·.modify 0 (·.setDoc "/** B. */".toList)) alone⟩
  obtain ⟨file, scope, own, source, alone⟩ := edited
  have stands := stands_iff_of_single alone (changed_editedFunction source scope own)
  have newline : newlineOf (encode commentedSource) = ['\n'] := rfl
  have region : (⟨(Anchor.ofNode (some commentNode) functionNode).regionStart
      (encode commentedSource), 10, encode (written ['\n'] (editedFunction file scope own))⟩ :
      Splice) = ⟨0, 10, encode "/** B. */\n".toList⟩ := by
    rw [regionStart_functionNode, written_editedFunction source scope own]
  have single : regions = [⟨0, 10, encode "/** B. */\n".toList⟩] := by
    refine Splice.eq_singleton ascending fits fun other => ?_
    rw [member, newline, ← region]
    constructor
    · rintro ⟨d, here, rfl⟩
      rw [(stands d).mp here]
      rfl
    · intro same
      exact ⟨_, (stands _).mpr rfl, same⟩
  rw [single] at same
  exact encode_injective same

end Document

end Scholia
