import Scholia.Proofs.Source.Forest
import Scholia.Proofs.Source.Splicing
import Scholia.Source.Language

/-! # The regions of edits

However the comments of a parsed document are edited, its declarations stay where the walk has put
them. Each anchor with a changed declaration has one region, for the last such declaration, and the
regions of different anchors do not touch, so that rendering replaces each of them and nothing else.
-/

namespace Scholia

open Utf8

namespace Document

/-- A call that edits the comment of one declaration. -/
inductive Edit where
  | set (index : Nat) (text : Text)
  | remove (index : Nat)

/-- The document after a call. -/
def Edit.apply (document : Document) : Edit → Document
  | .set index text => document.modify index (·.setDoc text)
  | .remove index => document.modify index (·.removeDoc)

/-- The document after a sequence of calls. -/
def edited (document : Document) (edits : List Edit) : Document :=
  edits.foldl Edit.apply document

/-- The declaration is the last changed one of those that share its anchor. -/
def Stands (document : Document) (d : Declaration) : Prop :=
  ∃ before after, document.declarations = before ++ d :: after ∧ d.changed = true ∧
    ∀ other ∈ after, other.changed = true → other.anchor ≠ d.anchor

/-- A document whose declarations stand where the walk over a nested tree has put them. -/
structure Settled (fair : Nat → Prop) (document : Document) : Prop where
  comment : ∀ d ∈ document.declarations, d.comment = d.anchor.comment? document.source
  indent : ∀ d ∈ document.declarations, d.indent = d.anchor.indent document.source
  sited : ∀ d ∈ document.declarations, d.anchor.Sited document.source fair
  limit : ∀ d ∈ document.declarations, d.anchor.start < document.source.length
  apart : ∀ first ∈ document.declarations, ∀ second ∈ document.declarations,
    Anchor.Apart document.source first.anchor second.anchor

variable {text : Text} {document : Document} {fair : Nat → Prop}

theorem source_of_parse {path : Path} {relativePath : String} {root : Node}
    (parsed : parse path text relativePath (.ok root) = .ok document) :
    document.source = encode text := by
  cases parsed
  rfl

/-- The declarations of a parsed document are what the walk has recorded. -/
theorem grove_of_parse {path : Path} {relativePath : String} {root : Node}
    (brood : Node.Brood fair root.children) {upper : Nat}
    (stops : ∀ node ∈ root.children, node.stop ≤ upper)
    (parsed : parse path text relativePath (.ok root) = .ok document) :
    ∃ file, file.source = document.source ∧
      Walk.Grove file fair none none Walk.Free 0 0 upper document.declarations := by
  cases parsed
  exact ⟨_, rfl, Walk.grove_program _ (encode text) root brood stops⟩

theorem exists_upper (nodes : List Node) : ∃ upper, ∀ node ∈ nodes, node.stop ≤ upper := by
  induction nodes with
  | nil => exact ⟨0, by simp⟩
  | cons node rest ih =>
      obtain ⟨upper, stops⟩ := ih
      refine ⟨max node.stop upper, ?_⟩
      intro other member
      rcases List.mem_cons.mp member with rfl | later
      · exact Nat.le_max_left _ _
      · exact Nat.le_trans (stops other later) (Nat.le_max_right _ _)

theorem exists_grove_of_parse {path : Path} {relativePath : String} {root : Node}
    (brood : Node.Brood fair root.children)
    (parsed : parse path text relativePath (.ok root) = .ok document) : ∃ file upper,
      Walk.Grove file fair none none Walk.Free 0 0 upper document.declarations := by
  obtain ⟨upper, stops⟩ := exists_upper root.children
  obtain ⟨file, -, grove⟩ := grove_of_parse brood stops parsed
  exact ⟨file, upper, grove⟩

theorem settled_of_parse {path : Path} {relativePath : String} {root : Node}
    (brood : Node.Brood fair root.children)
    (stops : ∀ node ∈ root.children, node.stop ≤ (encode text).length)
    (parsed : parse path text relativePath (.ok root) = .ok document) : document.Settled fair := by
  obtain ⟨file, same, grove⟩ := grove_of_parse brood stops parsed
  rw [← source_of_parse parsed] at grove
  constructor
  · intro d member
    rw [← same]
    exact (grove.planted d member).recorded.comment
  · intro d member
    rw [← same]
    exact (grove.planted d member).recorded.indent
  · intro d member
    rw [← same]
    exact (grove.planted d member).sited
  · intro d member
    exact ((grove.planted d member).placed.resolve_left (by simp)).stop
  · rw [← same]
    exact grove.apart_of_mem

theorem mem_modify {document : Document} {index : Nat} {change : Declaration → Declaration}
    {d : Declaration} (member : d ∈ (document.modify index change).declarations) :
    d ∈ document.declarations ∨ ∃ old ∈ document.declarations, d = change old := by
  obtain ⟨place, found⟩ := List.mem_iff_getElem?.mp member
  rw [modify, List.getElem?_modify] at found
  cases same : document.declarations[place]? with
  | none =>
      rw [same] at found
      cases found
  | some old =>
      rw [same] at found
      have inside := List.mem_of_getElem? same
      cases found
      split
      · exact .inr ⟨old, inside, rfl⟩
      · exact .inl inside

/-- Where a declaration of an edited document was recorded. -/
structure Origin (old d : Declaration) : Prop where
  anchor : d.anchor = old.anchor
  indent : d.indent = old.indent
  comment : d.comment = old.comment

theorem exists_origin (edits : List Edit) {d : Declaration}
    (member : d ∈ (document.edited edits).declarations) :
    ∃ old ∈ document.declarations, Origin old d := by
  induction edits generalizing document with
  | nil => exact ⟨d, member, rfl, rfl, rfl⟩
  | cons edit rest ih =>
      obtain ⟨middle, inside, origin⟩ := ih member
      cases edit with
      | set index content =>
          rcases mem_modify inside with kept | ⟨old, here, rfl⟩
          · exact ⟨middle, kept, origin⟩
          · exact ⟨old, here, origin.anchor, origin.indent, origin.comment⟩
      | remove index =>
          rcases mem_modify inside with kept | ⟨old, here, rfl⟩
          · exact ⟨middle, kept, origin⟩
          · exact ⟨old, here, origin.anchor, origin.indent, origin.comment⟩

theorem source_edited (edits : List Edit) : (document.edited edits).source = document.source := by
  induction edits generalizing document with
  | nil => rfl
  | cons edit rest ih =>
      rw [edited, List.foldl_cons, ← edited, ih]
      cases edit with
      | set | remove => rfl

/-- Declarations that stand where settled ones were recorded are settled. -/
theorem Settled.of_origins {other : Document} (settled : document.Settled fair)
    (source : other.source = document.source)
    (origins : ∀ d ∈ other.declarations, ∃ old ∈ document.declarations, Origin old d) :
    other.Settled fair := by
  constructor
  · intro d member
    obtain ⟨old, inside, origin⟩ := origins d member
    rw [origin.comment, origin.anchor, source]
    exact settled.comment old inside
  · intro d member
    obtain ⟨old, inside, origin⟩ := origins d member
    rw [origin.indent, origin.anchor, source]
    exact settled.indent old inside
  · intro d member
    obtain ⟨old, inside, origin⟩ := origins d member
    rw [origin.anchor, source]
    exact settled.sited old inside
  · intro d member
    obtain ⟨old, inside, origin⟩ := origins d member
    rw [origin.anchor, source]
    exact settled.limit old inside
  · intro a inA b inB
    obtain ⟨first, insideA, originA⟩ := origins a inA
    obtain ⟨second, insideB, originB⟩ := origins b inB
    rw [originA.anchor, originB.anchor, source]
    exact settled.apart first insideA second insideB

/-- Edits change nothing but the contents of comments. -/
theorem Settled.edited (settled : document.Settled fair) (edits : List Edit) :
    (document.edited edits).Settled fair :=
  settled.of_origins (source_edited edits) fun _ member => exists_origin edits member

/-! ## What is written where -/

variable {d : Declaration}

theorem start_spliceOf (settled : document.Settled fair) (member : d ∈ document.declarations)
    (newline : Text) :
    (spliceOf newline d).start = d.anchor.regionStart document.source := by
  rw [spliceOf, settled.comment d member, Anchor.regionStart]

theorem Settled.fits (settled : document.Settled fair) (member : d ∈ document.declarations)
    (newline : Text) : (spliceOf newline d).Fits document.source := by
  constructor
  · rw [start_spliceOf settled member]
    exact (settled.sited d member).order
  · exact Nat.le_of_lt (settled.limit d member)

/-- The regions of declarations with different anchors do not touch. -/
theorem Settled.separate (settled : document.Settled fair) {first second : Declaration}
    (inFirst : first ∈ document.declarations) (inSecond : second ∈ document.declarations)
    (differ : first.anchor ≠ second.anchor) (newline : Text) :
    (spliceOf newline first).stop < (spliceOf newline second).start ∨
      (spliceOf newline second).stop < (spliceOf newline first).start := by
  rw [start_spliceOf settled inFirst, start_spliceOf settled inSecond]
  exact (settled.apart first inFirst second inSecond).resolve_left differ

/-- Anchors are told apart by where they start. -/
theorem Settled.anchor_eq_iff (settled : document.Settled fair) {first second : Declaration}
    (inFirst : first ∈ document.declarations) (inSecond : second ∈ document.declarations) :
    first.anchor.start = second.anchor.start ↔ first.anchor = second.anchor := by
  constructor
  · intro same
    have orderFirst := (settled.sited first inFirst).order
    have orderSecond := (settled.sited second inSecond).order
    refine (settled.apart first inFirst second inSecond).resolve_right ?_
    omega
  · intro same
    rw [same]

theorem splices_eq_gather (document : Document) :
    document.splices = Splice.gather
      ((document.declarations.filter (·.changed)).map (spliceOf document.newline)) := by
  rw [splices, Splice.gather, List.foldl_map]

theorem mem_splices_iff (settled : document.Settled fair) {splice : Splice} :
    splice ∈ document.splices ↔
      ∃ d, document.Stands d ∧ splice = spliceOf document.newline d := by
  rw [splices_eq_gather, Splice.mem_gather]
  constructor
  · rintro ⟨before, after, cut, final⟩
    obtain ⟨front, back, whole, rfl, tail⟩ := List.map_eq_append_iff.mp cut
    obtain ⟨d, others, rfl, rfl, rfl⟩ := List.map_eq_cons_iff.mp tail
    obtain ⟨left, right, split, rfl, rest⟩ := List.filter_eq_append_iff.mp whole
    obtain ⟨skipped, later, rfl, -, changed, rfl⟩ := List.filter_eq_cons_iff.mp rest
    refine ⟨d, ⟨left ++ skipped, later, by simp [split], changed, ?_⟩, rfl⟩
    intro other member otherChanged same
    refine final (spliceOf document.newline other) ?_ (congrArg Anchor.start same)
    exact List.mem_map_of_mem (List.mem_filter.mpr ⟨member, otherChanged⟩)
  · rintro ⟨d, ⟨before, after, cut, changed, final⟩, rfl⟩
    refine ⟨(before.filter (·.changed)).map (spliceOf document.newline),
      (after.filter (·.changed)).map (spliceOf document.newline), ?_, ?_⟩
    · rw [cut, List.filter_append, List.filter_cons_of_pos changed, List.map_append, List.map_cons]
    · intro splice member same
      obtain ⟨other, kept, rfl⟩ := List.mem_map.mp member
      obtain ⟨inside, otherChanged⟩ := List.mem_filter.mp kept
      have here : d ∈ document.declarations := by simp [cut]
      have there : other ∈ document.declarations := by simp [cut, inside]
      exact final other inside otherChanged ((settled.anchor_eq_iff there here).mp same)

theorem Stands.mem (stands : document.Stands d) : d ∈ document.declarations := by
  obtain ⟨before, after, cut, -⟩ := stands
  simp [cut]

/-- The splices of a document, in the order of the source. -/
def regions (document : Document) : List Splice :=
  (Splice.backwards document.splices).reverse

theorem mem_regions_iff (settled : document.Settled fair) {splice : Splice} :
    splice ∈ document.regions ↔ ∃ d, document.Stands d ∧ splice = spliceOf document.newline d := by
  rw [regions, List.mem_reverse, ← mem_splices_iff settled]
  exact (List.mergeSort_perm _ _).mem_iff

theorem Settled.fits_of_mem_regions (settled : document.Settled fair) :
    ∀ splice ∈ document.regions, splice.Fits document.source := by
  intro splice member
  obtain ⟨d, stands, rfl⟩ := (mem_regions_iff settled).mp member
  exact settled.fits stands.mem document.newline

theorem Settled.ascending_regions (settled : document.Settled fair) :
    Splice.Ascending document.regions := by
  refine Splice.ascending_reverse_backwards ?_ ?_
  · intro splice member
    obtain ⟨d, stands, rfl⟩ := (mem_splices_iff settled).mp member
    exact (settled.fits stands.mem document.newline).order
  · have distinct := Splice.distinct_gather
      ((document.declarations.filter (·.changed)).map (spliceOf document.newline))
    rw [← splices_eq_gather] at distinct
    refine distinct.imp_of_mem fun inFirst inSecond differ => ?_
    obtain ⟨first, standsFirst, rfl⟩ := (mem_splices_iff settled).mp inFirst
    obtain ⟨second, standsSecond, rfl⟩ := (mem_splices_iff settled).mp inSecond
    exact settled.separate standsFirst.mem standsSecond.mem
      (fun same => differ (congrArg Anchor.start same)) document.newline

theorem Settled.editedBytes_eq (settled : document.Settled fair) :
    document.editedBytes = Splice.weave document.source 0 document.regions := by
  have woven := Splice.foldr_apply settled.fits_of_mem_regions settled.ascending_regions
    (fun _ _ => Nat.zero_le _)
  rw [List.take_zero, List.nil_append] at woven
  rw [editedBytes, List.foldl_eq_foldr_reverse, ← woven]
  rfl

end Document

end Scholia
