import Scholia.Proofs.Source.Regions

/-! # The order of declarations

The declarations of a parsed document stand in the order of the source, each behind the declaration
that encloses it. So they have distinct spans and identities, kinds that fit their places, and
comments of their own unless they share an anchor.
-/

namespace Scholia

/-! ## Identities -/

namespace Declaration

theorem ne_colon_of_mem_repr {number : Nat} {c : Char} (member : c ∈ (Nat.repr number).toList) :
    c ≠ ':' := by
  rw [Nat.toList_repr] at member
  intro same
  have digit := Nat.isDigit_of_mem_toDigits (by decide) (by decide) member
  rw [same] at digit
  cases digit

/-- A text up to its last colon is told by the whole, and so is the rest. -/
theorem split_of_colon {front front' back back' : List Char} (plain : ∀ c ∈ back, c ≠ ':')
    (plain' : ∀ c ∈ back', c ≠ ':') (same : front ++ ':' :: back = front' ++ ':' :: back') :
    front = front' ∧ back = back' := by
  have last {front back : List Char} (plain : ∀ c ∈ back, c ≠ ':') :
      (front ++ ':' :: back).reverse.takeWhile (· != ':') = back.reverse := by
    have whole : (front ++ ':' :: back).reverse = back.reverse ++ ':' :: front.reverse := by simp
    rw [whole, List.takeWhile_append_of_pos]
    · simp
    · intro c member
      simpa using plain c (List.mem_reverse.mp member)
  have ends : (front ++ ':' :: back).reverse.takeWhile (· != ':') = back.reverse := last plain
  rw [same, last plain'] at ends
  obtain rfl : back' = back := List.reverse_inj.mp ends
  exact ⟨List.append_cancel_right same, rfl⟩

/-- An identity is a relative name, a line and an offset. -/
theorem toList_id (d : Declaration) : d.id.toList =
    (d.relativePath.toList ++ ':' :: (Nat.repr d.firstLine).toList) ++
      ':' :: (Nat.repr d.node.start).toList := by
  simp [id, toString, String.toList_append]

/-- Declarations are told apart by their identities if they start at different offsets. -/
theorem start_eq_of_id_eq {first second : Declaration} (same : first.id = second.id) :
    first.node.start = second.node.start := by
  have texts := congrArg String.toList same
  rw [toList_id, toList_id] at texts
  have digits := (split_of_colon (fun _ => ne_colon_of_mem_repr)
    (fun _ => ne_colon_of_mem_repr) texts).2
  rw [Nat.toList_repr, Nat.toList_repr] at digits
  have values := congrArg (Nat.ofDigitChars 10 · 0) digits
  simpa using values

end Declaration

namespace Document

/-- The declaration that encloses one of the document. -/
def owner? (document : Document) (d : Declaration) : Option Declaration :=
  d.parent.bind fun place => document.declarations[place]?

/-- The declarations of a document are a forest in the order of the source. -/
structure Ordered (document : Document) : Prop where
  ascending : document.declarations.Pairwise fun first second =>
    first.node.start < second.node.start
  spans : (document.declarations.map (·.span)).Nodup
  ids : (document.declarations.map (·.id)).Nodup
  /-- A parent is recorded in front of what it encloses. -/
  enclosed : ∀ (index : Nat) (d : Declaration) (place : Nat),
    document.declarations[index]? = some d → d.parent = some place →
    place < index ∧ ∃ owner, document.declarations[place]? = some owner ∧
      owner.node.start ≤ d.node.start ∧ d.node.stop ≤ owner.node.stop ∧
      owner.kind ∈ [.classDecl, .interface, .module]
  isMember_iff : ∀ d ∈ document.declarations, d.kind.isMember = true ↔
    ∃ owner, document.owner? d = some owner ∧ owner.kind ∈ [.classDecl, .interface]
  isSignature_iff : ∀ d ∈ document.declarations, d.kind.isSignature = true ↔
    ∃ owner, document.owner? d = some owner ∧ owner.kind = .interface
  /-- Declarations with one comment share an anchor. -/
  comments : ∀ first ∈ document.declarations, ∀ second ∈ document.declarations,
    ∀ mine ∈ first.comment, ∀ other ∈ second.comment, mine.start = other.start →
      first.anchor = second.anchor

end Document

namespace Walk.Grove

variable {file : File} {fair : Nat → Prop} {shared : Option Anchor} {parent : Option Nat}
variable {admits : Kind → Prop} {next lower upper : Nat} {found : List Declaration}

/-- Whatever tells the starts of declarations tells the declarations apart. -/
theorem nodup_map (grove : Grove file fair shared parent admits next lower upper found)
    {α : Type} {key : Declaration → α}
    (tells : ∀ {first second}, key first = key second → first.node.start = second.node.start) :
    (found.map key).Nodup := by
  rw [List.nodup_iff_pairwise_ne, List.pairwise_map]
  apply grove.ascending.imp
  intro first second before same
  have start := tells same
  omega

/-- Comments that start at one place belong to one anchor. -/
theorem anchor_eq_of_comment (grove : Grove file fair shared parent admits next lower upper found)
    {first second : Declaration} (inFirst : first ∈ found) (inSecond : second ∈ found)
    {mine other : DocComment} (isMine : first.comment = some mine)
    (isOther : second.comment = some other) (same : mine.start = other.start) :
    first.anchor = second.anchor := by
  have region {d : Declaration} {comment : DocComment} (member : d ∈ found)
      (has : d.comment = some comment) : d.anchor.regionStart file.source = comment.start := by
    rw [Anchor.regionStart, ← (grove.planted d member).recorded.comment, has]
    rfl
  have orderFirst := (grove.planted first inFirst).sited.order
  have orderSecond := (grove.planted second inSecond).sited.order
  rw [region inFirst isMine] at orderFirst
  rw [region inSecond isOther] at orderSecond
  rcases grove.apart_of_mem first inFirst second inSecond with anchored | before | behind
  · exact anchored
  · rw [region inSecond isOther] at before
    omega
  · rw [region inFirst isMine] at behind
    omega

section

variable {document : Document} {index : Nat} {d : Declaration}
variable (grove : Grove file fair shared none Free 0 lower upper document.declarations)

include grove

/-- What is recorded in a whole document stands there by itself, or in its owner. -/
theorem root_or_owned (here : document.declarations[index]? = some d) :
    d.parent = none ∧ Free d.kind ∨
      ∃ place owner, place < index ∧ document.declarations[place]? = some owner ∧
        d.parent = some place ∧ owner.Owns d := by
  rcases grove.owned index d here with root | ⟨place, owner, before, there, own, owns⟩
  · exact .inl root
  · rw [Nat.zero_add] at own
    exact .inr ⟨place, owner, before, there, own, owns⟩

theorem free_or_holds (member : d ∈ document.declarations) :
    document.owner? d = none ∧ Free d.kind ∨
      ∃ owner, document.owner? d = some owner ∧ owner.kind.Holds d.kind := by
  obtain ⟨index, here⟩ := List.getElem?_of_mem member
  rcases grove.root_or_owned here with ⟨root, free⟩ | ⟨place, owner, _, there, own, owns⟩
  · left
    exact ⟨by rw [Document.owner?, root]; rfl, free⟩
  · right
    exact ⟨owner, by rw [Document.owner?, own]; exact there, owns.holds⟩

/-- The members of classes and interfaces have the kinds of members. -/
theorem isMember_iff (member : d ∈ document.declarations) : d.kind.isMember = true ↔
    ∃ owner, document.owner? d = some owner ∧ owner.kind ∈ [.classDecl, .interface] := by
  rcases grove.free_or_holds member with ⟨root, free⟩ | ⟨owner, own, holds⟩
  · have noMember : d.kind.isMember = false := free
    simp [root, noMember]
  · simp only [own, Option.some.injEq, exists_eq_left']
    exact holds.isMember_iff

/-- The members of interfaces are signatures. -/
theorem isSignature_iff (member : d ∈ document.declarations) : d.kind.isSignature = true ↔
    ∃ owner, document.owner? d = some owner ∧ owner.kind = .interface := by
  rcases grove.free_or_holds member with ⟨root, free⟩ | ⟨owner, own, holds⟩
  · simp [root, Kind.Holds.isSignature_eq_false free]
  · simp only [own, Option.some.injEq, exists_eq_left']
    exact holds.isSignature_iff

end

end Walk.Grove

namespace Document

variable {text : Text} {document : Document} {fair : Nat → Prop}

/-- The declarations of a nested tree are a forest in the order of the source, wherever the spans of
    the tree start and stop. -/
theorem ordered_of_parse {path : Path} {relativePath : String} {root : Node}
    (brood : Node.Brood fair root.children)
    (parsed : parse path text relativePath (.ok root) = .ok document) : document.Ordered := by
  obtain ⟨file, upper, grove⟩ := exists_grove_of_parse brood parsed
  constructor
  · exact grove.ascending
  · apply grove.nodup_map
    intro first second same
    exact (Prod.mk.inj same).1
  · apply grove.nodup_map
    intro first second same
    exact Declaration.start_eq_of_id_eq same
  · intro index d place here own
    rcases grove.root_or_owned here with ⟨root, -⟩ | ⟨_, owner, before, there, own', owns⟩
    · rw [root] at own
      cases own
    · obtain rfl : _ = place := Option.some.inj (own'.symm.trans own)
      exact ⟨before, owner, there, Nat.le_of_lt owns.starts, owns.stops, owns.holds.outer_mem⟩
  · intro d member
    exact grove.isMember_iff member
  · intro d member
    exact grove.isSignature_iff member
  · intro first inFirst second inSecond mine isMine other isOther same
    exact grove.anchor_eq_of_comment inFirst inSecond isMine isOther same

/-! ## An interface below a comment -/

/-- A source with an interface and a signature in it, below a comment. -/
def interfaceSource : Text :=
  "/** A. */\ninterface I { a: number }\n".toList

def signatureNode : Node :=
  ⟨"property_signature", 24, 33, true, none,
    [⟨"property_identifier", 24, 25, true, some "name", []⟩]⟩

def interfaceNode : Node :=
  ⟨"interface_declaration", 10, 35, true, none,
    [⟨"type_identifier", 20, 21, true, some "name", []⟩,
      ⟨"interface_body", 22, 35, true, some "body", [signatureNode]⟩]⟩

/-- The tree of the source. -/
def interfaceTree : Node :=
  ⟨"program", 0, 36, true, none, [⟨"comment", 0, 9, true, none, []⟩, interfaceNode]⟩

/-- The tree is one of the source where all offsets in the source are fair. -/
theorem brood_interfaceTree {fair : Nat → Prop} (all : ∀ offset, offset ≤ 36 → fair offset) :
    Node.Brood fair interfaceTree.children := by
  have signature : signatureNode.Nested fair := by
    apply Node.Nested.intro (by decide) (all _ (by decide)) (all _ (by decide))
    · simp [signatureNode]
    · simp [signatureNode]
    · intro _ body _ has
      cases has
    · simp only [signatureNode, List.mem_singleton, forall_eq]
      exact .leaf (by decide) (all _ (by decide)) (all _ (by decide)) rfl
  have body :
      (⟨"interface_body", 22, 35, true, some "body", [signatureNode]⟩ : Node).Nested fair := by
    apply Node.Nested.intro (by decide) (all _ (by decide)) (all _ (by decide))
    · simp [signatureNode]
    · simp
    · intro _ body _ has
      cases has
    · simpa using signature
  have interface : interfaceNode.Nested fair := by
    apply Node.Nested.intro (by decide) (all _ (by decide)) (all _ (by decide))
    · simp [interfaceNode]
    · simp [interfaceNode]
    · intro name inner titled has
      cases titled
      cases has
      decide
    · simp only [interfaceNode, List.forall_mem_cons]
      exact ⟨.leaf (by decide) (all _ (by decide)) (all _ (by decide)) rfl, body, by simp⟩
  constructor
  · simp only [interfaceTree, List.forall_mem_cons]
    exact ⟨.leaf (by decide) (all _ (by decide)) (all _ (by decide)) rfl, interface, by simp⟩
  · simp [interfaceTree, interfaceNode]

theorem kinds_interfaceTree (relativePath : String) (source : List UInt8) :
    (Walk.program relativePath source interfaceTree).declarations.map (·.kind) =
      [.interface, .propertySignature] := by
  have comment (file : Walk.File) (scope : Walk.Scope) (anchor : Anchor) :
      Walk.statement file scope none anchor 0 ⟨"comment", 0, 9, true, none, []⟩ = {} :=
    Walk.statement_of_comment file scope none anchor 0 rfl
  have interface (file : Walk.File) (scope : Walk.Scope) (anchor : Anchor) :
      (Walk.statement file scope none anchor 0 interfaceNode).declarations.map (·.kind) =
        [.interface, .propertySignature] := by
    rw [Walk.statement]
    rfl
  have named : interfaceNode.named = true := rfl
  simp [Walk.program, interfaceTree, Walk.statements, comment, interface, named]

/-- The interface and its signature are told apart by their identities. -/
theorem ordered_of_parse_interface : Node.Brood (· ≤ 36) interfaceTree.children ∧
    ∃ document, parse (.ofString "a.ts") interfaceSource "" (.ok interfaceTree) = .ok document ∧
      document.declarations.map (·.kind) = [.interface, .propertySignature] ∧
      document.Ordered :=
  ⟨brood_interfaceTree fun _ inside => inside, _, rfl, kinds_interfaceTree _ _,
    ordered_of_parse (brood_interfaceTree fun _ inside => inside) rfl⟩

end Document

end Scholia
