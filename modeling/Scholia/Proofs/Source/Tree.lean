import Scholia.Proofs.Utf8
import Scholia.Source.Declaration

/-! # Well-formed trees

In a well-formed tree spans are not empty, start and stop between characters, and nest; siblings
are ordered and disjoint, and the name of a node stands before its body. What the walk needs of a
tree does not depend on where spans may start and stop, so the offsets that are fair for that are a
parameter. A row is a part of such siblings, with the region that it may use.
-/

namespace Scholia

open Utf8

namespace Node

/-- A tree whose spans are those of a source text. -/
inductive WellFormed (text : Text) : Node → Prop where
  | intro {node : Node} (filled : node.start < node.stop)
      (opens : Boundary text node.start) (closes : Boundary text node.stop)
      (inside : ∀ child ∈ node.children, node.start ≤ child.start ∧ child.stop ≤ node.stop)
      (ordered : node.children.Pairwise fun first second => first.stop ≤ second.start)
      (named : ∀ name body, node.child? "name" = some name → node.child? "body" = some body →
        name.stop ≤ body.start)
      (children : ∀ child ∈ node.children, WellFormed text child) : WellFormed text node

variable {text : Text} {node : Node}

theorem WellFormed.leaf (filled : node.start < node.stop) (opens : Boundary text node.start)
    (closes : Boundary text node.stop) (childless : node.children = []) : node.WellFormed text :=
  .intro filled opens closes (by simp [childless]) (by simp [childless])
    (by simp [child?, childless]) (by simp [childless])

/-- A tree whose spans start and stop at offsets that are fair: where that is between characters, the
    tree is a well-formed one. -/
inductive Nested (fair : Nat → Prop) : Node → Prop where
  | intro {node : Node} (filled : node.start < node.stop)
      (opens : fair node.start) (closes : fair node.stop)
      (inside : ∀ child ∈ node.children, node.start ≤ child.start ∧ child.stop ≤ node.stop)
      (ordered : node.children.Pairwise fun first second => first.stop ≤ second.start)
      (named : ∀ name body, node.child? "name" = some name → node.child? "body" = some body →
        name.stop ≤ body.start)
      (children : ∀ child ∈ node.children, Nested fair child) : Nested fair node

variable {fair : Nat → Prop}

theorem WellFormed.nested (formed : node.WellFormed text) : node.Nested (Boundary text) := by
  induction formed with
  | intro filled opens closes inside ordered named _ nested =>
      exact .intro filled opens closes inside ordered named nested

theorem Nested.leaf (filled : node.start < node.stop) (opens : fair node.start)
    (closes : fair node.stop) (childless : node.children = []) : node.Nested fair :=
  .intro filled opens closes (by simp [childless]) (by simp [childless])
    (by simp [child?, childless]) (by simp [childless])

theorem Nested.filled (nested : node.Nested fair) : node.start < node.stop := by
  cases nested; assumption

theorem Nested.opens (nested : node.Nested fair) : fair node.start := by
  cases nested; assumption

theorem Nested.closes (nested : node.Nested fair) : fair node.stop := by
  cases nested; assumption

theorem Nested.inside (nested : node.Nested fair) {child : Node} (member : child ∈ node.children) :
    node.start ≤ child.start ∧ child.stop ≤ node.stop := by
  cases nested with
  | intro _ _ _ inside => exact inside child member

theorem Nested.child (nested : node.Nested fair) {child : Node} (member : child ∈ node.children) :
    child.Nested fair := by
  cases nested with
  | intro _ _ _ _ _ _ children => exact children child member

theorem mem_of_child? {field : String} {child : Node} (found : node.child? field = some child) :
    child ∈ node.children :=
  List.mem_of_find?_eq_some found

/-- The body of a node that has a name starts behind the start of the node. -/
theorem Nested.start_lt_body (nested : node.Nested fair) {name body : Node}
    (titled : node.child? "name" = some name) (has : node.child? "body" = some body) :
    node.start < body.start := by
  have first := nested.inside (mem_of_child? titled)
  have filled := (nested.child (mem_of_child? titled)).filled
  cases nested with
  | intro _ _ _ _ _ named =>
      have order := named name body titled has
      omega

/-- Where the region of a comment for the next sibling may begin: a comment belongs to it. -/
def frontier (node : Node) : Nat :=
  if node.type = "comment" then node.start else node.stop

/-- The trees of a whole source: well-formed siblings in their order. -/
structure Siblings (text : Text) (nodes : List Node) : Prop where
  formed : ∀ node ∈ nodes, node.WellFormed text
  ordered : nodes.Pairwise fun first second => first.stop ≤ second.start

/-- Siblings in their order, whose trees are nested. -/
structure Brood (fair : Nat → Prop) (nodes : List Node) : Prop where
  nested : ∀ node ∈ nodes, node.Nested fair
  ordered : nodes.Pairwise fun first second => first.stop ≤ second.start

theorem Siblings.brood {nodes : List Node} (siblings : Siblings text nodes) :
    Brood (Boundary text) nodes :=
  ⟨fun node member => (siblings.formed node member).nested, siblings.ordered⟩

theorem Nested.brood (nested : node.Nested fair) : Brood fair node.children := by
  cases nested with
  | intro _ _ _ _ ordered _ children => exact ⟨children, ordered⟩

/-- Siblings that are left over behind a previous one, in a region of the source. -/
structure Row (fair : Nat → Prop) (lower upper : Nat) (previous : Option Node) (nodes : List Node) :
    Prop where
  brood : Brood fair nodes
  starts : ∀ node ∈ nodes, lower ≤ node.start
  stops : ∀ node ∈ nodes, node.stop ≤ upper
  before : ∀ node ∈ previous, node.Nested fair ∧ lower ≤ node.frontier
  follows : ∀ first ∈ previous, ∀ node ∈ nodes, first.stop ≤ node.start

theorem Nested.row (nested : node.Nested fair) :
    Row fair node.start node.stop none node.children where
  brood := nested.brood
  starts := fun _ member => (nested.inside member).1
  stops := fun _ member => (nested.inside member).2
  before := by simp
  follows := by simp

theorem Brood.row {nodes : List Node} (brood : Brood fair nodes) {upper : Nat}
    (stops : ∀ node ∈ nodes, node.stop ≤ upper) : Row fair 0 upper none nodes where
  brood
  starts := fun _ _ => Nat.zero_le _
  stops
  before := by simp
  follows := by simp

namespace Row

variable {lower upper : Nat} {previous : Option Node} {rest : List Node}

theorem nested (row : Row fair lower upper previous (node :: rest)) : node.Nested fair :=
  row.brood.nested node List.mem_cons_self

theorem lower_le_frontier (row : Row fair lower upper previous (node :: rest)) :
    lower ≤ node.frontier := by
  have start := row.starts node List.mem_cons_self
  have filled := row.nested.filled
  unfold frontier
  split <;> omega

theorem frontier_le_upper (row : Row fair lower upper previous (node :: rest)) :
    node.frontier ≤ upper := by
  have stop := row.stops node List.mem_cons_self
  have filled := row.nested.filled
  unfold frontier
  split <;> omega

/-- The siblings behind the first one. -/
theorem tail (row : Row fair lower upper previous (node :: rest)) :
    Row fair node.frontier upper (some node) rest := by
  have ordered := List.pairwise_cons.mp row.brood.ordered
  have nested := List.forall_mem_cons.mp row.brood.nested
  have filled := row.nested.filled
  refine ⟨⟨nested.2, ordered.2⟩, ?_, fun other member => row.stops other (by simp [member]), ?_, ?_⟩
  · intro other member
    have order := ordered.1 other member
    unfold frontier
    split <;> omega
  · rintro _ ⟨⟩
    exact ⟨nested.1, Nat.le_refl _⟩
  · rintro _ ⟨⟩
    exact ordered.1

end Row

end Node

end Scholia
