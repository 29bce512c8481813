import Scholia.Utf8
import Scholia.Text.Basic

/-! # Syntax trees

A node covers a range of bytes of the source and may play a named part in its parent.
-/

namespace Scholia

/-- The bytes of a source from one offset up to another. -/
def sliceBytes (source : List UInt8) (start stop : Nat) : List UInt8 :=
  (source.take stop).drop start

/-- The 1-based line of a byte offset. -/
def lineAt (source : List UInt8) (offset : Nat) : Nat :=
  (source.take offset).count 10 + 1

/-- A node of a syntax tree. -/
structure Node where
  /-- The grammar's name for this shape. -/
  type : String
  /-- The offset of the first byte. -/
  start : Nat
  /-- The offset after the last byte. -/
  stop : Nat
  /-- The node stands for a rule of the grammar, not for a mere token. -/
  named : Bool
  /-- The part that the node plays in its parent. -/
  field : Option String
  children : List Node
  deriving Inhabited

namespace Node

/-- The first child that plays a part. -/
def child? (node : Node) (field : String) : Option Node :=
  node.children.find? (·.field == some field)

/-- The children that stand for rules of the grammar. -/
def namedChildren (node : Node) : List Node :=
  node.children.filter (·.named)

def textIn (source : List UInt8) (node : Node) : Text :=
  Utf8.decodeLossy (sliceBytes source node.start node.stop)

/-- The text of a node, as a string. -/
def stringIn (source : List UInt8) (node : Node) : String :=
  String.ofList (node.textIn source)

/-- The children are smaller than the node. -/
theorem sizeOf_children_lt (node : Node) : sizeOf node.children < sizeOf node := by
  cases node
  simp only [Node.mk.sizeOf_spec]
  omega

/-- A child is smaller than the node. -/
theorem sizeOf_child_lt {node child : Node} {field : String} (h : node.child? field = some child) :
    sizeOf child < sizeOf node :=
  Nat.lt_trans (List.sizeOf_lt_of_mem (List.mem_of_find?_eq_some h)) node.sizeOf_children_lt

end Node

end Scholia
