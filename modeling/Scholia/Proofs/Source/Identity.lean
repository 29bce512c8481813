import Scholia.Proofs.Source.Order

/-! # The identity of declarations

An identity is made of the relative name of a file, a line and an offset. All of them can be read
off it, so that declarations with one identity are of files with one relative name.
-/

namespace Scholia

namespace Declaration

/-- Declarations with one identity are of one relative name. -/
theorem relativePath_eq_of_id_eq {first second : Declaration} (same : first.id = second.id) :
    first.relativePath = second.relativePath := by
  have texts := congrArg String.toList same
  rw [toList_id, toList_id] at texts
  have lines := (split_of_colon (fun _ => ne_colon_of_mem_repr)
    (fun _ => ne_colon_of_mem_repr) texts).1
  exact String.toList_inj.mp (split_of_colon (fun _ => ne_colon_of_mem_repr)
    (fun _ => ne_colon_of_mem_repr) lines).1

end Declaration

namespace Walk

/-- All declarations have the relative name of the file. -/
def OfFile (file : File) (found : List Declaration) : Prop :=
  ∀ d ∈ found, d.relativePath = file.relativePath

namespace OfFile

variable {file : File} {first second : List Declaration}

theorem nil : OfFile file [] :=
  fun _ member => nomatch member

theorem append (left : OfFile file first) (right : OfFile file second) :
    OfFile file (first ++ second) :=
  List.forall_mem_append.mpr ⟨left, right⟩

theorem declared (scope : Scope) (anchor : Anchor) (node : Node) (own : Particulars) :
    OfFile file [declare file scope anchor node own] :=
  fun _ member => by rw [List.mem_singleton.mp member, declare]

end OfFile

variable (file : File) (scope : Scope)

theorem ofFile_declarators (anchor : Option Anchor) (previous : Option Node) (nodes : List Node) :
    OfFile file (declarators file scope anchor previous nodes) := by
  have one (anchor : Anchor) (node : Node) :
      OfFile file (declarator? file scope anchor node).toList := by
    unfold declarator?
    split
    · exact .nil
    · split
      · exact .nil
      · exact .declared scope anchor node _
  induction nodes generalizing anchor previous with
  | nil => exact .nil
  | cons node rest ih =>
      rw [declarators]
      split
      · exact (one _ _).append (ih _ _)
      · exact ih _ _

theorem ofFile_members (kind? : Node → Option Kind) (name? : Node → Option Node)
    (previous : Option Node) (nodes : List Node) :
    OfFile file (members file scope kind? name? previous nodes) := by
  induction nodes generalizing previous with
  | nil => exact .nil
  | cons node rest ih =>
      rw [members]
      split
      · exact (OfFile.declared scope _ _ _).append (ih _)
      · exact ih _

variable {file}

mutual

theorem ofFile_statement (scope : Scope) (exported : Option Bool) (anchor : Anchor) (next : Nat)
    (node : Node) :
    OfFile file (statement file scope exported anchor next node).declarations := by
  have smaller := node.sizeOf_children_lt
  rw [statement]
  split
  · split
    · next inner has =>
      have small := Node.sizeOf_child_lt has
      exact ofFile_statement _ _ _ _ _
    · exact .nil
  · split
    · exact ofFile_wrapped _ _ _ _ _ _
    · split
      · exact ofFile_wrapped _ _ _ _ _ _
      · split
        · exact .nil
        · split
          · exact ofFile_declarators _ _ _ _ _
          · split
            · refine (OfFile.declared scope anchor node _).append ?_
              split
              · exact .nil
              · next body has =>
                have small := Nat.lt_trans body.sizeOf_children_lt (Node.sizeOf_child_lt has)
                split
                · exact ofFile_members _ _ _ _ _ _
                · exact ofFile_members _ _ _ _ _ _
                · exact ofFile_statements _ _ _ _
                · exact .nil
            · exact .nil
termination_by sizeOf node

theorem ofFile_statements (scope : Scope) (previous : Option Node) (next : Nat)
    (nodes : List Node) :
    OfFile file (statements file scope previous next nodes).declarations := by
  cases nodes with
  | nil =>
      rw [statements]
      exact .nil
  | cons node rest =>
      rw [statements]
      refine OfFile.append ?_ (ofFile_statements _ _ _ _)
      split
      · exact ofFile_statement _ _ _ _ _
      · exact .nil
termination_by sizeOf nodes

theorem ofFile_wrapped (scope : Scope) (exported : Option Bool) (anchor : Anchor)
    (admits : Node → Bool) (next : Nat) (nodes : List Node) :
    OfFile file (wrapped file scope exported anchor admits next nodes).declarations := by
  cases nodes with
  | nil =>
      rw [wrapped]
      exact .nil
  | cons node rest =>
      rw [wrapped]
      refine OfFile.append ?_ (ofFile_wrapped _ _ _ _ _ _)
      split
      · exact ofFile_statement _ _ _ _ _
      · exact .nil
termination_by sizeOf nodes

end

end Walk

namespace Document

variable {text : Text} {document : Document} {path : Path} {relativePath : String} {root : Node}

/-- The declarations of a document have its relative name. -/
theorem relativePath_of_parse (parsed : parse path text relativePath (.ok root) = .ok document)
    {d : Declaration} (member : d ∈ document.declarations) :
    d.relativePath = document.relativePath := by
  cases parsed
  exact Walk.ofFile_statements _ _ _ _ d member

end Document

end Scholia
