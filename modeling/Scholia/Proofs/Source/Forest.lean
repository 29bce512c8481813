import Scholia.Proofs.Source.Anchors

/-! # What the walk records

The walk over a nested tree records a grove: declarations in the order of their starts, each behind
the declaration that encloses it, with the kind that its place asks for. Their comments have
regions that are apart unless the anchor is shared: what is recorded in a statement is anchored at
the statement's own anchor or inside, and the comment above a sibling is no declaration.
-/

namespace Scholia

/-- A declaration of a kind may stand directly in the body of one of another kind. -/
def Kind.Holds : Kind → Kind → Prop
  | .classDecl, inner => inner.isMember = true ∧ inner.isSignature = false
  | .interface, inner => inner.isSignature = true
  | .module, inner => inner.isMember = false
  | _, _ => False

namespace Kind.Holds

variable {outer inner : Kind}

theorem outer_mem (holds : outer.Holds inner) : outer ∈ [.classDecl, .interface, .module] := by
  cases outer <;> first | cases holds; done | simp

theorem isMember_iff (holds : outer.Holds inner) :
    inner.isMember = true ↔ outer ∈ [.classDecl, .interface] := by
  cases outer <;> cases inner <;> simp_all [Holds, isMember, isSignature]

theorem isSignature_iff (holds : outer.Holds inner) :
    inner.isSignature = true ↔ outer = .interface := by
  cases outer <;> cases inner <;> simp_all [Holds, isMember, isSignature]

/-- What stands outside of classes and interfaces is no signature. -/
theorem isSignature_eq_false (holds : Kind.module.Holds inner) : inner.isSignature = false := by
  cases inner <;> first | rfl | cases holds

end Kind.Holds

/-- A declaration encloses another one, whose kind fits. -/
structure Declaration.Owns (owner d : Declaration) : Prop where
  starts : owner.node.start < d.node.start
  stops : d.node.stop ≤ owner.node.stop
  holds : owner.kind.Holds d.kind

namespace Walk

/-- A declaration that is recorded in a part of the source where an anchor may be shared. -/
structure Planted (file : File) (fair : Nat → Prop) (shared : Option Anchor) (lower upper : Nat)
    (d : Declaration) : Prop where
  recorded : d.Recorded file.source
  /-- A member is never exported by itself. -/
  closed : d.kind.isMember = true → d.exported = some false
  starts : lower ≤ d.node.start
  filled : d.node.start < d.node.stop
  stops : d.node.stop ≤ upper
  sited : d.anchor.Sited file.source fair
  placed : some d.anchor = shared ∨ d.anchor.Inside file.source shared lower upper

/-- Declarations that are recorded in a part of the source, the first one at a position of the
    file: those that none of them encloses have one parent, and kinds that it admits. -/
structure Grove (file : File) (fair : Nat → Prop) (shared : Option Anchor) (parent : Option Nat)
    (admits : Kind → Prop) (next lower upper : Nat) (found : List Declaration) : Prop where
  planted : ∀ d ∈ found, Planted file fair shared lower upper d
  ascending : found.Pairwise fun first second => first.node.start < second.node.start
  apart : found.Pairwise fun first second =>
    Anchor.Apart file.source first.anchor second.anchor
  owned : ∀ index d, found[index]? = some d →
    d.parent = parent ∧ admits d.kind ∨
      ∃ place owner, place < index ∧ found[place]? = some owner ∧ d.parent = some (next + place) ∧
        owner.Owns d

section

variable {file : File} {fair : Nat → Prop} {shared : Option Anchor} {parent : Option Nat}
variable {admits : Kind → Prop} {next lower middle upper least most : Nat}
variable {first second found : List Declaration} {d : Declaration}

theorem Planted.mono (planted : Planted file fair shared lower upper d) (left : least ≤ lower)
    (right : upper ≤ most) : Planted file fair shared least most d :=
  { planted with
    starts := Nat.le_trans left planted.starts
    stops := Nat.le_trans planted.stops right
    placed := planted.placed.imp_right fun inside => inside.mono left right }

/-- No anchor is shared after all, but one in front may be. -/
theorem Planted.share (planted : Planted file fair none lower upper d)
    (front : ∀ anchor ∈ shared, anchor.start < lower) : Planted file fair shared lower upper d := by
  have inside := planted.placed.resolve_left (by simp)
  exact
    { planted with
      placed := .inr
        { inside with
          front := fun anchor isShared => Nat.lt_of_lt_of_le (front anchor isShared) inside.reach } }

/-- The shared anchor belongs to a part of the source itself. -/
theorem Planted.promote {anchor : Anchor} (planted : Planted file fair (some anchor) lower upper d)
    (inside : anchor.Inside file.source none least upper) (order : least ≤ lower) :
    Planted file fair none least upper d := by
  have wider := planted.mono order (Nat.le_refl upper)
  refine { wider with placed := .inr ?_ }
  rcases wider.placed with same | here
  · cases same
    exact inside
  · exact { here with front := by simp }

/-- What is planted in two parts of the source, one behind the other, is apart. -/
theorem Planted.apart {a b : Declaration} (left : Planted file fair shared lower middle a)
    (right : Planted file fair shared middle upper b) :
    Anchor.Apart file.source a.anchor b.anchor := by
  rcases left.placed with sameA | insideA
  · rcases right.placed with sameB | insideB
    · exact .inl (Option.some.inj (sameA.trans sameB.symm))
    · exact .inr (.inl (insideB.front a.anchor sameA.symm))
  · rcases right.placed with sameB | insideB
    · exact .inr (.inr (insideA.front b.anchor sameB.symm))
    · exact .inr (.inl (Nat.lt_of_lt_of_le insideA.stop insideB.reach))

namespace Grove

theorem nil : Grove file fair shared parent admits next lower upper [] where
  planted := by simp
  ascending := .nil
  apart := .nil
  owned := by simp

theorem mono (grove : Grove file fair shared parent admits next lower upper found)
    (left : least ≤ lower) (right : upper ≤ most) :
    Grove file fair shared parent admits next least most found :=
  { grove with planted := fun d member => (grove.planted d member).mono left right }

theorem share (grove : Grove file fair none parent admits next lower upper found)
    (front : ∀ anchor ∈ shared, anchor.start < lower) :
    Grove file fair shared parent admits next lower upper found :=
  { grove with planted := fun d member => (grove.planted d member).share front }

theorem promote {anchor : Anchor}
    (grove : Grove file fair (some anchor) parent admits next lower upper found)
    (inside : anchor.Inside file.source none least upper) (order : least ≤ lower) :
    Grove file fair none parent admits next least upper found :=
  { grove with planted := fun d member => (grove.planted d member).promote inside order }

/-- What is recorded in two parts of the source, one behind the other, makes one grove. -/
theorem append (left : Grove file fair shared parent admits next lower middle first)
    (right : Grove file fair shared parent admits (next + first.length) middle upper second)
    (order : lower ≤ middle) (limit : middle ≤ upper) :
    Grove file fair shared parent admits next lower upper (first ++ second) where
  planted := by
    intro d member
    rcases List.mem_append.mp member with inFirst | inSecond
    · exact (left.planted d inFirst).mono (Nat.le_refl _) limit
    · exact (right.planted d inSecond).mono order (Nat.le_refl _)
  ascending := by
    apply List.pairwise_append.mpr
    refine ⟨left.ascending, right.ascending, fun a inFirst b inSecond => ?_⟩
    have before := left.planted a inFirst
    have behind := right.planted b inSecond
    exact Nat.lt_of_lt_of_le before.filled (Nat.le_trans before.stops behind.starts)
  apart := by
    apply List.pairwise_append.mpr
    refine ⟨left.apart, right.apart, fun a inFirst b inSecond => ?_⟩
    exact (left.planted a inFirst).apart (right.planted b inSecond)
  owned := by
    intro index d here
    rw [List.getElem?_append] at here
    split at here
    · next early =>
      rcases left.owned index d here with root | ⟨place, owner, before, there, own, owns⟩
      · exact .inl root
      · right
        refine ⟨place, owner, before, ?_, own, owns⟩
        rwa [List.getElem?_append_left (by omega)]
    · next late =>
      rcases right.owned _ d here with root | ⟨place, owner, before, there, own, owns⟩
      · exact .inl root
      · right
        refine ⟨first.length + place, owner, by omega, ?_, by rw [own, Nat.add_assoc], owns⟩
        rwa [List.getElem?_append_right (by omega), Nat.add_sub_cancel_left]

/-- A declaration in front of what is recorded in its body, at the next positions. -/
theorem enclose (planted : Planted file fair shared lower upper d) (own : d.parent = parent)
    (admitted : admits d.kind) (anchored : d.anchor.start ≤ d.node.start)
    (front : ∀ anchor ∈ shared, anchor.start ≤ d.node.start)
    (body : Grove file fair none (some next) d.kind.Holds (next + 1) least most found)
    (starts : d.node.start < least) (stops : most ≤ d.node.stop) :
    Grove file fair shared parent admits next lower upper (d :: found) where
  planted := by
    intro other member
    rcases List.mem_cons.mp member with rfl | inside
    · exact planted
    · have shared := (body.planted other inside).share fun anchor isShared =>
        Nat.lt_of_le_of_lt (front anchor isShared) starts
      have first := planted.starts
      exact shared.mono (by omega) (Nat.le_trans stops planted.stops)
  ascending := by
    apply List.pairwise_cons.mpr
    refine ⟨fun other inside => ?_, body.ascending⟩
    exact Nat.lt_of_lt_of_le starts (body.planted other inside).starts
  apart := by
    apply List.pairwise_cons.mpr
    refine ⟨fun other inside => ?_, body.apart⟩
    have reach := ((body.planted other inside).placed.resolve_left (by simp)).reach
    exact .inr (.inl (by omega))
  owned := by
    intro index other here
    cases index with
    | zero =>
        cases here
        exact .inl ⟨own, admitted⟩
    | succ index =>
        right
        rcases body.owned index other here with
          ⟨root, fits⟩ | ⟨place, owner, before, there, owned, owns⟩
        · have inside := body.planted other (List.mem_of_getElem? here)
          refine ⟨0, d, by omega, rfl, root, ?_, ?_, fits⟩
          · exact Nat.lt_of_lt_of_le starts inside.starts
          · exact Nat.le_trans inside.stops stops
        · exact ⟨place + 1, owner, by omega, there, by rw [owned]; congr 1; omega, owns⟩

/-- A declaration that encloses no others. -/
theorem single (planted : Planted file fair shared lower upper d) (own : d.parent = parent)
    (admitted : admits d.kind) : Grove file fair shared parent admits next lower upper [d] where
  planted := by simpa using planted
  ascending := by simp
  apart := by simp
  owned := by
    intro index other here
    left
    cases index with
    | zero =>
        cases here
        exact ⟨own, admitted⟩
    | succ index => cases here

theorem apart_of_mem (grove : Grove file fair shared parent admits next lower upper found) :
    ∀ a ∈ found, ∀ b ∈ found, Anchor.Apart file.source a.anchor b.anchor := by
  have apart := grove.apart
  clear grove
  induction found with
  | nil => simp
  | cons d rest ih =>
      obtain ⟨first, apart⟩ := List.pairwise_cons.mp apart
      intro a inA b inB
      rcases List.mem_cons.mp inA with rfl | laterA
      · rcases List.mem_cons.mp inB with rfl | laterB
        · exact .inl rfl
        · exact first b laterB
      · rcases List.mem_cons.mp inB with rfl | laterB
        · exact (first a laterA).symm
        · exact ih apart a laterA b laterB

end Grove

end

/-! ## One declaration -/

variable {fair : Nat → Prop} {lower upper : Nat} {previous : Option Node} {nodes : List Node}

theorem planted_declare (file : File) (scope : Scope) (own : Particulars)
    {shared : Option Anchor} {anchor : Anchor} {node : Node}
    (closed : own.kind.isMember = true → own.exported = some false)
    (starts : lower ≤ node.start) (filled : node.start < node.stop) (stops : node.stop ≤ upper)
    (sited : anchor.Sited file.source fair)
    (placed : some anchor = shared ∨ anchor.Inside file.source shared lower upper) :
    Planted file fair shared lower upper (declare file scope anchor node own) where
  recorded := ⟨rfl, rfl, rfl⟩
  closed
  starts
  filled
  stops
  sited
  placed

/-- The kinds of declarations that are no members of classes or interfaces. -/
abbrev Free (kind : Kind) : Prop := Kind.module.Holds kind

theorem free_of_statementKind? {type : String} {kind : Kind}
    (declares : statementKind? type = some kind) : Free kind := by
  unfold statementKind? at declares
  split at declares <;> cases declares <;> rfl

theorem holds_of_classMemberKind? {source : List UInt8} {node : Node} {kind : Kind}
    (isMember : classMemberKind? source node = some kind) : Kind.classDecl.Holds kind := by
  have method : Kind.classDecl.Holds (methodKind source node) := by
    unfold methodKind
    split
    · exact ⟨rfl, rfl⟩
    · split
      · split <;> exact ⟨rfl, rfl⟩
      · exact ⟨rfl, rfl⟩
  unfold classMemberKind? at isMember
  split at isMember <;> cases isMember
  · exact method
  all_goals exact ⟨rfl, rfl⟩

theorem holds_of_interfaceMemberKind? {node : Node} {kind : Kind}
    (isMember : interfaceMemberKind? node = some kind) : Kind.interface.Holds kind := by
  unfold interfaceMemberKind? at isMember
  split at isMember <;> cases isMember <;> rfl

theorem code_of_classMemberKind? {source : List UInt8} {node : Node} {kind : Kind}
    (isMember : classMemberKind? source node = some kind) : node.type ≠ "comment" := by
  intro isComment
  simp [classMemberKind?, isComment] at isMember

theorem code_of_interfaceMemberKind? {node : Node} {kind : Kind}
    (isMember : interfaceMemberKind? node = some kind) : node.type ≠ "comment" := by
  intro isComment
  simp [interfaceMemberKind?, isComment] at isMember

theorem frontier_of_code {node : Node} (code : node.type ≠ "comment") :
    node.frontier = node.stop := by
  rw [Node.frontier, if_neg code]

/-! ## Declarators and members -/

theorem grove_declarator? (file : File) (scope : Scope) {shared : Option Anchor} {anchor : Anchor}
    (next : Nat) {node : Node} (starts : lower ≤ node.start) (filled : node.start < node.stop)
    (stops : node.stop ≤ upper) (sited : anchor.Sited file.source fair)
    (placed : some anchor = shared ∨ anchor.Inside file.source shared lower upper) :
    Grove file fair shared scope.parent Free next lower upper
      (declarator? file scope anchor node).toList := by
  unfold declarator?
  split
  · exact .nil
  · split
    · exact .nil
    · exact .single (planted_declare file scope _ (fun isMember => by cases isMember) starts filled
        stops sited placed) rfl rfl

theorem grove_declarators_own (file : File) (scope : Scope) (next : Nat)
    (row : Node.Row fair lower upper previous nodes) :
    Grove file fair none scope.parent Free next lower upper
      (declarators file scope none previous nodes) := by
  induction nodes generalizing lower previous next with
  | nil => exact .nil
  | cons node rest ih =>
      have reach := row.lower_le_frontier
      have limit := row.frontier_le_upper
      have others := fun next => ih next row.tail
      rw [declarators]
      split
      · next isDeclarator =>
        rw [Bool.and_eq_true, beq_iff_eq] at isDeclarator
        rw [frontier_of_code (by rw [isDeclarator.2]; decide)] at others reach limit
        have own := grove_declarator? file scope next (row.starts node List.mem_cons_self)
          row.nested.filled (Nat.le_refl _) (Anchor.sited_ofNode file.source row)
          (.inr (Anchor.inside_ofNode file.source row))
        exact own.append (others _) reach limit
      · exact (others _).mono reach (Nat.le_refl _)

theorem grove_declarators (file : File) (scope : Scope) {anchor : Anchor} (next : Nat)
    (sited : anchor.Sited file.source fair) (anchored : anchor.start ≤ lower)
    (row : Node.Row fair lower upper previous nodes) :
    Grove file fair (some anchor) scope.parent Free next lower upper
      (declarators file scope (some anchor) previous nodes) := by
  induction nodes generalizing lower previous with
  | nil => exact .nil
  | cons node rest ih =>
      have reach := row.lower_le_frontier
      have limit := row.frontier_le_upper
      rw [declarators]
      split
      · next isDeclarator =>
        rw [Bool.and_eq_true, beq_iff_eq] at isDeclarator
        have others := fun next => grove_declarators_own file scope next row.tail
        have starts := row.starts node List.mem_cons_self
        have filled := row.nested.filled
        rw [frontier_of_code (by rw [isDeclarator.2]; decide)] at others reach limit
        have own := grove_declarator? file scope next starts filled (Nat.le_refl _) sited
          (.inl (rfl : some anchor = some anchor))
        refine own.append ((others _).share ?_) reach limit
        simp only [Option.mem_def, Option.some.injEq, forall_eq']
        omega
      · exact (ih (Nat.le_trans anchored reach) row.tail).mono reach (Nat.le_refl _)

theorem grove_members (file : File) (scope : Scope) {kind? : Node → Option Kind}
    (name? : Node → Option Node) {admits : Kind → Prop}
    (code : ∀ {node kind}, kind? node = some kind → node.type ≠ "comment")
    (fits : ∀ {node kind}, kind? node = some kind → admits kind) (next : Nat)
    (row : Node.Row fair lower upper previous nodes) :
    Grove file fair none scope.parent admits next lower upper
      (members file scope kind? name? previous nodes) := by
  induction nodes generalizing lower previous next with
  | nil => exact .nil
  | cons node rest ih =>
      have reach := row.lower_le_frontier
      have limit := row.frontier_le_upper
      have others := fun next => ih next row.tail
      rw [members]
      split
      · next kind name isMember _ =>
        have found : kind? node = some kind := by
          split at isMember
          · exact isMember
          · cases isMember
        rw [frontier_of_code (code found)] at others reach limit
        have planted (own : Particulars) (closed : own.exported = some false) :=
          planted_declare file scope own (fun _ => closed) (row.starts node List.mem_cons_self)
            row.nested.filled (Nat.le_refl _) (Anchor.sited_ofNode file.source row)
            (.inr (Anchor.inside_ofNode file.source row))
        have alone (own : Particulars) (closed : own.exported = some false)
            (isOwn : own.kind = kind) :
            Grove file fair none scope.parent admits next lower node.stop
              [declare file scope (.ofNode previous node) node own] := by
          refine .single (planted own closed) rfl ?_
          show admits own.kind
          rw [isOwn]
          exact fits found
        exact (alone _ rfl rfl).append (others _) reach limit
      · exact (others _).mono reach (Nat.le_refl _)

/-! ## Statements -/

theorem statement_of_comment (file : File) (scope : Scope) (exported : Option Bool)
    (anchor : Anchor) (next : Nat) {node : Node} (isComment : node.type = "comment") :
    statement file scope exported anchor next node = {} := by
  rw [statement]
  simp [isComment, isVariableStatement, statementKind?]

@[simp] theorem Found.declarations_append (first second : Found) :
    (first ++ second).declarations = first.declarations ++ second.declarations := rfl

mutual

theorem grove_statement (file : File) (scope : Scope) (exported : Option Bool) {anchor : Anchor}
    (next : Nat) {node : Node} (nested : node.Nested fair) (sited : anchor.Sited file.source fair)
    (anchored : anchor.start ≤ node.start) :
    Grove file fair (some anchor) scope.parent Free next node.start node.stop
      (statement file scope exported anchor next node).declarations := by
  have smaller := node.sizeOf_children_lt
  rw [statement]
  split
  · split
    · next inner has =>
      have small := Node.sizeOf_child_lt has
      have inside := nested.inside (Node.mem_of_child? has)
      have grove := grove_statement file (scope.inside node) (some true) next
        (nested.child (Node.mem_of_child? has)) sited (Nat.le_trans anchored inside.1)
      exact grove.mono inside.1 inside.2
    · exact .nil
  · split
    · exact grove_wrapped file (scope.inside node) exported _ next sited anchored nested.row
    · split
      · exact grove_wrapped file (scope.inside node) exported _ next sited anchored nested.row
      · split
        · exact .nil
        · split
          · exact grove_declarators file (scope.inside node) next sited anchored nested.row
          · split
            · next kind name declares titled =>
              have isFree : kind.isMember = false := free_of_statementKind? declares
              have planted (own : Particulars) (isOwn : own.kind = kind) :=
                planted_declare file scope own (by simp [isOwn, isFree]) (Nat.le_refl _)
                  nested.filled (Nat.le_refl _) sited (.inl (rfl : some anchor = some anchor))
              have front : ∀ other ∈ some anchor, other.start ≤ node.start := by
                rintro _ ⟨⟩
                exact anchored
              rw [Found.declarations_append, List.singleton_append]
              dsimp only
              split
              · exact .single (planted _ rfl) rfl isFree
              · next body has =>
                have order := nested.start_lt_body titled has
                have inside := nested.inside (Node.mem_of_child? has)
                have row := (nested.child (Node.mem_of_child? has)).row
                have small := Nat.lt_trans body.sizeOf_children_lt (Node.sizeOf_child_lt has)
                -- Only the declaration itself has the anchor; all in its body is anchored inside.
                refine .enclose (planted _ rfl) rfl isFree anchored front ?_ order inside.2
                split
                · exact grove_members file ((scope.inside node).under next body) _
                    code_of_classMemberKind? holds_of_classMemberKind? _ row
                · exact grove_members file ((scope.inside node).under next body) _
                    code_of_interfaceMemberKind? holds_of_interfaceMemberKind? _ row
                · exact grove_statements file ((scope.inside node).under next body) _ row
                · exact .nil
            · exact .nil
termination_by sizeOf node

theorem grove_statements (file : File) (scope : Scope) (next : Nat) {lower upper : Nat}
    {previous : Option Node} {nodes : List Node} (row : Node.Row fair lower upper previous nodes) :
    Grove file fair none scope.parent Free next lower upper
      (statements file scope previous next nodes).declarations := by
  cases nodes with
  | nil =>
      rw [statements]
      exact .nil
  | cons node rest =>
      have others (next : Nat) := grove_statements file scope next row.tail
      have reach := row.lower_le_frontier
      have limit := row.frontier_le_upper
      rw [statements]
      split
      · by_cases isComment : node.type = "comment"
        · -- The next sibling may take the comment as its own, so the region opens before it.
          rw [statement_of_comment _ _ _ _ _ isComment]
          exact (others _).mono reach (Nat.le_refl _)
        · have sited := Anchor.sited_ofNode file.source row
          have own := grove_statement file scope none next row.nested sited (Nat.le_refl _)
          have inside := Anchor.inside_ofNode file.source row
          have start := row.starts node List.mem_cons_self
          rw [frontier_of_code isComment] at others reach limit
          exact (own.promote inside start).append (others _) reach limit
      · exact (others _).mono reach (Nat.le_refl _)
termination_by sizeOf nodes

theorem grove_wrapped (file : File) (scope : Scope) (exported : Option Bool) {anchor : Anchor}
    (admits : Node → Bool) (next : Nat) {lower upper : Nat} {previous : Option Node}
    {nodes : List Node} (sited : anchor.Sited file.source fair) (anchored : anchor.start ≤ lower)
    (row : Node.Row fair lower upper previous nodes) :
    Grove file fair (some anchor) scope.parent Free next lower upper
      (wrapped file scope exported anchor admits next nodes).declarations := by
  cases nodes with
  | nil =>
      rw [wrapped]
      exact .nil
  | cons node rest =>
      have reach := row.lower_le_frontier
      have limit := row.frontier_le_upper
      have others (next : Nat) := grove_wrapped file scope exported admits next sited
        (Nat.le_trans anchored reach) row.tail
      rw [wrapped]
      split
      · by_cases isComment : node.type = "comment"
        · rw [statement_of_comment _ _ _ _ _ isComment]
          exact (others _).mono reach (Nat.le_refl _)
        · have start := row.starts node List.mem_cons_self
          have own := grove_statement file scope exported next row.nested sited
            (Nat.le_trans anchored start)
          rw [frontier_of_code isComment] at others reach limit
          exact (own.mono start (Nat.le_refl _)).append (others _) reach limit
      · exact (others _).mono reach (Nat.le_refl _)
termination_by sizeOf nodes

end

/-- A program records a grove. -/
theorem grove_program (relativePath : String) (source : List UInt8) (root : Node)
    (brood : Node.Brood fair root.children) {upper : Nat}
    (stops : ∀ node ∈ root.children, node.stop ≤ upper) :
    Grove ⟨relativePath, source, exportNames source root⟩ fair none none Free 0 0 upper
      (program relativePath source root).declarations :=
  grove_statements _ (Scope.inside {} root) 0 (brood.row stops)

end Walk

end Scholia
