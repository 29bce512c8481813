import Scholia.Proofs.Source.Tree
import Scholia.Source.Walk

/-! # Where anchors stand

The region of a comment reaches from the old comment, or the anchor if there is none, up to the
anchor. The region of a sibling's own anchor starts behind all that stands before the sibling, up to
the comment that may be its own.
-/

namespace Scholia

namespace Anchor

/-- Where the region of a comment for an anchor starts. -/
def regionStart (source : List UInt8) (anchor : Anchor) : Nat :=
  ((anchor.comment? source).map (·.start)).getD anchor.start

theorem previous_of_comment? {anchor : Anchor} {source : List UInt8} {comment : DocComment}
    (found : anchor.comment? source = some comment) :
    ∃ node, anchor.previous = some node ∧ node.type = "comment" ∧ comment.start = node.start := by
  unfold comment? at found
  split at found
  · cases found
  · next node previous =>
    simp only at found
    split at found
    · next isComment =>
      simp only [Bool.and_eq_true, beq_iff_eq] at isComment
      cases found
      exact ⟨node, previous, isComment.1.1.1, rfl⟩
    · cases found

/-- The region of an anchor starts and stops at fair offsets. -/
structure Sited (source : List UInt8) (fair : Nat → Prop) (anchor : Anchor) : Prop where
  order : anchor.regionStart source ≤ anchor.start
  opens : fair (anchor.regionStart source)
  closes : fair anchor.start

/-- The region of an anchor lies in a part of the source, behind an anchor that is shared there. -/
structure Inside (source : List UInt8) (shared : Option Anchor) (lower upper : Nat)
    (anchor : Anchor) : Prop where
  reach : lower ≤ anchor.regionStart source
  stop : anchor.start < upper
  front : ∀ other ∈ shared, other.start < anchor.regionStart source

theorem Inside.mono {source : List UInt8} {shared : Option Anchor} {lower upper least most : Nat}
    {anchor : Anchor} (inside : anchor.Inside source shared lower upper) (left : least ≤ lower)
    (right : upper ≤ most) : anchor.Inside source shared least most :=
  { inside with
    reach := Nat.le_trans left inside.reach
    stop := Nat.lt_of_lt_of_le inside.stop right }

/-- The region of a sibling's own anchor starts at the comment in front, if there is one. -/
theorem regionStart_ofNode (source : List UInt8) {fair : Nat → Prop} {lower upper : Nat}
    {previous : Option Node} {node : Node} {rest : List Node}
    (row : Node.Row fair lower upper previous (node :: rest)) :
    (Anchor.ofNode previous node).regionStart source = node.start ∨
      ∃ other ∈ previous, lower ≤ other.start ∧
        (Anchor.ofNode previous node).regionStart source = other.start := by
  cases found : (Anchor.ofNode previous node).comment? source with
  | none =>
      left
      rw [regionStart, found]
      rfl
  | some comment =>
      right
      obtain ⟨other, same, isComment, begins⟩ := previous_of_comment? found
      have reach := (row.before other same).2
      rw [Node.frontier, if_pos isComment] at reach
      refine ⟨other, same, reach, ?_⟩
      rw [regionStart, found, ← begins]
      rfl

theorem sited_ofNode (source : List UInt8) {fair : Nat → Prop} {lower upper : Nat}
    {previous : Option Node} {node : Node} {rest : List Node}
    (row : Node.Row fair lower upper previous (node :: rest)) :
    (Anchor.ofNode previous node).Sited source fair := by
  have closes : fair (Anchor.ofNode previous node).start := row.nested.opens
  rcases regionStart_ofNode source row with same | ⟨other, before, -, same⟩
  · constructor
    · rw [same]
      exact Nat.le_refl _
    · rwa [same]
    · exact closes
  · have formed := (row.before other before).1
    have filled := formed.filled
    have follows := row.follows other before node List.mem_cons_self
    constructor
    · rw [same]
      show other.start ≤ node.start
      omega
    · rw [same]
      exact formed.opens
    · exact closes

theorem inside_ofNode (source : List UInt8) {fair : Nat → Prop} {lower upper : Nat}
    {previous : Option Node} {node : Node} {rest : List Node}
    (row : Node.Row fair lower upper previous (node :: rest)) :
    (Anchor.ofNode previous node).Inside source none lower node.stop := by
  have start := row.starts node List.mem_cons_self
  constructor
  · rcases regionStart_ofNode source row with same | ⟨other, -, reach, same⟩
    · rwa [same]
    · rwa [same]
  · exact row.nested.filled
  · simp

/-- Two anchors are the same, or the regions of their comments do not even touch. -/
def Apart (source : List UInt8) (first second : Anchor) : Prop :=
  first = second ∨ first.start < second.regionStart source ∨ second.start < first.regionStart source

theorem Apart.symm {source : List UInt8} {first second : Anchor} (apart : Apart source first second) :
    Apart source second first := by
  rcases apart with rfl | before | behind
  · exact .inl rfl
  · exact .inr (.inr before)
  · exact .inr (.inl behind)

end Anchor

/-- A declaration as the walk records it, before any edit. -/
structure Declaration.Recorded (source : List UInt8) (d : Declaration) : Prop where
  comment : d.comment = d.anchor.comment? source
  indent : d.indent = d.anchor.indent source
  slot : d.slot = ⟨d.comment.map (·.text), none⟩

end Scholia
