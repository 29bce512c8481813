import Scholia.Proofs.Comment.Merging

/-! # What a merge keeps of a description

The text that describes a declaration may be written in front of the tags of a comment, in a
description tag or in a leading summary tag. A merge keeps it in front of the tags; the tags that
may hold it are not sticky, so that a description in a tag goes when the merged comment is put into
its place.
-/

namespace Scholia

namespace Block

open Comment

/-- A text stands in the description of a comment or in the text of one of its tags. -/
def Holds (block : Block) (text : Text) : Prop :=
  text <:+: block.description ∨ ∃ tag ∈ block.tags, text <:+: tag.text

theorem holds_descriptionRegion (block : Block) : block.Holds block.descriptionRegion := by
  unfold descriptionRegion
  split
  · next tag found =>
    exact .inr ⟨tag, List.mem_of_find?_eq_some found, Text.trim_isInfix tag.text⟩
  · split
    · exact .inl List.infix_rfl
    · split
      · next tag rest cut =>
        split
        · exact .inr ⟨tag, by simp [cut], Text.trim_isInfix tag.text⟩
        · exact .inl List.nil_infix
      · exact .inl List.nil_infix

/-- No tag that may hold a description is sticky. -/
theorem carries_of_sticky {tag : Tag} (sticky : stickyTags.contains tag.name = true) :
    carries tag = true := by
  have names : ∀ name ∈ stickyTags, name ∉ descriptionTags ∧ name ≠ summaryTag := by decide
  have other := names tag.name (List.contains_iff_mem.mp sticky)
  simpa [carries] using other

/-- No tag of a merged comment may hold a description. -/
theorem carries_of_mem_merge {old new : Block} {tag : Tag} (member : tag ∈ (old.merge new).tags) :
    carries tag = true := by
  rcases List.mem_append.mp member with kept | carried
  · have survives := List.of_mem_filter kept
    rw [Block.survives, Bool.and_eq_true] at survives
    exact carries_of_sticky survives.1
  · exact List.of_mem_filter carried

end Block

namespace Reconciler

/-- Whatever reconciliation does to a comment that it may not overwrite, the place holds a comment
    that starts with the same text in front of its tags. The description is still in it if it was
    that text, or if no comment was put into the place. Otherwise the place holds the merged
    comment, and a description in a tag is not among its tags. -/
theorem reconcile_keeps_region (rules : Reconciler) (slot : Slot) (existing generated : Text)
    (found : slot.current = some existing) (readable : Comment.isBlock existing = true)
    (spares : rules.policy.overwrites = false) :
    ∃ doc before after, (rules.reconcile slot generated).2.current = some doc ∧
      Block.parse existing = .ok before ∧ Block.parse doc = .ok after ∧
      before.description <+: after.description ∧
      (before.descriptionRegion = before.description ∨
          (rules.reconcile slot generated).1.applied = false →
        after.Holds before.descriptionRegion) ∧
      ((rules.reconcile slot generated).1.applied = true →
        doc = (before.merge (Block.read generated)).render ∧
          ∀ tag ∈ (before.merge (Block.read generated)).tags, Block.carries tag = true) := by
  have before : Block.parse existing = .ok (Block.read existing) := by
    rw [Block.parse, if_pos readable]
  have reached := rules.effect slot generated
  generalize rules.reconcile slot generated = result at reached ⊢
  cases reached with
  | kept outcome unapplied =>
      refine ⟨existing, _, _, found, before, before, List.prefix_rfl,
        fun _ => Block.holds_descriptionRegion _, fun applied => ?_⟩
      rw [unapplied] at applied
      cases applied
  | inserted _ bare => rw [found] at bare; cases bare
  | overwritten _ _ _ _ overwrites => rw [spares] at overwrites; cases overwrites
  | merged other _ same =>
      obtain rfl : existing = other := Option.some.inj (found.symm.trans same)
      have enclosed : Comment.Enclosed (mergedText existing generated) := Comment.enclosed_render _
      have lead := (Block.keeps_merge (Block.readable_read existing) (Block.readable_read generated)
        (Block.escaped_read readable)).description
      refine ⟨mergedText existing generated, _, _, ?_, before, ?_, lead, ?_,
        fun _ => ⟨rfl, fun tag => Block.carries_of_mem_merge⟩⟩
      · rw [enclosed.current_write]
      · rw [Block.parse, if_pos enclosed.isBlock_eq]
        rfl
      · rintro (leading | unapplied)
        · rw [leading]
          exact .inl lead.isInfix
        · cases unapplied

/-- A comment that starts with its description keeps it. -/
theorem reconcile_keeps_region_leading :
    (⟨some "/** Adds two numbers. */".toList, none⟩ : Slot).current =
        some "/** Adds two numbers. */".toList ∧
      Comment.isBlock "/** Adds two numbers. */".toList = true ∧
      ({} : Policy).overwrites = false ∧
      ∃ doc after, (reconcile ⟨0, {}⟩ ⟨some "/** Adds two numbers. */".toList, none⟩
          "Sums up.\n@returns the sum".toList).2.current = some doc ∧
        Block.parse doc = .ok after ∧ after.Holds "Adds two numbers.".toList := by
  obtain ⟨doc, before, after, current, read, reread, -, holds, -⟩ :=
    reconcile_keeps_region ⟨0, {}⟩ ⟨some "/** Adds two numbers. */".toList, none⟩
      "/** Adds two numbers. */".toList "Sums up.\n@returns the sum".toList rfl (by decide)
      (by decide)
  have same : before = ⟨"Adds two numbers.".toList, []⟩ := by
    have known : Block.parse "/** Adds two numbers. */".toList =
        .ok ⟨"Adds two numbers.".toList, []⟩ := by decide +kernel
    exact Except.ok.inj (read.symm.trans known)
  subst same
  exact ⟨rfl, by decide, by decide, doc, after, current, reread, holds (.inl rfl)⟩

/-- A description in a tag of its own is dropped by a merge. -/
theorem reconcile_drops_description_tag :
    Comment.isBlock "/** @description Adds two numbers. */".toList = true ∧
      ({} : Policy).merges = true ∧ ({} : Policy).overwrites = false ∧
      (Block.read "/** @description Adds two numbers. */".toList).descriptionRegion =
        "Adds two numbers.".toList ∧
      (reconcile ⟨0, {}⟩ ⟨some "/** @description Adds two numbers. */".toList, none⟩
        "/** Sums up. */".toList).2.current = some "/**\n * Sums up.\n */".toList ∧
      ¬"Adds two numbers.".toList <:+: "/**\n * Sums up.\n */".toList := by
  decide +kernel

end Reconciler

end Scholia
