import Scholia.Path
import Scholia.Source.Document

/-! # What a run writes

A run writes the documents that changed into their files. Each of them is found by the place of its
file, in whatever order the files were written.
-/

namespace Scholia

/-- Places of files, and what was written there. -/
abbrev Edits := List (List String × List UInt8)

namespace Edits

/-- A file was written at a place. -/
def Has (edits : Edits) (place : List String) : Prop :=
  (edits.lookup place).isSome = true

/-- What the documents of files that changed are written as. -/
def ofRevisions (revisions : List (Path × Document)) : Edits :=
  (revisions.filter fun revision => revision.2.changed).map fun revision =>
    (revision.1.resolve, Utf8.encode revision.2.render)

theorem ofRevisions_append (first second : List (Path × Document)) :
    ofRevisions (first ++ second) = ofRevisions first ++ ofRevisions second := by
  rw [ofRevisions, List.filter_append, List.map_append, ofRevisions, ofRevisions]

theorem has_append {first second : Edits} {place : List String} :
    Has (first ++ second) place ↔ first.Has place ∨ second.Has place := by
  rw [Has, List.lookup_append, Option.isSome_or, Bool.or_eq_true, Has, Has]

theorem lookup_singleton (place other : List String) (bytes : List UInt8) :
    List.lookup other [(place, bytes)] = if other = place then some bytes else none := by
  rw [List.lookup_cons]
  split
  · next same => rw [if_pos (beq_iff_eq.mp same)]
  · next differ => rw [if_neg (beq_eq_false_iff_ne.mp differ), List.lookup_nil]

theorem has_singleton {place other : List String} {bytes : List UInt8} :
    Has [(place, bytes)] other ↔ other = place := by
  rw [Has, lookup_singleton]
  split
  · next same => simp [same]
  · next differ => simp [differ]

theorem not_has_nil {place : List String} : ¬Has [] place :=
  Bool.false_ne_true

theorem ofRevisions_nil : ofRevisions [] = [] :=
  rfl

theorem lookup_of_mem {edits : Edits} (distinct : edits.Pairwise (·.1 ≠ ·.1))
    {place : List String} {bytes : List UInt8} (member : (place, bytes) ∈ edits) :
    edits.lookup place = some bytes := by
  obtain ⟨first, rest, rfl⟩ := List.append_of_mem member
  obtain ⟨-, -, apart⟩ := List.pairwise_append.mp distinct
  refine List.lookup_eq_some_iff.mpr ⟨first, rest, rfl, fun edit before => ?_⟩
  exact bne_iff_ne.mpr (apart edit before _ List.mem_cons_self).symm

/-- Every changed document is written at the place of its file. -/
theorem lookup_ofRevisions {revisions : List (Path × Document)}
    (distinct : revisions.Pairwise (·.1.resolve ≠ ·.1.resolve)) {revision : Path × Document}
    (member : revision ∈ revisions) (changed : revision.2.changed = true) :
    (ofRevisions revisions).lookup revision.1.resolve = some (Utf8.encode revision.2.render) := by
  refine lookup_of_mem (List.pairwise_map.mpr (distinct.filter _)) ?_
  exact List.mem_map.mpr ⟨revision, List.mem_filter.mpr ⟨member, changed⟩, rfl⟩

/-- Nothing else is written. -/
theorem changed_of_has {revisions : List (Path × Document)} {place : List String}
    (has : (ofRevisions revisions).Has place) :
    ∃ revision ∈ revisions, revision.2.changed = true ∧ revision.1.resolve = place := by
  rw [Has, List.lookup_isSome_iff] at has
  obtain ⟨entry, member, same⟩ := has
  obtain ⟨revision, kept, rfl⟩ := List.mem_map.mp member
  obtain ⟨taken, changed⟩ := List.mem_filter.mp kept
  exact ⟨revision, taken, changed, (beq_iff_eq.mp same).symm⟩

theorem mem_of_lookup {edits : Edits} {place : List String} {bytes : List UInt8}
    (found : edits.lookup place = some bytes) : (place, bytes) ∈ edits := by
  obtain ⟨first, rest, rfl, -⟩ := List.lookup_eq_some_iff.mp found
  exact List.mem_append_right _ List.mem_cons_self

/-- Of files written at different places, each is found in any order. -/
theorem lookup_perm {first second : Edits} (same : first.Perm second)
    (distinct : first.Pairwise (·.1 ≠ ·.1)) (place : List String) :
    second.lookup place = first.lookup place := by
  have distinct' : second.Pairwise (·.1 ≠ ·.1) := (same.pairwise_iff Ne.symm).mp distinct
  cases found : first.lookup place with
  | some bytes => exact lookup_of_mem distinct' (same.subset (mem_of_lookup found))
  | none =>
      cases found' : second.lookup place with
      | none => rfl
      | some bytes =>
          have before := lookup_of_mem distinct (same.symm.subset (mem_of_lookup found'))
          exact absurd (found.symm.trans before) nofun

theorem ofRevisions_perm {first second : List (Path × Document)} (same : first.Perm second) :
    (ofRevisions first).Perm (ofRevisions second) :=
  (same.filter _).map _

end Edits

end Scholia
