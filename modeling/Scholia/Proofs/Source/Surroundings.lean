import Mathlib.Data.List.Sort
import Scholia.Proofs.Source.Rereading
import Scholia.Proofs.Source.Sites

/-! # What stands around a region

Where every declaration has an anchor of its own, an edited source is what stands in front of the
region of a declaration, what stands in it, and what stands behind. Only what stands in the region
depends on the comment of that declaration.
-/

namespace Scholia

open Utf8

theorem sliceBytes_append_drop {source : List UInt8} {start stop : Nat} (order : start ≤ stop)
    (limit : stop ≤ source.length) :
    sliceBytes source start stop ++ source.drop stop = source.drop start := by
  have length : (source.take stop).length = stop := by
    rw [List.length_take, Nat.min_eq_left limit]
  calc sliceBytes source start stop ++ source.drop stop
      = (source.take stop ++ source.drop stop).drop start :=
        (List.drop_append_of_le_length (by rw [length]; exact order)).symm
    _ = source.drop start := by rw [List.take_append_drop]

theorem sliceBytes_append_sliceBytes {source : List UInt8} {start middle stop : Nat}
    (order : start ≤ middle) (order' : middle ≤ stop) (limit : middle ≤ source.length) :
    sliceBytes source start middle ++ sliceBytes source middle stop =
      sliceBytes source start stop := by
  have front : (source.take stop).take middle = source.take middle := by
    rw [List.take_take, Nat.min_eq_left order']
  have inside : middle ≤ (source.take stop).length := by
    rw [List.length_take]
    exact Nat.le_min.mpr ⟨order', limit⟩
  have whole := sliceBytes_append_drop order inside
  rwa [sliceBytes, front] at whole

namespace Splice

/-- Splices one behind the other are told by which ones they are. -/
theorem eq_of_mem_iff {first second : List Splice}
    (order : ∀ splice ∈ first, splice.start ≤ splice.stop) (ascending : Ascending first)
    (ascending' : Ascending second) (same : ∀ splice, splice ∈ first ↔ splice ∈ second) :
    first = second := by
  let before (one two : Splice) : Prop :=
    one.start ≤ one.stop ∧ one.stop < two.start ∧ two.start ≤ two.stop
  have asymmetric : Std.Asymm before := ⟨by
    rintro one two ⟨-, left, ordered⟩ ⟨-, right, ordered'⟩
    omega⟩
  have sorted {splices : List Splice} (ordered : ∀ splice ∈ splices, splice.start ≤ splice.stop)
      (ascends : Ascending splices) : splices.Pairwise before :=
    ascends.imp_of_mem fun inOne inTwo apart => ⟨ordered _ inOne, apart, ordered _ inTwo⟩
  refine (sorted order ascending).eq_of_mem_iff (sorted ?_ ascending') @same
  exact fun splice member => order splice ((same splice).mpr member)

/-- A splice that puts back what stands in its region makes no difference. -/
theorem weave_insert {source : List UInt8} {before after : List Splice} {start stop : Nat}
    (order : start ≤ stop) (limit : stop ≤ source.length)
    (earlier : ∀ other ∈ before, other.stop ≤ start) (later : ∀ other ∈ after, stop ≤ other.start)
    {done : Nat} (begun : done ≤ start) :
    weave source done (before ++ ⟨start, stop, sliceBytes source start stop⟩ :: after) =
      weave source done (before ++ after) := by
  induction before generalizing done with
  | nil =>
      rw [List.nil_append, List.nil_append, weave,
        sliceBytes_append_sliceBytes begun order (Nat.le_trans order limit)]
      have reach := Nat.le_trans begun order
      cases after with
      | nil => exact sliceBytes_append_drop reach limit
      | cons first rest =>
          have behind := later first List.mem_cons_self
          rw [weave, weave, ← sliceBytes_append_sliceBytes reach behind limit]
          simp only [List.append_assoc]
  | cons first rest ih =>
      obtain ⟨here, earlier⟩ := List.forall_mem_cons.mp earlier
      rw [List.cons_append, List.cons_append, weave, weave, ih earlier here]

end Splice

namespace Document

variable {text : Text} {document left right : Document} {d : Declaration} {anchor : Anchor}

/-- The edited source in front of the region for an anchor. -/
def front (document : Document) (anchor : Anchor) : List UInt8 :=
  let start := anchor.regionStart document.source
  Splice.weave (document.source.take start) 0 (document.regions.filter (·.stop < start))

/-- The edited source from an anchor on. -/
def back (document : Document) (anchor : Anchor) : List UInt8 :=
  Splice.weave document.source anchor.start (document.regions.filter (anchor.start < ·.start))

/-- What the edited source has in the region of a declaration: what is written for a changed
    comment, or what was there. -/
def within (document : Document) (d : Declaration) : List UInt8 :=
  if d.changed then encode (written document.newline d)
  else sliceBytes document.source (d.anchor.regionStart document.source) d.anchor.start

/-- Every declaration has an anchor of its own. -/
def Separate (document : Document) : Prop :=
  (document.declarations.map (·.anchor)).Nodup

theorem Separate.stands_iff (separate : document.Separate) :
    document.Stands d ↔ d ∈ document.declarations ∧ d.changed = true := by
  constructor
  · rintro ⟨before, after, cut, changed, -⟩
    exact ⟨by simp [cut], changed⟩
  · rintro ⟨member, changed⟩
    obtain ⟨before, after, cut⟩ := List.append_of_mem member
    refine ⟨before, after, cut, changed, fun other behind _ same => ?_⟩
    rw [Separate, cut, List.map_append, List.map_cons] at separate
    obtain ⟨-, separate, -⟩ := List.nodup_append.mp separate
    exact (List.nodup_cons.mp separate).1 (List.mem_map.mpr ⟨other, behind, same⟩)

theorem Separate.of_sites (separate : left.Separate) (same : right.sites = left.sites) :
    right.Separate := by
  have declarations : right.declarations.map Declaration.site =
      left.declarations.map Declaration.site := congrArg (·.declarations) same
  have anchors (document : Document) : document.declarations.map (·.anchor) =
      (document.declarations.map Declaration.site).map (·.anchor) := by
    rw [List.map_map]
    rfl
  rwa [Separate, anchors, declarations, ← anchors]

theorem Separate.eq_of_anchor (separate : document.Separate) {other : Declaration}
    (member : d ∈ document.declarations) (member' : other ∈ document.declarations)
    (same : other.anchor = d.anchor) : other = d :=
  List.inj_on_of_nodup_map separate member' member same

theorem Separate.mem_regions_iff (separate : document.Separate) (sound : document.Sound text)
    {splice : Splice} : splice ∈ document.regions ↔
      ∃ d ∈ document.declarations, d.changed = true ∧ splice = spliceOf document.newline d := by
  rw [Document.mem_regions_iff sound.settled]
  simp only [separate.stands_iff, and_assoc]

theorem Sound.order_of_mem_regions (sound : document.Sound text) :
    ∀ splice ∈ document.regions, splice.start ≤ splice.stop :=
  fun splice member => (sound.textual_of_mem_regions splice member).order

/-- The regions are those in front of that of a declaration, its own if it is changed, and those
    behind. -/
theorem Separate.regions_eq (separate : document.Separate) (sound : document.Sound text)
    (member : d ∈ document.declarations) :
    document.regions =
      document.regions.filter (·.stop < d.anchor.regionStart (encode text)) ++
        ((if d.changed then [spliceOf document.newline d] else []) ++
        document.regions.filter (d.anchor.start < ·.start)) := by
  have start : (spliceOf document.newline d).start = d.anchor.regionStart (encode text) :=
    sound.start_spliceOf member document.newline
  have stop : (spliceOf document.newline d).stop = d.anchor.start := rfl
  have order := (sound.textual member document.newline).order
  have own {splice : Splice} (chosen : splice ∈ if d.changed then
      [spliceOf document.newline d] else []) :
      d.changed = true ∧ splice = spliceOf document.newline d := by
    split at chosen
    · next changed => exact ⟨changed, List.mem_singleton.mp chosen⟩
    · cases chosen
  have ascending := sound.settled.ascending_regions
  refine Splice.eq_of_mem_iff sound.order_of_mem_regions ascending ?_ fun splice => ?_
  · refine List.pairwise_append.mpr
      ⟨ascending.filter _, ?_, fun first inFirst second inSecond => ?_⟩
    · refine List.pairwise_append.mpr
        ⟨?_, ascending.filter _, fun first chosen second behind => ?_⟩
      · split
        · exact List.pairwise_singleton _ _
        · exact .nil
      · rw [(own chosen).2]
        exact of_decide_eq_true (List.mem_filter.mp behind).2
    · have before := of_decide_eq_true (List.mem_filter.mp inFirst).2
      rcases List.mem_append.mp inSecond with chosen | behind
      · rw [(own chosen).2, start]
        exact before
      · have after := of_decide_eq_true (List.mem_filter.mp behind).2
        omega
  · simp only [List.mem_append, List.mem_filter, decide_eq_true_eq]
    constructor
    · intro inside
      obtain ⟨e, there, changed, rfl⟩ := (separate.mem_regions_iff sound).mp inside
      by_cases same : e.anchor = d.anchor
      · obtain rfl := separate.eq_of_anchor member there same
        exact .inr (.inl (by rw [changed]; exact List.mem_singleton_self _))
      · rcases sound.settled.separate there member same document.newline with front | behind
        · exact .inl ⟨inside, start ▸ front⟩
        · exact .inr (.inr ⟨inside, behind⟩)
    · rintro (⟨inside, -⟩ | chosen | ⟨inside, -⟩)
      · exact inside
      · obtain ⟨changed, rfl⟩ := own chosen
        exact (separate.mem_regions_iff sound).mpr ⟨d, member, changed, rfl⟩
      · exact inside

/-- The edited source is what stands in front of the region of a declaration, what stands in it,
    and what stands behind. -/
theorem Separate.encode_render (separate : document.Separate) (sound : document.Sound text)
    (member : d ∈ document.declarations) : encode document.render =
      document.front d.anchor ++ document.within d ++ document.back d.anchor := by
  let before := document.regions.filter (·.stop < d.anchor.regionStart (encode text))
  let after := document.regions.filter (d.anchor.start < ·.start)
  let own : Splice := ⟨d.anchor.regionStart (encode text), d.anchor.start, document.within d⟩
  have order := (sound.textual member document.newline).order
  rw [sound.start_spliceOf member] at order
  have limit : d.anchor.start ≤ (encode text).length := by
    rw [← sound.source]
    exact Nat.le_of_lt (sound.settled.limit d member)
  have earlier : ∀ other ∈ before, other.stop < own.start := fun other inside =>
    of_decide_eq_true (List.mem_filter.mp inside).2
  have later : ∀ other ∈ after, own.stop < other.start := fun other inside =>
    of_decide_eq_true (List.mem_filter.mp inside).2
  have fits : ∀ other ∈ before, other.Fits (encode text) := fun other inside =>
    (sound.textual_of_mem_regions other (List.mem_of_mem_filter inside)).fits
  have woven : encode document.render = Splice.weave (encode text) 0 (before ++ own :: after) := by
    rw [sound.encode_render, separate.regions_eq sound member]
    cases changed : d.changed with
    | true =>
        have same : spliceOf document.newline d = own := by
          rw [spliceOf_eq sound member, ← sound.source, ← newline]
          simp only [own, within, changed, if_true, sound.source]
        rw [if_pos rfl, same]
        rfl
    | false =>
        have kept : own = ⟨own.start, own.stop, sliceBytes (encode text) own.start own.stop⟩ := by
          simp only [own, within, changed, Bool.false_eq_true, if_false, sound.source]
        rw [if_neg Bool.false_ne_true, List.nil_append, kept]
        exact (Splice.weave_insert order limit
          (fun other inside => Nat.le_of_lt (earlier other inside))
          (fun other inside => Nat.le_of_lt (later other inside)) (Nat.zero_le _)).symm
  rw [woven, Splice.weave_append_cons fits earlier, front, back, sound.source]

/-- What stands around the region for an anchor has nothing to do with the comment there. -/
theorem Separate.around_eq (separate : left.Separate) (separate' : right.Separate)
    (sound : left.Sound text) (sound' : right.Sound text)
    (others : ∀ e : Declaration, e.anchor ≠ anchor →
      (e ∈ left.declarations ↔ e ∈ right.declarations))
    (sited : anchor.regionStart (encode text) ≤ anchor.start) :
    left.front anchor = right.front anchor ∧ left.back anchor = right.back anchor := by
  have newlines : left.newline = right.newline := by
    rw [newline, newline, sound.source, sound'.source]
  have same {splice : Splice} (away : ∀ e : Declaration,
      splice.start = e.anchor.regionStart (encode text) → splice.stop = e.anchor.start →
        e.anchor ≠ anchor) : splice ∈ left.regions ↔ splice ∈ right.regions := by
    rw [separate.mem_regions_iff sound, separate'.mem_regions_iff sound', ← newlines]
    constructor
    · rintro ⟨e, member, changed, rfl⟩
      have apart := away e (sound.start_spliceOf member left.newline) rfl
      exact ⟨e, (others e apart).mp member, changed, rfl⟩
    · rintro ⟨e, member, changed, rfl⟩
      have apart := away e (sound'.start_spliceOf member left.newline) rfl
      exact ⟨e, (others e apart).mpr member, changed, rfl⟩
  have filtered {chosen : Splice → Bool} (away : ∀ splice, chosen splice = true →
      ∀ e : Declaration, splice.start = e.anchor.regionStart (encode text) →
        splice.stop = e.anchor.start → e.anchor ≠ anchor) :
      left.regions.filter chosen = right.regions.filter chosen := by
    refine Splice.eq_of_mem_iff
      (fun splice inside => sound.order_of_mem_regions splice (List.mem_of_mem_filter inside))
      (sound.settled.ascending_regions.filter _) (sound'.settled.ascending_regions.filter _)
      fun splice => ?_
    rw [List.mem_filter, List.mem_filter]
    exact and_congr_left fun chosen => same (away splice chosen)
  constructor
  · rw [front, front, sound.source, sound'.source, filtered]
    rintro splice chosen e - stop rfl
    have before := of_decide_eq_true chosen
    omega
  · rw [back, back, sound.source, sound'.source, filtered]
    rintro splice chosen e start - rfl
    have behind := of_decide_eq_true chosen
    omega

end Document

end Scholia
