import Mathlib.Data.List.Induction
import Scholia.Proofs.Utf8
import Scholia.Source.Document

/-! # Splicing from the end backwards

Splices whose regions are apart can be applied from the end backwards: the result is the source
read forwards, with every region replaced and all bytes between the regions kept.
-/

namespace Scholia

open Utf8

namespace Splice

/-- The source from an offset on, with ascending splices in the place of their regions. -/
def weave (source : List UInt8) (done : Nat) : List Splice → List UInt8
  | [] => source.drop done
  | splice :: rest =>
    sliceBytes source done splice.start ++ splice.bytes ++ weave source splice.stop rest

/-- The region of a splice is one of a source. -/
structure Fits (source : List UInt8) (splice : Splice) : Prop where
  order : splice.start ≤ splice.stop
  limit : splice.stop ≤ source.length

/-- Splices one behind the other, with something between their regions. -/
def Ascending (splices : List Splice) : Prop :=
  splices.Pairwise fun first second => first.stop < second.start

theorem eq_singleton {source : List UInt8} {splices : List Splice} {splice : Splice}
    (ascending : Ascending splices) (fits : ∀ other ∈ splices, other.Fits source)
    (member : ∀ other, other ∈ splices ↔ other = splice) : splices = [splice] := by
  cases splices with
  | nil =>
      have nowhere := (member splice).mpr rfl
      cases nowhere
  | cons first rest =>
      have here := (member first).mp List.mem_cons_self
      cases rest with
      | nil => rw [here]
      | cons second others =>
          have there := (member second).mp (by simp)
          have order := (fits first List.mem_cons_self).order
          have before := (List.pairwise_cons.mp ascending).1 second List.mem_cons_self
          rw [there, ← here] at before
          omega

theorem take_append_sliceBytes (source : List UInt8) {start stop : Nat} (order : start ≤ stop) :
    source.take start ++ sliceBytes source start stop = source.take stop := by
  have front : source.take start = (source.take stop).take start := by
    rw [List.take_take, Nat.min_eq_left order]
  rw [sliceBytes, front, List.take_append_drop]

/-- A splice in front of all that has been spliced so far finds the source as it was. -/
theorem apply_append {source woven : List UInt8} {splice : Splice} (fits : splice.Fits source) :
    splice.apply (source.take splice.stop ++ woven) =
      source.take splice.start ++ splice.bytes ++ woven := by
  have length : (source.take splice.stop).length = splice.stop := by
    rw [List.length_take, Nat.min_eq_left fits.limit]
  have front : (source.take splice.stop ++ woven).take splice.start = source.take splice.start := by
    rw [List.take_append_of_le_length (by rw [length]; exact fits.order), List.take_take,
      Nat.min_eq_left fits.order]
  have back : (source.take splice.stop ++ woven).drop splice.stop = woven := by
    rw [List.drop_left' length]
  rw [apply, front, back]

/-- The invariant of splicing from the end: in front of what is done the source is as it was. -/
theorem foldr_apply {source : List UInt8} {splices : List Splice}
    (fits : ∀ splice ∈ splices, splice.Fits source) (ascending : Ascending splices) {done : Nat}
    (later : ∀ splice ∈ splices, done ≤ splice.start) :
    splices.foldr apply source = source.take done ++ weave source done splices := by
  induction splices generalizing done with
  | nil => rw [List.foldr_nil, weave, List.take_append_drop]
  | cons splice rest ih =>
      obtain ⟨here, fits⟩ := List.forall_mem_cons.mp fits
      obtain ⟨before, ascending⟩ := List.pairwise_cons.mp ascending
      have behind : ∀ other ∈ rest, splice.stop ≤ other.start := fun other member =>
        Nat.le_of_lt (before other member)
      rw [List.foldr_cons, ih fits ascending behind, apply_append here, weave,
        ← take_append_sliceBytes source (later splice List.mem_cons_self)]
      simp only [List.append_assoc]

/-! ## Splices by their ends -/

/-- No two splices end at one place. -/
def Distinct (splices : List Splice) : Prop :=
  splices.Pairwise fun first second => first.stop ≠ second.stop

theorem mem_insert {splice : Splice} {splices : List Splice} (distinct : Distinct splices)
    {other : Splice} : other ∈ splice.insert splices ↔
      other = splice ∨ (other ∈ splices ∧ other.stop ≠ splice.stop) := by
  induction splices with
  | nil => simp [insert]
  | cons first rest ih =>
      obtain ⟨differs, distinct⟩ := List.pairwise_cons.mp distinct
      rw [insert]
      split
      · next same =>
        rw [List.mem_cons, List.mem_cons]
        constructor
        · rintro (rfl | later)
          · exact .inl rfl
          · exact .inr ⟨.inr later, fun stop => differs other later (same.trans stop.symm)⟩
        · rintro (rfl | ⟨rfl | later, stop⟩)
          · exact .inl rfl
          · exact absurd same stop
          · exact .inr later
      · next differ =>
        rw [List.mem_cons, List.mem_cons, ih distinct]
        constructor
        · rintro (rfl | rfl | ⟨later, stop⟩)
          · exact .inr ⟨.inl rfl, differ⟩
          · exact .inl rfl
          · exact .inr ⟨.inr later, stop⟩
        · rintro (rfl | ⟨rfl | later, stop⟩)
          · exact .inr (.inl rfl)
          · exact .inl rfl
          · exact .inr (.inr ⟨later, stop⟩)

theorem Distinct.insert {splices : List Splice} (distinct : Distinct splices) (splice : Splice) :
    Distinct (splice.insert splices) := by
  induction splices with
  | nil => simp [Splice.insert, Distinct]
  | cons first rest ih =>
      obtain ⟨differs, tail⟩ := List.pairwise_cons.mp distinct
      rw [Splice.insert]
      split
      · next same =>
        refine List.pairwise_cons.mpr ⟨fun other later => ?_, tail⟩
        rw [← same]
        exact differs other later
      · next differ =>
        refine List.pairwise_cons.mpr ⟨fun other member => ?_, ih tail⟩
        rcases (mem_insert tail).mp member with rfl | ⟨later, -⟩
        · exact differ
        · exact differs other later

/-- The splices that stand when splices are added one after the other. -/
def gather (splices : List Splice) : List Splice :=
  splices.foldl (fun kept splice => splice.insert kept) []

theorem gather_concat (splices : List Splice) (splice : Splice) :
    gather (splices ++ [splice]) = splice.insert (gather splices) := by
  rw [gather, List.foldl_append]
  rfl

theorem distinct_gather (splices : List Splice) : Distinct (gather splices) := by
  induction splices using List.reverseRecOn with
  | nil => exact .nil
  | append_singleton splices splice ih =>
      rw [gather_concat]
      exact ih.insert splice

/-- Of the splices with one end the last one stands. -/
theorem mem_gather {splices : List Splice} {splice : Splice} :
    splice ∈ gather splices ↔ ∃ before after, splices = before ++ splice :: after ∧
      ∀ other ∈ after, other.stop ≠ splice.stop := by
  induction splices using List.reverseRecOn with
  | nil => simp [gather]
  | append_singleton splices last ih =>
      rw [gather_concat, mem_insert (distinct_gather splices), ih]
      constructor
      · rintro (rfl | ⟨⟨before, after, rfl, final⟩, differ⟩)
        · exact ⟨splices, [], rfl, by simp⟩
        · refine ⟨before, after ++ [last], by simp, fun other member => ?_⟩
          rcases List.mem_append.mp member with earlier | here
          · exact final other earlier
          · rw [List.mem_singleton.mp here]
            exact differ.symm
      · rintro ⟨before, after, same, final⟩
        rcases List.eq_nil_or_concat after with rfl | ⟨front, other, rfl⟩
        · exact .inl (List.singleton_inj.mp (List.append_inj' same rfl).2).symm
        · have cut : splices ++ [last] = (before ++ splice :: front) ++ [other] := by
            rw [same, List.concat_eq_append]
            simp
          obtain ⟨rfl, single⟩ := List.append_inj' cut rfl
          obtain rfl : last = other := List.singleton_inj.mp single
          have differ := final last (by simp)
          refine .inr ⟨⟨before, front, rfl, fun kept member => ?_⟩, differ.symm⟩
          exact final kept (by simp [member])

/-- The order in which splices are applied: the last one in the source first. -/
def backwards (splices : List Splice) : List Splice :=
  splices.mergeSort fun first second => second.start ≤ first.start

/-- Splices whose regions are apart are sorted one behind the other. -/
theorem ascending_reverse_backwards {splices : List Splice}
    (order : ∀ splice ∈ splices, splice.start ≤ splice.stop)
    (apart : splices.Pairwise fun first second =>
      first.stop < second.start ∨ second.stop < first.start) :
    Ascending (backwards splices).reverse := by
  have sorted : (backwards splices).Pairwise fun first second => second.start ≤ first.start := by
    have descending := @List.pairwise_mergeSort Splice
      (fun first second => decide (second.start ≤ first.start))
      (by intro a b c; simp; omega) (by intro a b; simp; omega) splices
    simpa [backwards] using descending
  have separate : (backwards splices).Pairwise fun first second =>
      first.stop < second.start ∨ second.stop < first.start :=
    (List.mergeSort_perm splices _).symm.pairwise apart fun behind => behind.symm
  rw [Ascending, List.pairwise_reverse]
  refine (sorted.and separate).imp_of_mem fun {first second} inFirst _ both => ?_
  have here := order first ((List.mergeSort_perm splices _).mem_iff.mp inFirst)
  omega

/-! ## Text between the regions -/

/-- A splice that puts text between two boundaries of a text. -/
structure Textual (text : Text) (splice : Splice) : Prop where
  opens : Boundary text splice.start
  closes : Boundary text splice.stop
  order : splice.start ≤ splice.stop
  bytes : ∃ written, splice.bytes = encode written

theorem Textual.fits {text : Text} {splice : Splice} (textual : splice.Textual text) :
    splice.Fits (encode text) :=
  ⟨textual.order, textual.closes.le_length⟩

/-- A text stays text when texts are spliced into it. -/
theorem exists_weave_eq {text : Text} {splices : List Splice}
    (textual : ∀ splice ∈ splices, splice.Textual text) (ascending : Ascending splices) {done : Nat}
    (opens : Boundary text done) (later : ∀ splice ∈ splices, done ≤ splice.start) :
    ∃ edited, weave (encode text) done splices = encode edited := by
  induction splices generalizing done with
  | nil => exact opens.exists_drop
  | cons splice rest ih =>
      obtain ⟨here, textual⟩ := List.forall_mem_cons.mp textual
      obtain ⟨before, ascending⟩ := List.pairwise_cons.mp ascending
      obtain ⟨kept, front⟩ := opens.exists_slice here.opens (later splice List.mem_cons_self)
      obtain ⟨written, bytes⟩ := here.bytes
      obtain ⟨edited, back⟩ := ih textual ascending here.closes fun other member =>
        Nat.le_of_lt (before other member)
      exact ⟨kept ++ written ++ edited, by rw [weave, front, bytes, back, encode_append, encode_append]⟩

end Splice

end Scholia
