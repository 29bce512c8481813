import Scholia.Oracle.Lenient
import Scholia.Proofs.Cache.Files
import Scholia.Proofs.Json.RoundTrip
import Scholia.Proofs.Oracle.Asking
import Scholia.Proofs.Utf8

/-! # What the lenient codec keeps

An entry is read back as it was written if its value and its time are within the limits of reading.
Values that hold no floating-point numbers, and are not too deep to be read, are not too deep to be
written either. A response is read back as it was written.
-/

namespace Scholia

namespace Json

mutual

theorem levels_le_of_legible {length depth : Nat} (value : Json)
    (legible : Legible length depth value) : value.levels ≤ depth + 1 := by
  cases value with
  | array items =>
      rcases legible with rfl | ⟨deep, legible⟩
      · exact Nat.le_add_left 1 depth
      · have := levelsOfItems_le_of_legible items legible
        rw [levels]
        omega
  | object fields =>
      rcases legible with rfl | ⟨deep, -, legible⟩
      · exact Nat.le_add_left 1 depth
      · have := levelsOfFields_le_of_legible fields legible
        rw [levels]
        omega
  | _ => exact Nat.zero_le _

theorem levelsOfItems_le_of_legible {length depth : Nat} (items : List Json)
    (legible : ItemsLegible length depth items) : levelsOfItems items ≤ depth + 1 := by
  cases items with
  | nil => exact Nat.zero_le _
  | cons item items =>
      exact Nat.max_le.mpr
        ⟨levels_le_of_legible item legible.1, levelsOfItems_le_of_legible items legible.2⟩

theorem levelsOfFields_le_of_legible {length depth : Nat} (fields : List (String × Json))
    (legible : FieldsLegible length depth fields) : levelsOfFields fields ≤ depth + 1 := by
  cases fields with
  | nil => exact Nat.zero_le _
  | cons field fields =>
      exact Nat.max_le.mpr
        ⟨levels_le_of_legible field.2 legible.1, levelsOfFields_le_of_legible fields legible.2⟩

end

end Json

namespace Lenient

open Json

mutual

/-- Nothing is put in place of numbers where there are none but integers. -/
theorem finiteOnly_of_legible {length depth : Nat} (value : Json)
    (legible : Legible length depth value) : finiteOnly value = value := by
  cases value with
  | float x => exact False.elim legible
  | array items =>
      rcases legible with rfl | ⟨-, legible⟩
      · rfl
      · exact congrArg Json.array (finiteItems_of_legible items legible)
  | object fields =>
      rcases legible with rfl | ⟨-, -, legible⟩
      · rfl
      · exact congrArg Json.object (finiteFields_of_legible fields legible)
  | _ => rfl

theorem finiteItems_of_legible {length depth : Nat} (items : List Json)
    (legible : ItemsLegible length depth items) : finiteItems items = items := by
  cases items with
  | nil => rfl
  | cons item items =>
      exact congrArg₂ List.cons (finiteOnly_of_legible item legible.1)
        (finiteItems_of_legible items legible.2)

theorem finiteFields_of_legible {length depth : Nat} (fields : List (String × Json))
    (legible : FieldsLegible length depth fields) : finiteFields fields = fields := by
  cases fields with
  | nil => rfl
  | cons field fields =>
      exact congrArg₂ (fun value rest => (field.1, value) :: rest)
        (finiteOnly_of_legible field.2 legible.1) (finiteFields_of_legible fields legible.2)

end

theorem entryOf?_entryJson {entry : Cache.Entry} (finite : finiteOnly entry.data = entry.data) :
    entryOf? (entryJson entry) = some entry := by
  simp [entryOf?, entryJson, readHash?, finite, Json.field?, Table.get?, time?]

/-- An entry within the limits of reading is kept. -/
theorem codec_keeps {entry : Cache.Entry}
    (data : Legible readable.wholeLength (readable.depth - 1) entry.data)
    (time : Legible readable.wholeLength (readable.depth - 1) (.int entry.timestamp)) :
    codec.Keeps entry := by
  have finite := finiteOnly_of_legible entry.data data
  have shallow : ¬maxLevels < entry.data.levels :=
    Nat.not_lt.mpr ((levels_le_of_legible entry.data data).trans (by decide))
  have legible : Legible readable.wholeLength readable.depth (entryJson entry) := by
    refine .inr ⟨by decide, by simp, ?_, time, trivial, trivial, trivial⟩
    rwa [finite]
  refine ⟨_, if_neg shallow, ?_⟩
  simp only [codec, Utf8.decode_encode, readWithin?_writeCompact legible, Option.bind_some,
    entryOf?_entryJson finite]

theorem form_keeps (response : Response) : form.Keeps response := by
  obtain ⟨status, content, reason, modelId, cached⟩ := response
  cases status <;> cases content <;> cases reason <;> cases modelId <;> rfl

theorem legible_int {time : Int} {depth : Nat}
    (short : (Binary64.intText time).length ≤ readable.wholeLength) :
    Legible readable.wholeLength depth (.int time) := by
  refine ⟨short, le_trans ?_ short⟩
  unfold Binary64.intText
  split
  · exact Nat.le_succ _
  · exact Nat.le_refl _

theorem legible_responseJson (response : Response) {length depth : Nat} (deep : 0 < depth) :
    Legible length depth (responseJson response) := by
  obtain ⟨status, content, reason, modelId, cached⟩ := response
  refine .inr ⟨deep, by simp, trivial, ?_, ?_, ?_, trivial, trivial⟩
  · cases content <;> trivial
  · cases reason <;> trivial
  · cases modelId <;> trivial

/-- A response is kept at any time of few enough digits. -/
theorem codec_keeps_response (response : Response) (store : Cache.Store) {now : Int}
    (short : (Binary64.intText now).length ≤ readable.wholeLength) (content : Option Text) :
    codec.Keeps (store.entryFor now (form.write response) content) :=
  codec_keeps (legible_responseJson response (by decide)) (legible_int short)

end Lenient

end Scholia
