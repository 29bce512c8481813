import Mathlib.Algebra.Group.Nat.Defs
import Scholia.Source.Node

/-! # Reading written bytes

Every text is read back from its bytes. An offset of the bytes is a boundary if no character
stretches over it; what stands between two boundaries is text again.
-/

namespace Scholia.Utf8

theorem toNat_toUInt8 {n : Nat} (small : n < 256) : n.toUInt8.toNat = n := by
  simp only [Nat.toUInt8_eq, UInt8.toNat_ofNat']
  omega

/-- The code points of characters leave out the surrogates. -/
theorem toNat_valid (c : Char) : c.toNat < 0xD800 ∨ 0xDFFF < c.toNat ∧ c.toNat < 0x110000 :=
  c.valid

theorem continuation_cons {range : Nat × Nat} {value seen missing : Nat} {n : Nat}
    (small : n < 256) (inside : range.1 ≤ n ∧ n ≤ range.2) (rest : List UInt8) :
    continuation range value seen (missing + 1) (n.toUInt8 :: rest) =
      continuation (0x80, 0xBF) (value * 0x40 + n % 0x40) (seen + 1) missing rest := by
  rw [continuation, toNat_toUInt8 small]
  simp [inside]

theorem scan_of_sequenceLength {lead length : Nat} (small : lead < 256)
    (announced : sequenceLength lead = length + 2) (rest : List UInt8) :
    scan lead.toUInt8 rest =
      continuation (secondRange lead) (leadBits (length + 2) lead) 1 (length + 1) rest := by
  rw [scan, toNat_toUInt8 small]
  simp only [announced]
  rfl

theorem scan_two {n : Nat} (least : 0x80 ≤ n) (most : n < 0x800) (rest : List UInt8) :
    scan (0xC0 + n / 0x40).toUInt8 ((0x80 + n % 0x40).toUInt8 :: rest) =
      .character (Char.ofNat n) 2 := by
  have announced : sequenceLength (0xC0 + n / 0x40) = 2 := by
    unfold sequenceLength
    rw [if_neg (by omega), if_neg (by omega), if_pos (by omega)]
  have range : secondRange (0xC0 + n / 0x40) = (0x80, 0xBF) := by
    unfold secondRange
    rw [if_neg (by omega), if_neg (by omega), if_neg (by omega), if_neg (by omega)]
  have bits : leadBits 2 (0xC0 + n / 0x40) = n / 0x40 := by
    rw [leadBits, if_pos rfl]
    omega
  have value : n / 0x40 * 0x40 + (0x80 + n % 0x40) % 0x40 = n := by omega
  rw [scan_of_sequenceLength (by omega) announced, range, bits,
    continuation_cons (by omega) ⟨by omega, by omega⟩, value, continuation]

theorem scan_three {n : Nat} (least : 0x800 ≤ n) (most : n < 0x10000)
    (valid : n < 0xD800 ∨ 0xDFFF < n) (rest : List UInt8) :
    scan (0xE0 + n / 0x1000).toUInt8
        ((0x80 + n / 0x40 % 0x40).toUInt8 :: (0x80 + n % 0x40).toUInt8 :: rest) =
      .character (Char.ofNat n) 3 := by
  have announced : sequenceLength (0xE0 + n / 0x1000) = 3 := by
    unfold sequenceLength
    rw [if_neg (by omega), if_neg (by omega), if_neg (by omega), if_pos (by omega)]
  have range : (secondRange (0xE0 + n / 0x1000)).1 ≤ 0x80 + n / 0x40 % 0x40 ∧
      0x80 + n / 0x40 % 0x40 ≤ (secondRange (0xE0 + n / 0x1000)).2 := by
    unfold secondRange
    split
    · omega
    · split
      · omega
      · rw [if_neg (by omega), if_neg (by omega)]
        omega
  have bits : leadBits 3 (0xE0 + n / 0x1000) = n / 0x1000 := by
    rw [leadBits, if_neg (by decide), if_pos rfl]
    omega
  have value : (n / 0x1000 * 0x40 + (0x80 + n / 0x40 % 0x40) % 0x40) * 0x40 +
      (0x80 + n % 0x40) % 0x40 = n := by omega
  rw [scan_of_sequenceLength (by omega) announced, bits, continuation_cons (by omega) range,
    continuation_cons (by omega) ⟨by omega, by omega⟩, value, continuation]

theorem scan_four {n : Nat} (least : 0x10000 ≤ n) (most : n < 0x110000) (rest : List UInt8) :
    scan (0xF0 + n / 0x40000).toUInt8
        ((0x80 + n / 0x1000 % 0x40).toUInt8 :: (0x80 + n / 0x40 % 0x40).toUInt8 ::
          (0x80 + n % 0x40).toUInt8 :: rest) =
      .character (Char.ofNat n) 4 := by
  have announced : sequenceLength (0xF0 + n / 0x40000) = 4 := by
    unfold sequenceLength
    rw [if_neg (by omega), if_neg (by omega), if_neg (by omega), if_neg (by omega),
      if_pos (by omega)]
  have range : (secondRange (0xF0 + n / 0x40000)).1 ≤ 0x80 + n / 0x1000 % 0x40 ∧
      0x80 + n / 0x1000 % 0x40 ≤ (secondRange (0xF0 + n / 0x40000)).2 := by
    unfold secondRange
    rw [if_neg (by omega), if_neg (by omega)]
    split
    · omega
    · split <;> omega
  have bits : leadBits 4 (0xF0 + n / 0x40000) = n / 0x40000 := by
    rw [leadBits, if_neg (by decide), if_neg (by decide)]
    omega
  have value : ((n / 0x40000 * 0x40 + (0x80 + n / 0x1000 % 0x40) % 0x40) * 0x40 +
      (0x80 + n / 0x40 % 0x40) % 0x40) * 0x40 + (0x80 + n % 0x40) % 0x40 = n := by omega
  rw [scan_of_sequenceLength (by omega) announced, bits, continuation_cons (by omega) range,
    continuation_cons (by omega) ⟨by omega, by omega⟩,
    continuation_cons (by omega) ⟨by omega, by omega⟩, value, continuation]

/-- The front of a written text is its first character. -/
theorem scan_encodeChar (c : Char) (rest : List UInt8) :
    ∃ first tail, encodeChar c = first :: tail ∧
      scan first (tail ++ rest) = .character c (tail.length + 1) := by
  have valid := toNat_valid c
  have back : Char.ofNat c.toNat = c := Char.ofNat_toNat c
  unfold encodeChar
  generalize c.toNat = n at valid back ⊢
  subst back
  simp only
  split
  · next one =>
    have announced : sequenceLength n = 1 := if_pos one
    refine ⟨_, [], rfl, ?_⟩
    rw [scan, toNat_toUInt8 (by omega)]
    simp only [announced, List.length_nil]
  · split
    · exact ⟨_, _, rfl, scan_two (by omega) (by omega) rest⟩
    · split
      · exact ⟨_, _, rfl, scan_three (by omega) (by omega) (by omega) rest⟩
      · exact ⟨_, _, rfl, scan_four (by omega) (by omega) rest⟩

@[simp] theorem encode_nil : encode [] = [] := rfl

theorem encode_cons (c : Char) (text : Text) : encode (c :: text) = encodeChar c ++ encode text :=
  List.flatMap_cons

theorem encode_append (first second : Text) :
    encode (first ++ second) = encode first ++ encode second :=
  List.flatMap_append

theorem decodeLossy_encode (text : Text) : decodeLossy (encode text) = text := by
  induction text with
  | nil => rw [encode_nil, decodeLossy]
  | cons c rest ih =>
      obtain ⟨first, tail, bytes, scanned⟩ := scan_encodeChar c (encode rest)
      rw [encode_cons, bytes, List.cons_append, decodeLossy]
      simp only [scanned, Nat.add_sub_cancel, List.drop_left, ih]

theorem decodeAt_encode (position : Nat) (text : Text) : decodeAt position (encode text) = .ok text := by
  induction text generalizing position with
  | nil => rw [encode_nil, decodeAt]
  | cons c rest ih =>
      obtain ⟨first, tail, bytes, scanned⟩ := scan_encodeChar c (encode rest)
      rw [encode_cons, bytes, List.cons_append, decodeAt]
      simp only [scanned, Nat.add_sub_cancel, List.drop_left, ih]
      rfl

theorem decode_encode (text : Text) : decode (encode text) = .ok text :=
  decodeAt_encode 0 text

theorem encode_injective {first second : Text} (same : encode first = encode second) :
    first = second := by
  rw [← decodeLossy_encode first, same, decodeLossy_encode]

/-! ## Boundaries -/

/-- The offset stands between two characters of the text, or at an end of it. -/
def Boundary (text : Text) (offset : Nat) : Prop :=
  ∃ count, (encode (text.take count)).length = offset

theorem Boundary.exists_eq_append {text : Text} {offset : Nat} (boundary : Boundary text offset) :
    ∃ front rest, text = front ++ rest ∧ (encode front).length = offset := by
  obtain ⟨count, same⟩ := boundary
  exact ⟨text.take count, text.drop count, (List.take_append_drop count text).symm, same⟩

theorem Boundary.le_length {text : Text} {offset : Nat} (boundary : Boundary text offset) :
    offset ≤ (encode text).length := by
  obtain ⟨front, rest, rfl, rfl⟩ := boundary.exists_eq_append
  rw [encode_append, List.length_append]
  exact Nat.le_add_right _ _

theorem Boundary.exists_drop {text : Text} {offset : Nat} (boundary : Boundary text offset) :
    ∃ rest, (encode text).drop offset = encode rest := by
  obtain ⟨front, rest, rfl, rfl⟩ := boundary.exists_eq_append
  exact ⟨rest, by rw [encode_append, List.drop_left]⟩

/-- What stands between two boundaries is text. -/
theorem Boundary.exists_slice {text : Text} {start stop : Nat} (opens : Boundary text start)
    (closes : Boundary text stop) (order : start ≤ stop) :
    ∃ part, sliceBytes (encode text) start stop = encode part := by
  obtain ⟨front, rest, whole, rfl⟩ := opens.exists_eq_append
  obtain ⟨longer, after, same, rfl⟩ := closes.exists_eq_append
  have cut : sliceBytes (encode text) (encode front).length (encode longer).length =
      (encode longer).drop (encode front).length := by
    rw [sliceBytes, same, encode_append, List.take_left]
  rw [cut]
  rcases List.prefix_or_prefix_of_prefix ⟨rest, whole.symm⟩ ⟨after, same.symm⟩ with
    ⟨part, rfl⟩ | ⟨part, rfl⟩
  · exact ⟨part, by rw [encode_append, List.drop_left]⟩
  · rw [encode_append, List.length_append] at order
    refine ⟨[], List.drop_eq_nil_of_le ?_⟩
    rw [encode_append, List.length_append]
    omega

/-! ## Bytes of ASCII -/

/-- What a scanned sequence is read as where reading is lenient, and its length. -/
def Scan.read : Scan → Char × Nat
  | .character c length => (c, length)
  | .malformed _ length => ('\uFFFD', length)

theorem decodeLossy_cons (first : UInt8) (rest : List UInt8) : decodeLossy (first :: rest) =
    (scan first rest).read.1 :: decodeLossy (rest.drop ((scan first rest).read.2 - 1)) := by
  rw [decodeLossy]
  cases scan first rest <;> rfl

theorem scan_of_ascii {byte : UInt8} (ascii : byte.toNat < 0x80) (rest : List UInt8) :
    scan byte rest = .character (Char.ofNat byte.toNat) 1 := by
  have alone : sequenceLength byte.toNat = 1 := if_pos ascii
  simp only [scan, alone]

/-- A byte of ASCII continues no sequence, which stops there as at the end of all bytes. -/
theorem read_continuation_append {range : Nat × Nat} (high : 0x80 ≤ range.1)
    (value seen missing : Nat) {byte : UInt8} (ascii : byte.toNat < 0x80)
    (front rest : List UInt8) :
    (continuation range value seen missing (front ++ byte :: rest)).read =
        (continuation range value seen missing front).read ∧
      (continuation range value seen missing front).read.2 ≤ seen + front.length := by
  induction missing generalizing range value seen front with
  | zero => simp [continuation, Scan.read]
  | succ missing ih =>
      cases front with
      | nil =>
          have outside : ¬(range.1 ≤ byte.toNat ∧ byte.toNat ≤ range.2) := by omega
          simp [continuation, outside, Scan.read]
      | cons next front =>
          rw [List.cons_append, continuation, continuation, List.length_cons]
          split
          · have later := ih (by decide : 0x80 ≤ (0x80, 0xBF).1)
              (value * 0x40 + next.toNat % 0x40) (seen + 1) front
            constructor
            · exact later.1
            · omega
          · simp [Scan.read]

theorem secondRange_high (lead : Nat) : 0x80 ≤ (secondRange lead).1 := by
  unfold secondRange
  repeat' split
  all_goals decide

theorem read_scan_append (first : UInt8) {byte : UInt8} (ascii : byte.toNat < 0x80)
    (front rest : List UInt8) :
    (scan first (front ++ byte :: rest)).read = (scan first front).read ∧
      (scan first front).read.2 - 1 ≤ front.length := by
  unfold scan
  simp only
  split
  · simp [Scan.read]
  · simp [Scan.read]
  · have reads := read_continuation_append (secondRange_high first.toNat)
      (leadBits (sequenceLength first.toNat) first.toNat) 1 (sequenceLength first.toNat - 1) ascii
      front rest
    constructor
    · exact reads.1
    · omega

/-- Lenient reading can be cut at every byte of ASCII, whatever stands in front of it. -/
theorem decodeLossy_append_cons {byte : UInt8} (ascii : byte.toNat < 0x80)
    (front rest : List UInt8) : decodeLossy (front ++ byte :: rest) =
      decodeLossy front ++ Char.ofNat byte.toNat :: decodeLossy rest := by
  cases front with
  | nil =>
      rw [List.nil_append, decodeLossy_cons, scan_of_ascii ascii, decodeLossy]
      rfl
  | cons first front =>
      obtain ⟨same, within⟩ := read_scan_append first ascii front rest
      rw [List.cons_append, decodeLossy_cons, same, List.drop_append_of_le_length within,
        decodeLossy_append_cons ascii _ rest, decodeLossy_cons first front, List.cons_append]
termination_by front.length
decreasing_by
  simp only [List.length_drop, List.length_cons]
  omega

/-- The character is no character of ASCII, or the null character, which is what a value out of
    range is read as. -/
def High (c : Char) : Prop :=
  c.toNat = 0 ∨ 0x80 ≤ c.toNat

theorem high_ofNat {value : Nat} (least : 0x80 ≤ value) : High (Char.ofNat value) := by
  by_cases valid : value.isValidChar
  · rw [Char.ofNat, dif_pos valid]
    exact .inr least
  · rw [Char.ofNat, dif_neg valid]
    exact .inl rfl

theorem high_replacement : High '\uFFFD' :=
  .inr (by decide)

theorem high_continuation {range : Nat × Nat} {value seen missing : Nat}
    (least : 0x80 ≤ value * 0x40 ^ missing) (bytes : List UInt8) :
    High (continuation range value seen missing bytes).read.1 := by
  induction missing generalizing range value seen bytes with
  | zero =>
      apply high_ofNat
      simpa using least
  | succ missing ih =>
      cases bytes with
      | nil => exact high_replacement
      | cons next rest =>
          rw [continuation]
          split
          · apply ih
            have grows : value * 0x40 ^ (missing + 1) = value * 0x40 * 0x40 ^ missing := by
              rw [Nat.pow_succ, Nat.mul_comm (0x40 ^ missing), Nat.mul_assoc]
            rw [grows] at least
            exact Nat.le_trans least (Nat.mul_le_mul_right _ (Nat.le_add_right _ _))
          · exact high_replacement

/-- The range of a second byte makes up for a lead byte without value bits. -/
theorem high_continuation_succ {range : Nat × Nat} {value seen missing : Nat}
    (least : ∀ n, range.1 ≤ n → n ≤ range.2 →
      0x80 ≤ (value * 0x40 + n % 0x40) * 0x40 ^ missing) (bytes : List UInt8) :
    High (continuation range value seen (missing + 1) bytes).read.1 := by
  cases bytes with
  | nil => exact high_replacement
  | cons next rest =>
      rw [continuation]
      split
      · next inside =>
        rw [Bool.and_eq_true, decide_eq_true_eq, decide_eq_true_eq] at inside
        exact high_continuation (least next.toNat inside.1 inside.2) rest
      · exact high_replacement

/-- The lead bytes of longer sequences, by the length that they announce. -/
theorem sequenceLength_cases (lead : Nat) :
    sequenceLength lead = 0 ∨ sequenceLength lead = 1 ∧ lead < 0x80 ∨
      sequenceLength lead = 2 ∧ 0xC2 ≤ lead ∧ lead < 0xE0 ∨
      sequenceLength lead = 3 ∧ 0xE0 ≤ lead ∧ lead < 0xF0 ∨
      sequenceLength lead = 4 ∧ 0xF0 ≤ lead ∧ lead < 0xF5 := by
  unfold sequenceLength
  repeat' split
  all_goals omega

theorem secondRange_of_three {lead n : Nat} (least : 0xE0 ≤ lead) (most : lead < 0xF0)
    (low : (secondRange lead).1 ≤ n) (high : n ≤ (secondRange lead).2) :
    2 ≤ lead % 0x10 * 0x40 + n % 0x40 := by
  unfold secondRange at low high
  split at low <;> split at high <;> omega

theorem secondRange_of_four {lead n : Nat} (least : 0xF0 ≤ lead) (most : lead < 0xF5)
    (low : (secondRange lead).1 ≤ n) (high : n ≤ (secondRange lead).2) :
    1 ≤ lead % 0x08 * 0x40 + n % 0x40 := by
  unfold secondRange at low high
  rw [if_neg (by omega), if_neg (by omega)] at low high
  split at low <;> split at high <;> omega

/-- A character of ASCII is read from its own byte alone. -/
theorem read_scan_cases (first : UInt8) (rest : List UInt8) :
    (scan first rest).read.1 = Char.ofNat first.toNat ∧ first.toNat < 0x80 ∨
      High (scan first rest).read.1 := by
  unfold scan
  rcases sequenceLength_cases first.toNat with none | ⟨one, ascii⟩ | ⟨two, least, most⟩ |
    ⟨three, least, most⟩ | ⟨four, least, most⟩
  · right
    simp only [none]
    exact high_replacement
  · left
    simp only [one]
    exact ⟨rfl, ascii⟩
  · right
    simp only [two]
    apply high_continuation_succ
    intro n _ _
    simp only [leadBits, if_pos]
    omega
  · right
    simp only [three]
    apply high_continuation_succ
    intro n low high
    have bits := secondRange_of_three least most low high
    simp [leadBits]
    omega
  · right
    simp only [four]
    apply high_continuation_succ
    intro n low high
    have bits := secondRange_of_four least most low high
    simp [leadBits]
    omega

theorem toNat_ofNat_of_ascii {value : Nat} (ascii : value < 0x80) :
    (Char.ofNat value).toNat = value := by
  have valid : value.isValidChar := .inl (by omega)
  rw [Char.ofNat, dif_pos valid]
  rfl

/-- Where a character of ASCII is read, its byte stands. -/
theorem mem_of_mem_decodeLossy {c : Char} (low : c.toNat < 0x80) (filled : c.toNat ≠ 0)
    (bytes : List UInt8) : c ∈ decodeLossy bytes → c.toNat.toUInt8 ∈ bytes := by
  cases bytes with
  | nil =>
      intro member
      rw [decodeLossy] at member
      cases member
  | cons first rest =>
      intro member
      rw [decodeLossy_cons] at member
      rcases List.mem_cons.mp member with here | later
      · rcases read_scan_cases first rest with ⟨same, ascii⟩ | high
        · rw [here, same, toNat_ofNat_of_ascii ascii]
          simp
        · rw [here] at low filled
          rcases high with null | high <;> omega
      · exact List.mem_cons_of_mem _
          (List.mem_of_mem_drop (mem_of_mem_decodeLossy low filled _ later))
termination_by bytes.length
decreasing_by
  simp only [List.length_drop, List.length_cons]
  omega

/-- The bytes of ASCII in a written text are those of its characters of ASCII. -/
theorem mem_of_mem_encode {text : Text} {byte : UInt8} (ascii : byte.toNat < 0x80)
    (member : byte ∈ encode text) : Char.ofNat byte.toNat ∈ text := by
  obtain ⟨front, rest, cut⟩ := List.append_of_mem member
  have whole := decodeLossy_append_cons ascii front rest
  rw [← cut, decodeLossy_encode] at whole
  simp [whole]

end Scholia.Utf8
