import Scholia.Proofs.Binary64

/-! # Numbers made of their bits

The bits of a number are its sign, its exponent and its mantissa one after another. So a finite
magnitude is read off the number that was made of it, and with it significand and exponent.
-/

namespace Scholia.Binary64

open Float.Model (Format UnpackedFloat)
open Float.Model.UnpackedFloat

theorem toNat_append {m n : Nat} (first : BitVec m) (second : BitVec n) :
    (first ++ second).toNat = first.toNat * 2 ^ n + second.toNat := by
  rw [BitVec.toNat_append, ← Nat.shiftLeft_add_eq_or_of_lt second.isLt, Nat.shiftLeft_eq]

theorem toNat_unpackSign (b : BitVec Format.binary64.numBits) :
    (unpackSign b).toNat = b.toNat / 2 ^ 63 := by
  have whole : b.toNat < 2 ^ 64 := b.isLt
  have parts : (unpackSign b).toNat = b.toNat / 2 ^ 63 % 2 := by
    delta unpackSign
    simp [BitVec.extractLsb, Nat.shiftRight_eq_div_pow]
  omega

theorem toNat_unpackExponent (b : BitVec Format.binary64.numBits) :
    (unpackExponent b).toNat = b.toNat / 2 ^ 52 % 2 ^ 11 := by
  simp [unpackExponent, BitVec.extractLsb, Nat.shiftRight_eq_div_pow]

theorem toNat_unpackMantissa (b : BitVec Format.binary64.numBits) :
    (unpackMantissa b).toNat = b.toNat % 2 ^ 52 := by
  simp [unpackMantissa, BitVec.extractLsb]

theorem toBitVec_ofBitVec (bit : BitVec 1) : (Sign.ofBitVec bit).toBitVec = bit := by
  revert bit
  decide

/-- The bits of a number are its sign, its exponent and its mantissa. -/
theorem packComponents_unpack (b : BitVec Format.binary64.numBits) :
    packComponents Format.binary64 (Sign.ofBitVec (unpackSign b)) (unpackExponent b)
      (unpackMantissa b) = b := by
  apply BitVec.eq_of_toNat_eq
  have whole : b.toNat < 2 ^ 64 := b.isLt
  rw [packComponents, toNat_append, toNat_append, toBitVec_ofBitVec, toNat_unpackSign,
    toNat_unpackExponent, toNat_unpackMantissa]
  change (b.toNat / 2 ^ 63 * 2 ^ 11 + _) * 2 ^ 52 + _ = _
  omega

/-- The bits of a number that is neither infinite nor NaN come back from its parts. -/
theorem pack_unpack {b : BitVec Format.binary64.numBits} (finite : unpackExponent b ≠ -1#11) :
    UnpackedFloat.pack Format.binary64 (UnpackedFloat.unpack Format.binary64 b) = b := by
  have exponent : (unpackExponent b).toNat + 1 < 2048 := by
    have inside : (unpackExponent b).toNat < 2048 := (unpackExponent b).isLt
    have other : (unpackExponent b).toNat ≠ 2047 := fun same =>
      finite (BitVec.eq_of_toNat_eq same)
    omega
  have mantissa : (unpackMantissa b).toNat < 2 ^ 52 := (unpackMantissa b).isLt
  have bias : (Format.binary64.exponentBias : Int) = 1023 := rfl
  have width : (Format.binary64.mantissaBitsWithoutImplicit : Int) = 52 := rfl
  have range : 2 ^ Format.binary64.exponentBits = 2048 := rfl
  have bits : Format.binary64.mantissaBits = 53 := rfl
  conv_rhs => rw [← packComponents_unpack b]
  delta UnpackedFloat.unpack
  dsimp only
  rw [if_neg finite]
  by_cases none : unpackExponent b = 0#_
  · rw [if_pos none]
    by_cases zero : unpackMantissa b = 0#_
    · rw [dif_pos zero, none, zero]
      rfl
    · have short : (unpackMantissa b).toNat.log2 < 52 := by
        rw [Nat.log2_lt]
        · exact mantissa
        · exact fun same => zero (BitVec.eq_of_toNat_eq same)
      rw [dif_neg zero]
      delta UnpackedFloat.pack
      dsimp only
      rw [none]
      simp only [bias, width, range, bits]
      rw [if_neg (by decide), if_neg (by omega), BitVec.ofNat_toNat, BitVec.setWidth_eq]
  · have normal : (1#1 ++ unpackMantissa b).toNat = 2 ^ 52 + (unpackMantissa b).toNat :=
      toNat_append _ _
    have full : (2 ^ 52 + (unpackMantissa b).toNat).log2 = 52 :=
      (Nat.log2_eq_iff (by omega)).mpr ⟨by omega, by omega⟩
    have biased : (((unpackExponent b).toNat : Int) - (1023 + 52) + 1023 + 52).toNat =
        (unpackExponent b).toNat := by omega
    rw [if_neg none]
    delta UnpackedFloat.pack
    dsimp only
    simp only [bias, width, range, bits, normal, full, biased]
    rw [if_neg (by omega), if_pos trivial]
    congr 1
    · rw [BitVec.ofNat_toNat, BitVec.setWidth_eq]
    · apply BitVec.eq_of_toNat_eq
      rw [BitVec.toNat_ofNat]
      change (2 ^ 52 + (unpackMantissa b).toNat) % 2 ^ 52 = _
      omega

/-- A finite magnitude has the bits that it was made of. -/
theorem bits_ofMagnitude {magnitude : Nat} (finite : magnitude < infinityBits) :
    bits (ofMagnitude false magnitude) = magnitude := by
  have small : magnitude < 2047 * 2 ^ 52 := finite
  have number : (UInt64.ofNat magnitude).toBitVec.toNat = magnitude := by
    rw [UInt64.toNat_toBitVec, UInt64.toNat_ofNat']
    omega
  have known : @unpackExponent Format.binary64 (UInt64.ofNat magnitude).toBitVec ≠ -1#11 := by
    intro same
    have top := congrArg BitVec.toNat same
    rw [toNat_unpackExponent, number] at top
    change _ = 2047 at top
    omega
  rw [ofMagnitude, if_neg Bool.false_ne_true, bits]
  change (UnpackedFloat.pack Format.binary64 (UnpackedFloat.unpack Format.binary64
    (UInt64.ofNat magnitude).toBitVec)).toNat = magnitude
  rw [pack_unpack known, number]

theorem magnitudeBits_ofMagnitude {magnitude : Nat} (finite : magnitude < infinityBits) :
    magnitudeBits (ofMagnitude false magnitude) = magnitude := by
  have small : magnitude < 2047 * 2 ^ 52 := finite
  rw [magnitudeBits, bits_ofMagnitude finite]
  change magnitude % 2 ^ 63 = magnitude
  omega

theorem isNegative_ofMagnitude {magnitude : Nat} (finite : magnitude < infinityBits) :
    isNegative (ofMagnitude false magnitude) = false := by
  have small : magnitude < 2047 * 2 ^ 52 := finite
  rw [isNegative, bits_ofMagnitude finite]
  change decide (2 ^ 63 ≤ magnitude) = false
  exact decide_eq_false (by omega)

/-- A finite number with a significand of 53 bits, and its exponent. -/
structure Normal (x : Float) (m : Nat) (q : Int) : Prop where
  positive : isNegative x = false
  significand : significand x = m
  exponent : exponent x = q

theorem normal_ofMagnitude {count m : Nat} (few : count ≤ 2040) (low : 2 ^ 52 ≤ m)
    (high : m < 2 ^ 53) :
    Normal (ofMagnitude false (count * leadingBit + m)) m (count + leastExponent) := by
  have leading : leadingBit = 2 ^ 52 := rfl
  have finite : count * leadingBit + m < infinityBits := by
    change count * 2 ^ 52 + m < 2047 * 2 ^ 52
    omega
  have magnitude := magnitudeBits_ofMagnitude finite
  rw [leading] at magnitude ⊢
  have large : ¬count * 2 ^ 52 + m < 2 ^ 52 := by omega
  constructor
  case positive => exact isNegative_ofMagnitude finite
  case significand =>
    rw [significand, magnitude, leading, if_neg large]
    omega
  case exponent =>
    rw [exponent, magnitude, leading, if_neg large]
    have whole : (count * 2 ^ 52 + m) / 2 ^ 52 = count + 1 := by omega
    rw [whole]
    omega

/-- A number that may have a fraction is rounded up by a division of its significand. -/
theorem Normal.ceiling_eq {x : Float} {m : Nat} {q : Int} (normal : Normal x m q) (low : q < 0) :
    ceiling x = -(-(m : Int) / (2 ^ (-q).toNat : Nat)) := by
  have positive : 0 < 2 ^ (-q).toNat := Nat.two_pow_pos _
  have whole : truncate x = (m / 2 ^ (-q).toNat : Nat) := by
    rw [truncate, normal.positive, if_neg Bool.false_ne_true, wholePart, normal.exponent,
      normal.significand, if_neg (by omega), twoTo_eq]
  have even : isWhole x = decide (2 ^ (-q).toNat ∣ m) := by
    rw [isWhole, normal.exponent, normal.significand, decide_eq_false (by omega), Bool.false_or,
      twoTo_eq, decide_eq_decide.mpr Nat.dvd_iff_mod_eq_zero]
    rfl
  rw [ceiling, normal.positive, Bool.false_or, even, whole, Int.neg_ediv,
    Int.sign_eq_one_of_pos (by omega), Int.natCast_ediv]
  by_cases divides : 2 ^ (-q).toNat ∣ m
  · rw [if_pos (decide_eq_true divides), if_pos (Int.natCast_dvd_natCast.mpr divides)]
    omega
  · rw [decide_eq_false divides, if_neg Bool.false_ne_true,
      if_neg (mt Int.natCast_dvd_natCast.mp divides)]
    omega

end Scholia.Binary64
