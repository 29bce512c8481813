import Mathlib.Tactic.Ring
import Scholia.Binary64.Basic

/-! # Quotients in the range of floating-point numbers

A quotient is beyond all finite numbers only if its numerator is longer than its denominator by
more than the greatest exponent. The bound is read off the lengths in bits: they determine the
exponent up to one, and the significand that is left never has more than a bit too many.
-/

namespace Scholia.Binary64

theorem twoTo_eq (n : Nat) : twoTo n = 2 ^ n := rfl

theorem log2_mul_twoTo_le (value count : Nat) :
    (value * twoTo count).log2 ≤ value.log2 + count := by
  rw [twoTo_eq]
  by_cases none : value = 0
  · rw [none, Nat.zero_mul, Nat.log2_zero]
    exact Nat.zero_le _
  · have some : value * 2 ^ count ≠ 0 := Nat.mul_ne_zero none (Nat.ne_of_gt (Nat.two_pow_pos count))
    have below : value * 2 ^ count < 2 ^ (value.log2 + 1 + count) := by
      rw [Nat.pow_add]
      exact Nat.mul_lt_mul_of_pos_right Nat.lt_log2_self (Nat.two_pow_pos count)
    have length := (Nat.log2_lt some).mpr below
    omega

theorem divNearest_le {numerator denominator bound : Nat} (positive : 0 < denominator)
    (small : numerator < bound * denominator) : divNearest numerator denominator ≤ bound := by
  have whole : numerator / denominator < bound := (Nat.div_lt_iff_lt_mul positive).mpr small
  unfold divNearest
  dsimp only
  split
  · omega
  · split
    · omega
    · split
      · omega
      · omega

/-- The exponent is determined by the lengths up to one, unless it is the least one. -/
theorem quotientExponent_bounds (numerator denominator : Nat) :
    (numerator.log2 : Int) - denominator.log2 - 53 ≤ quotientExponent numerator denominator ∧
      quotientExponent numerator denominator ≤
        max leastExponent ((numerator.log2 : Int) - denominator.log2 - 52) := by
  unfold quotientExponent
  dsimp only
  split
  · omega
  · omega

/-- At an exponent close to that of a quotient, its significand has few bits. -/
theorem scaled_lt {numerator denominator : Nat} (positive : 0 < denominator) {q : Int}
    (close : (numerator.log2 : Int) - denominator.log2 - 53 ≤ q) :
    (scaled numerator denominator q).1 < 2 ^ 54 * (scaled numerator denominator q).2 := by
  have above : numerator < 2 ^ (numerator.log2 + 1) := Nat.lt_log2_self
  have below : 2 ^ denominator.log2 ≤ denominator := Nat.log2_self_le (Nat.ne_of_gt positive)
  unfold scaled
  split
  · next whole =>
    rw [twoTo_eq]
    calc numerator < 2 ^ (numerator.log2 + 1) := above
      _ ≤ 2 ^ (54 + denominator.log2 + q.toNat) := Nat.pow_le_pow_right (by decide) (by omega)
      _ = 2 ^ 54 * (2 ^ denominator.log2 * 2 ^ q.toNat) := by rw [Nat.pow_add, Nat.pow_add]; ring
      _ ≤ 2 ^ 54 * (denominator * 2 ^ q.toNat) := by gcongr
  · next part =>
    rw [twoTo_eq]
    calc numerator * 2 ^ (-q).toNat < 2 ^ (numerator.log2 + 1) * 2 ^ (-q).toNat :=
          Nat.mul_lt_mul_of_pos_right above (Nat.two_pow_pos _)
      _ = 2 ^ (numerator.log2 + 1 + (-q).toNat) := (Nat.pow_add ..).symm
      _ ≤ 2 ^ (54 + denominator.log2) := Nat.pow_le_pow_right (by decide) (by omega)
      _ = 2 ^ 54 * 2 ^ denominator.log2 := Nat.pow_add ..
      _ ≤ 2 ^ 54 * denominator := by gcongr

theorem scaled_pos {numerator denominator : Nat} (positive : 0 < denominator) (q : Int) :
    0 < (scaled numerator denominator q).2 := by
  unfold scaled
  split
  · exact Nat.mul_pos positive (Nat.two_pow_pos _)
  · exact positive

/-- The bits of a quotient are made of its exponent and its significand. -/
theorem quotientBits_le {numerator denominator exponent significand : Nat} {q : Int}
    (same : quotientExponent numerator denominator = q)
    (short : (q - leastExponent).toNat ≤ exponent)
    (few : divNearest (scaled numerator denominator q).1 (scaled numerator denominator q).2 ≤
      significand) :
    quotientBits numerator denominator ≤ exponent * leadingBit + significand := by
  unfold quotientBits
  rw [same]
  -- the leading bit is a great number, which is not to be evaluated
  generalize leadingBit = bit
  split
  · exact Nat.zero_le _
  · exact Nat.add_le_add (Nat.mul_le_mul_right bit short) few

theorem quotientBits_lt {numerator denominator : Nat} (positive : 0 < denominator)
    (small : numerator.log2 ≤ denominator.log2 + 1018) :
    quotientBits numerator denominator < infinityBits := by
  obtain ⟨q, same⟩ : ∃ q, quotientExponent numerator denominator = q := ⟨_, rfl⟩
  have ⟨above, below⟩ := quotientExponent_bounds numerator denominator
  rw [same] at above below
  have few := divNearest_le (scaled_pos positive q) (scaled_lt positive above)
  have short : (q - leastExponent).toNat ≤ 2040 := by
    rw [leastExponent] at below ⊢
    omega
  calc quotientBits numerator denominator ≤ 2040 * leadingBit + 2 ^ 54 :=
        quotientBits_le same short few
    _ < infinityBits := by decide

/-- A quotient in the range of finite numbers is rounded to one. -/
theorem exists_ofQuotient {numerator : Int} {denominator : Nat} (positive : 0 < denominator)
    (small : numerator.natAbs.log2 ≤ denominator.log2 + 1018) :
    ∃ nearest, ofQuotient? numerator denominator = some nearest :=
  ⟨_, if_pos (quotientBits_lt positive small)⟩

end Scholia.Binary64
