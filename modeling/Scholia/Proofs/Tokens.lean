import Mathlib.Data.Rat.Floor
import Scholia.Oracle.Cost
import Scholia.Proofs.Binary64.Bits

/-! # Exact token estimates

A length of at most 53 bits, divided by the four characters of a token, is a floating-point number
without rounding. So the estimate of such a length is the exact quotient, rounded up.
-/

namespace Scholia.Tokens

open Binary64

/-- A quarter of a short length is a significand of 53 bits at the exponent its length in bits
    determines. -/
theorem exists_quarter {length : Nat} (positive : 0 < length) (short : length ≤ 2 ^ 53) :
    length.log2 ≤ 53 ∧
      ∃ m, m * 4 = length * 2 ^ (54 - length.log2) ∧ 2 ^ 52 ≤ m ∧ m < 2 ^ 53 := by
  have below : 2 ^ length.log2 ≤ length := Nat.log2_self_le (Nat.ne_of_gt positive)
  have above : length < 2 ^ (length.log2 + 1) := Nat.lt_log2_self
  have few : length.log2 < 54 := (Nat.log2_lt (Nat.ne_of_gt positive)).mpr (by omega)
  refine ⟨by omega, ?_⟩
  by_cases longest : length.log2 = 53
  · rw [longest] at below ⊢
    obtain rfl : length = 2 ^ 53 := by omega
    exact ⟨2 ^ 52, by decide, by decide, by decide⟩
  · obtain ⟨rest, split⟩ : ∃ rest, length.log2 + rest = 52 := ⟨52 - length.log2, by omega⟩
    have shift : 54 - length.log2 = rest + 2 := by omega
    have positive : 0 < 2 ^ rest := Nat.two_pow_pos rest
    refine ⟨length * 2 ^ rest, by rw [shift, Nat.pow_add, Nat.mul_assoc], ?_, ?_⟩
    · calc 2 ^ 52 = 2 ^ length.log2 * 2 ^ rest := by rw [← Nat.pow_add, split]
        _ ≤ length * 2 ^ rest := Nat.mul_le_mul_right _ below
    · calc length * 2 ^ rest < 2 ^ (length.log2 + 1) * 2 ^ rest :=
            Nat.mul_lt_mul_of_pos_right above positive
        _ = 2 ^ 53 := by rw [← Nat.pow_add]; congr 1; omega

theorem divNearest_mul (value : Nat) {denominator : Nat} (positive : 0 < denominator) :
    divNearest (value * denominator) denominator = value := by
  unfold divNearest
  rw [Nat.mul_mod_left, Nat.mul_div_cancel value positive]
  exact if_pos positive

/-- The quotient is not rounded: no bit of a short length is lost. -/
theorem exists_ofQuotient_quarter {length : Nat} (positive : 0 < length)
    (short : length ≤ 2 ^ 53) : ∃ quotient m, ofQuotient? length 4 = some quotient ∧
      m * 4 = length * 2 ^ (54 - length.log2) ∧
      Normal quotient m (length.log2 - 54) := by
  obtain ⟨few, m, quarter, low, high⟩ := exists_quarter positive short
  have back : (-((length.log2 : Int) - 54)).toNat = 54 - length.log2 := by omega
  have parts : scaled length 4 (length.log2 - 54) = (m * 4, 4) := by
    rw [scaled, if_neg (by omega), back, twoTo_eq, quarter]
  have exponent : quotientExponent length 4 = length.log2 - 54 := by
    have guess : (length.log2 : Int) - (4 : Nat).log2 - 52 = length.log2 - 54 := by
      have two : (4 : Nat).log2 = 2 := by decide
      omega
    unfold quotientExponent
    have leading : leadingBit = 2 ^ 52 := rfl
    rw [guess]
    dsimp only
    rw [parts, leading]
    dsimp only
    rw [if_neg (by omega), leastExponent]
    omega
  have bits : quotientBits length 4 = (1020 + length.log2) * leadingBit + m := by
    unfold quotientBits
    have count : ((length.log2 : Int) - 54 - leastExponent).toNat = 1020 + length.log2 := by
      rw [leastExponent]
      omega
    rw [if_neg (Nat.ne_of_gt positive), exponent]
    dsimp only
    rw [parts, count, divNearest_mul m (by decide)]
  refine ⟨ofMagnitude false ((1020 + length.log2) * leadingBit + m), m, ?_, quarter, ?_⟩
  · have finite : (1020 + length.log2) * leadingBit + m < infinityBits := by
      change (1020 + length.log2) * 2 ^ 52 + m < 2047 * 2 ^ 52
      omega
    have sign : decide ((length : Int) < 0) = false := decide_eq_false (by omega)
    unfold ofQuotient?
    rw [Int.natAbs_natCast, bits, sign]
    exact if_pos finite
  · have same : ((length.log2 : Int) - 54) = (1020 + length.log2 : Nat) + leastExponent := by
      rw [leastExponent]
      omega
    rw [same]
    exact normal_ofMagnitude (by omega) low high

/-- The estimate is a quarter of the length, rounded up. -/
theorem estimate_eq {length : Int} (low : 0 ≤ length) (high : length ≤ 2 ^ 53) :
    estimate length = .ok ⌈(length : ℚ) / 4⌉ := by
  obtain ⟨length, rfl⟩ := Int.eq_ofNat_of_zero_le low
  have short : length ≤ 2 ^ 53 := by exact_mod_cast high
  have up : ⌈((length : Int) : ℚ) / 4⌉ = -(-(length : Int) / 4) := by
    exact_mod_cast Rat.ceil_intCast_div_natCast length 4
  rw [up]
  rcases Nat.eq_zero_or_pos length with rfl | positive
  · decide +kernel
  · obtain ⟨quotient, m, found, quarter, normal⟩ := exists_ofQuotient_quarter positive short
    have few := (exists_quarter positive short).1
    have back : (-((length.log2 : Int) - 54)).toNat = 54 - length.log2 := by omega
    have same : -(m : Int) * 4 = -(length : Int) * (2 ^ (54 - length.log2) : Nat) := by
      rw [Int.neg_mul, Int.neg_mul]
      exact_mod_cast congrArg (fun value : Nat => -(value : Int)) quarter
    unfold estimate charactersPerToken
    rw [found]
    dsimp only
    rw [normal.ceiling_eq (by omega), back,
      ← Int.mul_ediv_mul_of_pos_left _ _ (by decide : (0 : Int) < 4), same, Int.mul_comm _ 4,
      Int.mul_ediv_mul_of_pos_left _ _ (by exact_mod_cast Nat.two_pow_pos _)]

end Scholia.Tokens
