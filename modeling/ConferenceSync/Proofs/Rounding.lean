import Mathlib.Algebra.Order.Field.Basic
import Mathlib.Algebra.Order.Field.Power
import Mathlib.Data.Nat.Bitwise
import Mathlib.Data.Rat.Cast.Order
import Mathlib.Tactic.Linarith
import Mathlib.Tactic.NormNum
import Mathlib.Tactic.Positivity
import Mathlib.Tactic.Ring
import ConferenceSync.Number.Binary64

/-!
# Rounding gives a number

A fraction is rounded to at most `2 ^ 53` units of the exponent that is chosen for it, so the
fields of the result never run into each other and the result is finite or infinite.

## Main definitions

* `Binary64.IsNumber` — that a number is finite or infinite

## Main results

* `Binary64.isNumber_ofRatio`, `Binary64.isNumber_mul`, `Binary64.isNumber_div`,
  `Binary64.isNumber_neg` — arithmetic leads to nothing else
-/

namespace ConferenceSync.Number

/-! ## Powers with whole exponents -/

section Powers

variable {k : Int}

theorem natPow_toNat (b : Nat) (nonneg : 0 ≤ k) : ((Nat.pow b k.toNat : Nat) : ℚ) = b ^ k := by
  conv_rhs => rw [← Int.toNat_of_nonneg nonneg, zpow_natCast]
  exact_mod_cast rfl

theorem natPow_toNat_neg (b : Nat) (negative : ¬0 ≤ k) :
    (b : ℚ) ^ k = ((Nat.pow b (-k).toNat : Nat) : ℚ)⁻¹ := by
  rw [natPow_toNat b (by omega), zpow_neg, inv_inv]

/-- A power with a negative exponent cancels against the power that stands for it. -/
theorem zpow_mul_natPow_toNat_neg {b : Nat} (pos : 0 < b) (negative : ¬0 ≤ k) :
    (b : ℚ) ^ k * (Nat.pow b (-k).toNat : Nat) = 1 := by
  rw [natPow_toNat_neg b negative]
  exact inv_mul_cancel₀ (by exact_mod_cast (Nat.pow_pos pos).ne')

theorem natPow_pos {b n : Nat} (pos : 0 < b) : (0 : ℚ) < (Nat.pow b n : Nat) := by
  exact_mod_cast Nat.pow_pos pos

end Powers

/-! ## Quotients -/

/-- A quotient of at most a natural number is rounded to at most that number. -/
theorem roundDiv_le {num den n : Nat} (below : num < n * den) : roundDiv num den ≤ n := by
  have quotient : num / den < n := Nat.div_lt_of_lt_mul (by rwa [Nat.mul_comm])
  rw [roundDiv]
  split <;> omega

theorem roundDiv_zero_le (num : Nat) : roundDiv num 0 ≤ 1 := by
  rw [roundDiv, Nat.div_zero]
  split <;> omega

namespace Binary64

/-- Whether a number is finite or infinite. -/
def IsNumber (x : Binary64) : Prop := x.isFinite = true ∨ x.isInfinite = true

section Fields

variable (negative : Bool) {e f : Nat}

theorem toNat_bits_ofFields (he : e < 0x800) (hf : f < fractionCount) :
    (ofFields negative e f).bits.toNat =
      (if negative then signWeight else 0) + e * fractionCount + f := by
  rw [ofFields, UInt64.toNat_ofNat', Nat.mod_eq_of_lt]
  simp only [fractionCount, signWeight] at *
  split <;> omega

theorem exponentField_ofFields (he : e < 0x800) (hf : f < fractionCount) :
    (ofFields negative e f).exponentField = e := by
  rw [exponentField, toNat_bits_ofFields negative he hf]
  simp only [fractionCount, signWeight] at *
  split <;> omega

theorem fractionField_ofFields (he : e < 0x800) (hf : f < fractionCount) :
    (ofFields negative e f).fractionField = f := by
  rw [fractionField, toNat_bits_ofFields negative he hf]
  simp only [fractionCount, signWeight] at *
  split <;> omega

theorem isNumber_ofFields (he : e < 2047) (hf : f < fractionCount) :
    (ofFields negative e f).IsNumber := by
  left
  rw [isFinite, exponentField_ofFields negative (by omega) hf, bne_iff_ne]
  omega

theorem isNumber_zero : (zero negative).IsNumber :=
  isNumber_ofFields negative (by decide) (by decide)

theorem isNumber_infinity : (infinity negative).IsNumber := by
  right
  rw [isInfinite, infinity, exponentField_ofFields negative (by decide) (by decide),
    fractionField_ofFields negative (by decide) (by decide)]
  rfl

/-- A magnitude of few enough digits is a number. -/
theorem isNumber_ofMagnitude {m : Nat} {q : Int} (small : m ≤ 2 * fractionCount) :
    (ofMagnitude negative m q).IsNumber := by
  -- If rounding has led to one digit more, the magnitude is a power of two and can be halved.
  have shortened : ∀ (m : Nat) (q : Int), m < 2 * fractionCount →
      (if m < fractionCount then ofFields negative 0 m
        else if 971 < q then infinity negative
        else ofFields negative (q + 1075).toNat (m - fractionCount)).IsNumber := by
    intro m q below
    split
    · next few => exact isNumber_ofFields negative (by decide) few
    · split
      · exact isNumber_infinity negative
      · exact isNumber_ofFields negative (by omega) (by omega)
  rw [ofMagnitude]
  split
  next m' q' same =>
  split at same
  · obtain ⟨rfl, rfl⟩ := Prod.mk.inj same
    exact shortened _ _ (by decide)
  · next other =>
    obtain ⟨rfl, rfl⟩ := Prod.mk.inj same
    exact shortened _ _ (by omega)

end Fields

/-! ## Fractions -/

variable {num den : Nat} {k : Int}

private theorem pow_two_toNat (nonneg : 0 ≤ k) : ((Nat.pow 2 k.toNat : Nat) : ℚ) = 2 ^ k :=
  natPow_toNat 2 nonneg

private theorem pow_two_mul_toNat_neg (negative : ¬0 ≤ k) :
    (2 : ℚ) ^ k * (Nat.pow 2 (-k).toNat : Nat) = 1 :=
  zpow_mul_natPow_toNat_neg Nat.two_pos negative

theorem ratioBelowPow_iff : ratioBelowPow num den k = true ↔ (num : ℚ) < den * 2 ^ k := by
  rw [ratioBelowPow]
  split
  · next nonneg =>
    rw [decide_eq_true_eq, ← pow_two_toNat nonneg]
    exact_mod_cast Iff.rfl
  · next negative =>
    have scaled : (den : ℚ) * 2 ^ k * (Nat.pow 2 (-k).toNat : Nat) = den := by
      rw [mul_assoc, pow_two_mul_toNat_neg negative, mul_one]
    rw [decide_eq_true_eq, ← mul_lt_mul_iff_of_pos_right (natPow_pos Nat.two_pos), scaled]
    exact_mod_cast Iff.rfl

/-- A fraction below `2 ^ 53` units is rounded to at most that many. -/
theorem roundScaled_le (below : (num : ℚ) < 2 * fractionCount * (den * 2 ^ k)) :
    roundScaled num den k ≤ 2 * fractionCount := by
  rw [roundScaled]
  split
  · next nonneg =>
    refine roundDiv_le ?_
    rw [← pow_two_toNat nonneg] at below
    exact_mod_cast below
  · next negative =>
    refine roundDiv_le ?_
    have scaled : 2 * (fractionCount : ℚ) * (den * 2 ^ k) * (Nat.pow 2 (-k).toNat : Nat) =
        2 * fractionCount * den := by
      rw [mul_assoc, mul_assoc (den : ℚ), pow_two_mul_toNat_neg negative, mul_one]
    have product := mul_lt_mul_of_pos_right below
      (natPow_pos Nat.two_pos : (0 : ℚ) < (Nat.pow 2 (-k).toNat : Nat))
    rw [scaled] at product
    exact_mod_cast product

/-- A fraction is less than twice the power of two that its logarithms give. -/
theorem lt_pow_log2 (pos : 0 < den) :
    (num : ℚ) < den * 2 ^ ((Nat.log2 num : Int) - (Nat.log2 den : Int) + 1) := by
  have above : (num : ℚ) < 2 ^ (Nat.log2 num + 1) := by exact_mod_cast Nat.lt_log2_self
  have below : (2 : ℚ) ^ Nat.log2 den ≤ den := by
    exact_mod_cast Nat.log2_self_le (by omega)
  have split : (2 : ℚ) ^ ((Nat.log2 num : Int) - (Nat.log2 den : Int) + 1) =
      2 ^ (Nat.log2 num + 1) / 2 ^ Nat.log2 den := by
    rw [← zpow_natCast, ← zpow_natCast, ← zpow_sub₀ (by norm_num)]
    congr 1
    push_cast
    ring
  rw [split, mul_div_assoc', lt_div_iff₀ (by positivity)]
  calc (num : ℚ) * 2 ^ Nat.log2 den < 2 ^ (Nat.log2 num + 1) * 2 ^ Nat.log2 den :=
        mul_lt_mul_of_pos_right above (by positivity)
    _ ≤ 2 ^ (Nat.log2 num + 1) * den := mul_le_mul_of_nonneg_left below (by positivity)
    _ = den * 2 ^ (Nat.log2 num + 1) := mul_comm _ _

/-- The exponent that is chosen for a fraction: the logarithms' difference, or one less. -/
theorem lt_pow_size {e : Int} (pos : 0 < den)
    (size : (if ratioBelowPow num den ((Nat.log2 num : Int) - (Nat.log2 den : Int)) = true
      then (Nat.log2 num : Int) - (Nat.log2 den : Int) - 1
      else (Nat.log2 num : Int) - (Nat.log2 den : Int)) = e) :
    (num : ℚ) < den * 2 ^ (e + 1) := by
  rw [← size]
  split
  · next small => rwa [sub_add_cancel, ← ratioBelowPow_iff]
  · exact lt_pow_log2 pos

/-- A fraction below a power of two is rounded to at most `2 ^ 53` units of the exponent that is 52
below the power's, or of the least one. -/
theorem roundScaled_le_of_lt_pow {e : Int} (pos : 0 < den)
    (small : (num : ℚ) < den * 2 ^ (e + 1)) :
    roundScaled num den (max (e - 52) (-1074)) ≤ 2 * fractionCount := by
  refine roundScaled_le ?_
  have digits : (2 : ℚ) ^ (e + 1) ≤ 2 ^ max (e - 52) (-1074) * 2 ^ (53 : Int) := by
    rw [← zpow_add₀ (by norm_num)]
    exact zpow_le_zpow_right₀ (by norm_num) (by omega)
  have posQ : (0 : ℚ) < den := by exact_mod_cast pos
  calc (num : ℚ) < den * 2 ^ (e + 1) := small
    _ ≤ den * (2 ^ max (e - 52) (-1074) * 2 ^ (53 : Int)) :=
      mul_le_mul_of_nonneg_left digits posQ.le
    _ = 2 * fractionCount * (den * 2 ^ max (e - 52) (-1074)) := by
      norm_num
      ring

theorem roundScaled_zero_le (num : Nat) (q : Int) :
    roundScaled num 0 q ≤ 2 * fractionCount := by
  rw [roundScaled, Nat.zero_mul]
  split <;> exact (roundDiv_zero_le _).trans (by decide)

/-- Rounding a fraction gives a number. -/
theorem isNumber_ofRatio (negative : Bool) (num den : Nat) :
    (ofRatio negative num den).IsNumber := by
  rw [ofRatio]
  split
  · exact isNumber_zero negative
  · dsimp only
    generalize size : (if ratioBelowPow num den ((Nat.log2 num : Int) - (Nat.log2 den : Int)) = true
      then (Nat.log2 num : Int) - (Nat.log2 den : Int) - 1
      else (Nat.log2 num : Int) - (Nat.log2 den : Int)) = e
    split
    · exact isNumber_infinity negative
    · split
      · exact isNumber_zero negative
      · refine isNumber_ofMagnitude negative ?_
        -- A fraction without a denominator is never rounded, but the function is total.
        rcases Nat.eq_zero_or_pos den with none | pos
        · subst none
          exact roundScaled_zero_le num _
        · exact roundScaled_le_of_lt_pow pos (lt_pow_size pos size)

theorem isNumber_ofScaledRatio (negative : Bool) (num den : Nat) (q : Int) :
    (ofScaledRatio negative num den q).IsNumber := by
  rw [ofScaledRatio]
  split <;> exact isNumber_ofRatio _ _ _

theorem isNumber_mul (x y : Binary64) : (x.mul y).IsNumber := isNumber_ofScaledRatio ..

theorem isNumber_div (x y : Binary64) : (x.div y).IsNumber := isNumber_ofScaledRatio ..

theorem isNumber_ofNat (n : Nat) : (ofNat n).IsNumber := isNumber_ofRatio ..

theorem isNumber_ofInt (n : Int) : (ofInt n).IsNumber := isNumber_ofRatio ..

/-- Changing the sign of a number gives a number. -/
theorem isNumber_neg {x : Binary64} (number : x.IsNumber) : x.neg.IsNumber := by
  -- Only the highest bit changes, and neither field has a part of it.
  have low : x.neg.bits.toNat % 2 ^ 63 = x.bits.toNat % 2 ^ 63 := by
    rw [neg, UInt64.toNat_xor, Nat.xor_mod_two_pow]
    simp
  have exponents : x.neg.exponentField = x.exponentField := by
    simp only [exponentField, fractionCount]
    omega
  have fractions : x.neg.fractionField = x.fractionField := by
    simp only [fractionField, fractionCount]
    omega
  simpa only [IsNumber, isFinite, isInfinite, exponents, fractions] using number

end Binary64

end ConferenceSync.Number
