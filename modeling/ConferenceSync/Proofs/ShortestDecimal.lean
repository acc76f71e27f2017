import Mathlib.Algebra.Order.Field.Basic
import Mathlib.Algebra.Order.Field.Power
import Mathlib.Data.Rat.Cast.Order
import Mathlib.Tactic.FieldSimp
import Mathlib.Tactic.Linarith
import Mathlib.Tactic.NormNum
import Mathlib.Tactic.Positivity
import Mathlib.Tactic.Ring
import ConferenceSync.Number.Decimal
import ConferenceSync.Proofs.Rounding

/-!
# The shortest decimal belongs to one number

What reads back as a number is an interval around it, and the intervals of different magnitudes do
not meet. Seventeen digits are always enough to come that near, so the shortest decimal of a number
lies in its interval and in no other.

## Main definitions

* `Decimal.value` — the rational number that a decimal stands for
* `Binary64.Near` — that a rational number reads back as a magnitude

## Main results

* `Binary64.near_shortest` — the shortest decimal of a number reads back as the number
* `Binary64.eq_of_near` — nothing reads back as two magnitudes
-/

namespace ConferenceSync.Number

/-- The rational number that a decimal stands for. -/
def Decimal.value (d : Decimal) : ℚ := d.digits * 10 ^ d.exponent

namespace Binary64

/-- A quarter of the distance to the next magnitude. -/
def quarter (x : Binary64) : ℚ := 2 ^ (x.exponent - 2)

/-- The quarters of the lower end of what reads back as a magnitude. -/
def lowQuarters (x : Binary64) : Nat :=
  -- Below a power of two the magnitudes lie closer together.
  if x.fractionField = 0 && 1 < x.exponentField then 4 * x.mantissa - 1 else 4 * x.mantissa - 2

/-- Whether a rational number reads back as the magnitude of a number. The ends do so only if the
magnitude is even. -/
def Near (x : Binary64) (w : ℚ) : Prop :=
  if x.mantissa % 2 = 0 then
    x.lowQuarters * x.quarter ≤ w ∧ w ≤ (4 * x.mantissa + 2) * x.quarter
  else x.lowQuarters * x.quarter < w ∧ w < (4 * x.mantissa + 2) * x.quarter

theorem quarter_pos (x : Binary64) : 0 < x.quarter := by
  unfold quarter
  positivity

/-! ## Magnitudes -/

theorem fractionField_lt (x : Binary64) : x.fractionField < fractionCount :=
  Nat.mod_lt _ (by decide)

theorem mantissa_lt (x : Binary64) : x.mantissa < 2 * fractionCount := by
  have below := x.fractionField_lt
  rw [mantissa]
  split <;> omega

/-- A magnitude with few digits has the least exponent. -/
theorem exponent_cases (x : Binary64) :
    x.exponent = -1074 ∨ -1074 < x.exponent ∧ fractionCount ≤ x.mantissa := by
  rw [exponent, mantissa]
  split <;> omega

theorem lowQuarters_cases (x : Binary64) :
    x.lowQuarters = 4 * x.mantissa - 1 ∧ x.mantissa = fractionCount ∧ -1074 < x.exponent ∨
      x.lowQuarters = 4 * x.mantissa - 2 ∧ (x.mantissa = fractionCount → x.exponent = -1074) := by
  rw [lowQuarters, mantissa, exponent]
  split
  · next least =>
    simp only [Bool.and_eq_true, decide_eq_true_eq] at least
    left
    split <;> omega
  · next other =>
    simp only [Bool.and_eq_true, decide_eq_true_eq, not_and, not_lt] at other
    right
    have below := x.fractionField_lt
    split <;> omega

/-- The sign and the two fields are all of a number. -/
theorem eq_of_fields {x y : Binary64} (sign : x.isNegative = y.isNegative)
    (exponents : x.exponentField = y.exponentField)
    (fractions : x.fractionField = y.fractionField) : x = y := by
  have boundX := x.bits.toNat_lt
  have boundY := y.bits.toNat_lt
  have signs : signWeight ≤ x.bits.toNat ↔ signWeight ≤ y.bits.toNat := by
    simpa [isNegative] using sign
  simp only [exponentField, fractionField, fractionCount, signWeight] at exponents fractions signs
  have bits : x.bits.toNat = y.bits.toNat := by omega
  cases x
  cases y
  exact congrArg mk (UInt64.toNat_inj.1 bits)

/-- The sign and the magnitude are all of a number. -/
theorem eq_of_magnitude {x y : Binary64} (sign : x.isNegative = y.isNegative)
    (mantissas : x.mantissa = y.mantissa) (exponents : x.exponent = y.exponent) : x = y := by
  have belowX := x.fractionField_lt
  have belowY := y.fractionField_lt
  simp only [mantissa, exponent] at mantissas exponents
  refine eq_of_fields sign ?_ ?_ <;> split_ifs at mantissas exponents <;> omega

theorem lowQuarters_le (x : Binary64) : (x.lowQuarters : ℚ) ≤ 4 * x.mantissa := by
  have : x.lowQuarters ≤ 4 * x.mantissa := by
    rcases x.lowQuarters_cases with ⟨h, -⟩ | ⟨h, -⟩ <;> omega
  exact_mod_cast this

/-! ## The ends of an interval -/

/-- What is below a magnitude and does not read back as it lies below its interval. -/
theorem le_low_of_not_near {x : Binary64} {w : ℚ} (below : w ≤ 4 * x.mantissa * x.quarter)
    (outside : ¬x.Near w) : w ≤ x.lowQuarters * x.quarter := by
  by_contra inside
  have pos := x.quarter_pos
  refine outside ?_
  rw [Near]
  split
  · constructor <;> linarith
  · constructor <;> linarith

/-- What is above a magnitude and does not read back as it lies above its interval. -/
theorem high_le_of_not_near {x : Binary64} {w : ℚ} (above : 4 * x.mantissa * x.quarter < w)
    (outside : ¬x.Near w) : (4 * x.mantissa + 2) * x.quarter ≤ w := by
  by_contra inside
  have left := mul_le_mul_of_nonneg_right x.lowQuarters_le x.quarter_pos.le
  refine outside ?_
  rw [Near]
  split
  · constructor <;> linarith
  · constructor <;> linarith

/-! ## Intervals do not meet -/

theorem Near.bounds {x : Binary64} {w : ℚ} (near : x.Near w) :
    x.lowQuarters * x.quarter ≤ w ∧ w ≤ (4 * x.mantissa + 2) * x.quarter := by
  rw [Near] at near
  split at near
  · exact near
  · exact ⟨near.1.le, near.2.le⟩

/-- Only an even magnitude has the upper end of its interval. -/
theorem Near.even_of_high {x : Binary64} {w : ℚ} (near : x.Near w)
    (high : (4 * x.mantissa + 2) * x.quarter ≤ w) : x.mantissa % 2 = 0 := by
  by_contra odd
  rw [Near, if_neg odd] at near
  exact absurd near.2 (not_lt.2 high)

/-- Only an even magnitude has the lower end of its interval. -/
theorem Near.even_of_low {x : Binary64} {w : ℚ} (near : x.Near w)
    (low : w ≤ x.lowQuarters * x.quarter) : x.mantissa % 2 = 0 := by
  by_contra odd
  rw [Near, if_neg odd] at near
  exact absurd near.1 (not_lt.2 low)

/-- What two magnitudes with one exponent share is the end between an even and an odd one. -/
theorem mantissa_le_of_near {x y : Binary64} {w : ℚ} (nearX : x.Near w) (nearY : y.Near w)
    (exponents : x.exponent = y.exponent) : y.mantissa ≤ x.mantissa := by
  by_contra above
  have quarters : x.quarter = y.quarter := by rw [quarter, quarter, exponents]
  have step : (4 * x.mantissa + 2 : ℚ) ≤ y.lowQuarters := by
    have : 4 * x.mantissa + 2 ≤ y.lowQuarters := by
      rcases y.lowQuarters_cases with ⟨low, -⟩ | ⟨low, -⟩ <;> omega
    exact_mod_cast this
  have ends := mul_le_mul_of_nonneg_right step x.quarter_pos.le
  rw [quarters] at ends
  have high := nearX.bounds.2
  have low := nearY.bounds.1
  rw [quarters] at high
  have evenX := nearX.even_of_high (by rw [quarters]; linarith)
  have evenY := nearY.even_of_low (by linarith)
  -- Both are even, so there is an odd one between them and the ends are apart.
  have apart : (4 * x.mantissa + 2 : ℚ) < y.lowQuarters := by
    have : 4 * x.mantissa + 2 < y.lowQuarters := by
      rcases y.lowQuarters_cases with ⟨low, -⟩ | ⟨low, -⟩ <;> omega
    exact_mod_cast this
  have strict := mul_lt_mul_of_pos_right apart y.quarter_pos
  linarith

/-- A greater exponent at least doubles the distance to the next magnitude. -/
theorem two_mul_quarter_le {x y : Binary64} (above : x.exponent < y.exponent) :
    2 * x.quarter ≤ y.quarter := by
  have power : (2 : ℚ) ^ (x.exponent - 2 + 1) ≤ 2 ^ (y.exponent - 2) :=
    zpow_le_zpow_right₀ (by norm_num) (by omega)
  rw [zpow_add_one₀ (by norm_num)] at power
  rw [quarter, quarter]
  linarith

/-- What reads back as a magnitude does not read back as one with a greater exponent. -/
theorem exponent_le_of_near {x y : Binary64} {w : ℚ} (nearX : x.Near w) (nearY : y.Near w) :
    y.exponent ≤ x.exponent := by
  by_contra above
  have least : -1074 ≤ x.exponent := by rcases x.exponent_cases with h | h <;> omega
  have digits : fractionCount ≤ y.mantissa := by rcases y.exponent_cases with h | h <;> omega
  have below := x.mantissa_lt
  have quarters : 2 * x.quarter ≤ y.quarter := two_mul_quarter_le (not_le.1 above)
  have pos := x.quarter_pos
  have high := nearX.bounds.2
  have low := nearY.bounds.1
  have belowQ : (x.mantissa : ℚ) + 1 ≤ 2 * fractionCount := by exact_mod_cast below
  rcases y.lowQuarters_cases with ⟨lowY, least, -⟩ | ⟨lowY, other⟩
  · -- The ends can only meet below a power of two, whose predecessor is odd.
    have lowQ : (y.lowQuarters : ℚ) = 4 * fractionCount - 1 := by
      rw [lowY, least]
      norm_num
    have ends : (4 * fractionCount - 1) * (2 * x.quarter) ≤ w := by
      rw [lowQ] at low
      refine le_trans (mul_le_mul_of_nonneg_left quarters ?_) low
      norm_num
    have top : w ≤ (8 * fractionCount - 2) * x.quarter :=
      high.trans (mul_le_mul_of_nonneg_right (by linarith) pos.le)
    have evenX := nearX.even_of_high (by
      have := mul_le_mul_of_nonneg_right
        (by linarith : (4 * x.mantissa + 2 : ℚ) ≤ 8 * fractionCount - 2) pos.le
      linarith)
    have odd : (x.mantissa : ℚ) + 2 ≤ 2 * fractionCount := by
      have : x.mantissa + 2 ≤ 2 * fractionCount := by
        simp only [fractionCount] at below ⊢
        omega
      exact_mod_cast this
    have strict : (4 * x.mantissa + 2 : ℚ) * x.quarter < (8 * fractionCount - 2) * x.quarter :=
      mul_lt_mul_of_pos_right (by linarith) pos
    linarith
  · have more : fractionCount + 1 ≤ y.mantissa := by
      by_contra h
      have := other (by omega)
      omega
    have lowQ : (4 * fractionCount + 2 : ℚ) ≤ y.lowQuarters := by
      have : 4 * fractionCount + 2 ≤ y.lowQuarters := by omega
      exact_mod_cast this
    have ends : (4 * fractionCount + 2) * (2 * x.quarter) ≤ w := by
      refine le_trans (mul_le_mul lowQ quarters (by linarith) ?_) low
      exact Nat.cast_nonneg _
    have strict : (4 * x.mantissa + 2 : ℚ) * x.quarter < (8 * fractionCount + 4) * x.quarter :=
      mul_lt_mul_of_pos_right (by linarith) pos
    linarith

/-- Nothing reads back as two magnitudes. -/
theorem eq_of_near {x y : Binary64} {w : ℚ} (nearX : x.Near w) (nearY : y.Near w) :
    x.mantissa = y.mantissa ∧ x.exponent = y.exponent := by
  have exponents : x.exponent = y.exponent :=
    le_antisymm (exponent_le_of_near nearY nearX) (exponent_le_of_near nearX nearY)
  exact ⟨le_antisymm (mantissa_le_of_near nearY nearX exponents.symm)
    (mantissa_le_of_near nearX nearY exponents), exponents⟩

end Binary64

/-! ## Comparisons with fractions -/

namespace Decimal

variable {d num den : Nat} {k : Int}

private theorem pow_toNat (nonneg : 0 ≤ k) : ((Nat.pow 10 k.toNat : Nat) : ℚ) = 10 ^ k :=
  natPow_toNat 10 nonneg

private theorem pow_toNat_neg (negative : ¬0 ≤ k) :
    (10 : ℚ) ^ k = ((Nat.pow 10 (-k).toNat : Nat) : ℚ)⁻¹ :=
  natPow_toNat_neg 10 negative

private theorem pow_pos_toNat : (0 : ℚ) < (Nat.pow 10 (-k).toNat : Nat) :=
  natPow_pos (by norm_num)

theorem leRatio_iff (pos : 0 < den) :
    leRatio d k num den = true ↔ (d : ℚ) * 10 ^ k ≤ num / den := by
  have posQ : (0 : ℚ) < den := by exact_mod_cast pos
  rw [leRatio]
  split
  · next nonneg =>
    rw [decide_eq_true_eq, ← pow_toNat nonneg, le_div_iff₀ posQ]
    exact_mod_cast Iff.rfl
  · next negative =>
    rw [decide_eq_true_eq, pow_toNat_neg negative, ← div_eq_mul_inv,
      div_le_div_iff₀ pow_pos_toNat posQ]
    exact_mod_cast Iff.rfl

theorem ratioLe_iff (pos : 0 < den) :
    ratioLe num den d k = true ↔ (num / den : ℚ) ≤ d * 10 ^ k := by
  have posQ : (0 : ℚ) < den := by exact_mod_cast pos
  rw [ratioLe]
  split
  · next nonneg =>
    rw [decide_eq_true_eq, ← pow_toNat nonneg, div_le_iff₀ posQ]
    exact_mod_cast Iff.rfl
  · next negative =>
    rw [decide_eq_true_eq, pow_toNat_neg negative, ← div_eq_mul_inv,
      div_le_div_iff₀ posQ pow_pos_toNat]
    exact_mod_cast Iff.rfl

/-- Rounding a fraction down to a grid. -/
theorem floorScaled_bounds (num : Nat) (k : Int) (pos : 0 < den) :
    (floorScaled num den k : ℚ) * 10 ^ k ≤ num / den ∧
      (num / den : ℚ) < (floorScaled num den k + 1) * 10 ^ k := by
  have posQ : (0 : ℚ) < den := by exact_mod_cast pos
  rw [floorScaled]
  split
  · next nonneg =>
    have scaled : 0 < den * Nat.pow 10 k.toNat := Nat.mul_pos pos (Nat.pow_pos (by norm_num))
    have low := Nat.div_mul_le_self num (den * Nat.pow 10 k.toNat)
    have high := Nat.lt_div_mul_add scaled (a := num)
    generalize num / (den * Nat.pow 10 k.toNat) = d at low high
    rw [← pow_toNat nonneg, le_div_iff₀ posQ, div_lt_iff₀ posQ]
    constructor
    · have : d * Nat.pow 10 k.toNat * den ≤ num := by linarith
      exact_mod_cast this
    · have : num < (d + 1) * Nat.pow 10 k.toNat * den := by linarith
      exact_mod_cast this
  · next negative =>
    have low := Nat.div_mul_le_self (num * Nat.pow 10 (-k).toNat) den
    have high := Nat.lt_div_mul_add pos (a := num * Nat.pow 10 (-k).toNat)
    generalize num * Nat.pow 10 (-k).toNat / den = d at low high
    rw [pow_toNat_neg negative, ← div_eq_mul_inv, ← div_eq_mul_inv,
      div_le_div_iff₀ pow_pos_toNat posQ, div_lt_div_iff₀ posQ pow_pos_toNat]
    constructor
    · exact_mod_cast low
    · have : num * Nat.pow 10 (-k).toNat < (d + 1) * den := by linarith
      exact_mod_cast this

/-! ## The first digit -/

theorem lt_pow_digitCount {n : Nat} : n < 10 ^ digitCount n := by
  rw [digitCount]
  split
  · next zero => simp [zero]
  · exact (Nat.length_toDigits_le_iff (by norm_num) Nat.length_toDigits_pos).1 le_rfl

theorem pow_digitCount_le {n : Nat} (pos : 0 < n) : 10 ^ (digitCount n - 1) ≤ n := by
  rw [digitCount, if_neg (by omega)]
  rcases Nat.eq_zero_or_pos ((Nat.toDigits 10 n).length - 1) with one | more
  · rw [one]
    exact pos
  · by_contra small
    have fewer := (Nat.length_toDigits_le_iff (by norm_num) more).2 (not_le.1 small)
    omega

/-- A fraction is at least as large as the power of ten of its first digit. -/
theorem pow_leadingPower_le (posN : 0 < num) (posD : 0 < den) :
    (10 : ℚ) ^ leadingPower num den ≤ num / den := by
  have posNQ : (0 : ℚ) < num := by exact_mod_cast posN
  have posDQ : (0 : ℚ) < den := by exact_mod_cast posD
  rw [leadingPower]
  split
  · next large =>
    have quotient : 0 < num / den := Nat.div_pos large posD
    have digits : 1 ≤ digitCount (num / den) := by
      by_contra none
      have below := lt_pow_digitCount (n := num / den)
      rw [show digitCount (num / den) = 0 by omega] at below
      omega
    have power := pow_digitCount_le quotient
    have exponent : (digitCount (num / den) : Int) - 1 = (digitCount (num / den) - 1 : Nat) := by
      omega
    rw [exponent, zpow_natCast, le_div_iff₀ posDQ]
    have scaled : 10 ^ (digitCount (num / den) - 1) * den ≤ num :=
      (Nat.mul_le_mul_right den power).trans (Nat.div_mul_le_self num den)
    exact_mod_cast scaled
  · next small =>
    have below := lt_pow_digitCount (n := (den + num - 1) / num - 1)
    generalize digitCount ((den + num - 1) / num - 1) = j at below
    have rounded : den ≤ (den + num - 1) / num * num := by
      have := Nat.lt_div_mul_add posN (a := den + num - 1)
      omega
    have scaled : den ≤ 10 ^ j * num :=
      rounded.trans (Nat.mul_le_mul_right num (by omega))
    rw [zpow_neg, zpow_natCast, inv_le_comm₀ (by positivity) (by positivity), inv_div,
      div_le_iff₀ posNQ]
    exact_mod_cast scaled

/-! ## The interval of a number -/

/-- The interval of a number in quarters of the distance to the next magnitude. -/
theorem exists_interval (x : Binary64) :
    ∃ up den : Nat, 0 < den ∧ (up : ℚ) / den = x.quarter ∧
      Interval.of x = ⟨4 * x.mantissa * up, x.lowQuarters * up, (4 * x.mantissa + 2) * up, den,
        x.mantissa % 2 == 0⟩ := by
  rw [Binary64.quarter, Interval.of]
  by_cases nonneg : 0 ≤ x.exponent - 2
  · refine ⟨Nat.pow 2 (x.exponent - 2).toNat, 1, by norm_num, ?_, ?_⟩
    · rw [natPow_toNat 2 nonneg]
      norm_num
    · simp only [nonneg, ↓reduceIte]
      rfl
  · refine ⟨1, Nat.pow 2 (-(x.exponent - 2)).toNat, Nat.pow_pos (by norm_num), ?_, ?_⟩
    · rw [Nat.cast_one, one_div]
      exact (natPow_toNat_neg 2 nonneg).symm
    · simp only [nonneg, ↓reduceIte]
      rfl

theorem contains_of_iff {x : Binary64} {d : Nat} {k : Int} :
    (Interval.of x).contains d k = true ↔ x.Near (d * 10 ^ k) := by
  obtain ⟨up, den, pos, unit, same⟩ := exists_interval x
  have scaled (n : Nat) : ((n * up : Nat) : ℚ) / den = n * x.quarter := by
    rw [← unit]
    push_cast
    ring
  have high : ((4 * x.mantissa + 2 : Nat) : ℚ) = 4 * x.mantissa + 2 := by push_cast; ring
  rw [same, Interval.contains, Binary64.Near]
  simp only [beq_iff_eq]
  split
  · rw [Bool.and_eq_true, ratioLe_iff pos, leRatio_iff pos, scaled, scaled, high]
  · rw [Bool.and_eq_true, Bool.not_eq_true', Bool.not_eq_true', ← Bool.not_eq_true,
      ← Bool.not_eq_true, ratioLe_iff pos, leRatio_iff pos, scaled, scaled, high, not_le, not_le]

theorem value_of (x : Binary64) :
    0 < (Interval.of x).den ∧
      ((Interval.of x).value : ℚ) / (Interval.of x).den = 4 * x.mantissa * x.quarter := by
  obtain ⟨up, den, pos, unit, same⟩ := exists_interval x
  rw [same, ← unit]
  refine ⟨pos, ?_⟩
  push_cast
  ring

theorem contains_of_onGrid? {i : Interval} {tie : Tie} {n : Nat} {e : Decimal}
    (found : i.onGrid? tie n = some e) : i.contains e.digits e.exponent = true := by
  simp only [Interval.onGrid?] at found
  split at found
  · simp at found
  · next low _ =>
    obtain rfl := Option.some.inj found
    exact low
  · next _ high =>
    obtain rfl := Option.some.inj found
    exact high
  · next low high =>
    split at found <;> obtain rfl := Option.some.inj found
    · exact low
    · exact high

/-- If neither neighbour on a grid reads back as a number, the grid is coarse. -/
theorem step_of_not_near {x : Binary64} {d : Nat} {step : ℚ} (nonzero : x.mantissa ≠ 0)
    (below : d * step ≤ 4 * x.mantissa * x.quarter)
    (above : 4 * x.mantissa * x.quarter < (d + 1) * step)
    (notLow : ¬x.Near (d * step)) (notHigh : ¬x.Near ((d + 1 : Nat) * step)) :
    4 * x.mantissa * x.quarter < step * 10 ^ 16 := by
  have quarter := x.quarter_pos
  have bound : (x.mantissa : ℚ) < 2 * Binary64.fractionCount := by exact_mod_cast x.mantissa_lt
  rw [Nat.cast_succ] at notHigh
  have low := Binary64.le_low_of_not_near below notLow
  have high := Binary64.high_le_of_not_near above notHigh
  -- One step of the grid spans the interval: three quarters above a power of two, else four.
  have wide : (4 * x.mantissa + 2 - x.lowQuarters) * x.quarter ≤ step := by linarith
  rcases x.lowQuarters_cases with ⟨lowest, least, -⟩ | ⟨lowest, -⟩
  · have three : (4 * x.mantissa + 2 - x.lowQuarters : ℚ) = 3 := by
      have : x.lowQuarters + 1 = 4 * x.mantissa := by omega
      have : (x.lowQuarters : ℚ) + 1 = 4 * x.mantissa := by exact_mod_cast this
      linarith
    rw [three] at wide
    rw [least]
    norm_num [Binary64.fractionCount] at *
    linarith
  · have four : (4 * x.mantissa + 2 - x.lowQuarters : ℚ) = 4 := by
      have : x.lowQuarters + 2 = 4 * x.mantissa := by omega
      have : (x.lowQuarters : ℚ) + 2 = 4 * x.mantissa := by exact_mod_cast this
      linarith
    rw [four] at wide
    have top := mul_lt_mul_of_pos_right bound quarter
    norm_num [Binary64.fractionCount] at top
    linarith

/-- Seventeen digits are enough: the grid is finer than the interval is wide. -/
theorem exists_onGrid? {x : Binary64} (nonzero : x.mantissa ≠ 0) (tie : Tie) :
    ∃ e, (Interval.of x).onGrid? tie 17 = some e := by
  obtain ⟨pos, value⟩ := value_of x
  have quarter := x.quarter_pos
  have positive : (0 : ℚ) < x.mantissa := by exact_mod_cast Nat.pos_of_ne_zero nonzero
  have posV : 0 < (Interval.of x).value := by
    by_contra zero
    rw [show (Interval.of x).value = 0 by omega, Nat.cast_zero, zero_div] at value
    have : (0 : ℚ) < 4 * x.mantissa * x.quarter := by positivity
    linarith
  have lead := pow_leadingPower_le posV pos
  rw [Interval.onGrid?]
  generalize leadingPower (Interval.of x).value (Interval.of x).den = top at lead
  obtain ⟨below, above⟩ := floorScaled_bounds (Interval.of x).value (top - (17 : Nat) + 1) pos
  simp only
  generalize floorScaled (Interval.of x).value (Interval.of x).den (top - (17 : Nat) + 1) = d
    at below above
  have step : (10 : ℚ) ^ (top - (17 : Nat) + 1) * 10 ^ 16 ≤ 4 * x.mantissa * x.quarter := by
    rw [← value, ← zpow_natCast, ← zpow_add₀ (by norm_num)]
    have exponent : top - (17 : Nat) + 1 + (16 : Nat) = top := by omega
    rwa [exponent]
  rw [value] at below above
  generalize top - (17 : Nat) + 1 = k at below above step
  cases low : (Interval.of x).contains d k with
  | true =>
    cases high : (Interval.of x).contains (d + 1) k with
    | false => exact ⟨_, rfl⟩
    | true =>
      dsimp only
      split <;> exact ⟨_, rfl⟩
  | false =>
    cases high : (Interval.of x).contains (d + 1) k with
    | true => exact ⟨_, rfl⟩
    | false =>
      have wide := step_of_not_near nonzero below above
        (fun near => by rw [contains_of_iff.2 near] at low; simp at low)
        (fun near => by rw [contains_of_iff.2 near] at high; simp at high)
      exact absurd step (not_le.2 wide)

theorem value_strip (fuel : Nat) (d : Decimal) : (strip fuel d).value = d.value := by
  induction fuel generalizing d with
  | zero => rfl
  | succ fuel ih =>
    rw [strip]
    split
    · next zeros =>
      rw [ih, value, value, zpow_add_one₀ (by norm_num)]
      have tens : d.digits / 10 * 10 = d.digits := by omega
      have tensQ : ((d.digits / 10 : Nat) : ℚ) * 10 = d.digits := by exact_mod_cast tens
      rw [← tensQ]
      ring
    · rfl

end Decimal

/-- The shortest decimal of a number reads back as the number. -/
theorem Binary64.near_shortest {x : Binary64} (nonzero : x.mantissa ≠ 0) (tie : Tie) :
    x.Near (Decimal.shortest tie x).value := by
  rw [Decimal.shortest]
  -- The grids are tried from coarse to fine, and the finest of them has a decimal.
  cases found : (List.range 17).findSome? fun n => (Decimal.Interval.of x).onGrid? tie (n + 1) with
  | none =>
    obtain ⟨e, some⟩ := Decimal.exists_onGrid? nonzero tie
    rw [List.findSome?_eq_none_iff.1 found 16 (by simp)] at some
    simp at some
  | some e =>
    obtain ⟨n, -, grid⟩ := List.exists_of_findSome?_eq_some found
    dsimp only
    rw [Decimal.value_strip]
    exact Decimal.contains_of_iff.1 (Decimal.contains_of_onGrid? grid)

end ConferenceSync.Number
