import Mathlib.Algebra.Order.Field.Power
import Mathlib.Algebra.Order.Field.Rat
import Mathlib.Data.Int.Log
import Mathlib.Data.Rat.Floor
import Mathlib.Tactic.FieldSimp
import Mathlib.Tactic.Ring
import KeyChords.Decimal.Binary64

/-! # Rounding to binary64

The nearest magnitude is computed from a numerator and a denominator, and depends on nothing but
their quotient. Every magnitude is the nearest one to its own exact value.
-/

namespace KeyChords.Decimal.Binary64

/-! ## Rounded quotients -/

private theorem roundedQuotient_mul_right (num den : Nat) {factor : Nat} (positive : 0 < factor) :
    roundedQuotient (num * factor) (den * factor) = roundedQuotient num den := by
  have below : 2 * (num % den * factor) < den * factor ↔ 2 * (num % den) < den := by
    rw [← Nat.mul_assoc, Nat.mul_lt_mul_right positive]
  have above : den * factor < 2 * (num % den * factor) ↔ den < 2 * (num % den) := by
    rw [← Nat.mul_assoc, Nat.mul_lt_mul_right positive]
  simp only [roundedQuotient, Nat.mul_div_mul_right _ _ positive, Nat.mul_mod_mul_right, below,
    above]

private theorem roundedQuotient_congr {num den other unit : Nat} (positive : 0 < den)
    (unit_positive : 0 < unit) (same : num * unit = other * den) :
    roundedQuotient num den = roundedQuotient other unit := by
  rw [← roundedQuotient_mul_right num den unit_positive,
    ← roundedQuotient_mul_right other unit positive, same, Nat.mul_comm den]

private theorem roundedQuotient_mul_self (whole : Nat) {den : Nat} (positive : 0 < den) :
    roundedQuotient (whole * den) den = whole := by
  simp [roundedQuotient, Nat.mul_div_cancel _ positive, positive]

/-- What is below one half is rounded to zero. -/
theorem roundedQuotient_eq_zero {num den : Nat} (small : 2 * num < den) :
    roundedQuotient num den = 0 := by
  have below : num < den := by omega
  simp [roundedQuotient, Nat.div_eq_of_lt below, Nat.mod_eq_of_lt below, small]

/-- A quotient is not rounded below a whole number that it reaches. -/
theorem le_roundedQuotient {whole num den : Nat} (positive : 0 < den)
    (reached : whole * den ≤ num) : whole ≤ roundedQuotient num den := by
  have floor : whole ≤ num / den := (Nat.le_div_iff_mul_le positive).mpr reached
  unfold roundedQuotient
  dsimp only
  split
  · exact floor
  · split <;> omega

/-! ## The exponent of a quotient -/

/-- A power of two is at most a quotient when it is so after the denominators are cleared. -/
theorem zpow_le_quotient_iff (num : Nat) {den : Nat} (positive : 0 < den) (exponent : Int) :
    (2 : ℚ) ^ exponent ≤ (num : ℚ) / den ↔
      if 0 ≤ exponent then den * Nat.pow 2 exponent.toNat ≤ num
      else den ≤ num * Nat.pow 2 (-exponent).toNat := by
  have divisor : (0 : ℚ) < den := by exact_mod_cast positive
  rw [le_div_iff₀ divisor]
  split
  · next natural =>
    obtain ⟨power, rfl⟩ := Int.eq_ofNat_of_zero_le natural
    rw [zpow_natCast, mul_comm, Int.toNat_natCast, Nat.pow_eq]
    exact_mod_cast Iff.rfl
  · next negative =>
    obtain ⟨power, rfl⟩ := Int.exists_eq_neg_ofNat (a := exponent) (by omega)
    rw [neg_neg, Int.toNat_natCast, Nat.pow_eq, zpow_neg, zpow_natCast,
      inv_mul_le_iff₀ (by positivity), mul_comm]
    exact_mod_cast Iff.rfl

/-- A value below a power of two has a logarithm below its exponent. -/
theorem log_lt {value : ℚ} {exponent : Int} (positive : 0 < value)
    (below : value < 2 ^ exponent) : Int.log 2 value < exponent :=
  (Int.lt_zpow_iff_log_lt (b := 2) (by norm_num) positive).mp (by exact_mod_cast below)

/-- A value that reaches a power of two has a logarithm that reaches its exponent. -/
theorem le_log {value : ℚ} {exponent : Int} (reached : 2 ^ exponent ≤ value) :
    exponent ≤ Int.log 2 value :=
  (Int.zpow_le_iff_le_log (b := 2) (by norm_num) (lt_of_lt_of_le (by positivity) reached)).mp
    (by exact_mod_cast reached)

private theorem log_eq_of_bounds {value : ℚ} {exponent : Int} (reached : 2 ^ exponent ≤ value)
    (below : value < 2 ^ (exponent + 1)) : Int.log 2 value = exponent := by
  have least := le_log reached
  have most := log_lt (lt_of_lt_of_le (by positivity) reached) below
  omega

/-- A positive number lies between two neighbouring powers of two. -/
theorem zpow_log2_bounds {value : Nat} (positive : 0 < value) :
    (2 : ℚ) ^ (Nat.log2 value : Int) ≤ value ∧
      (value : ℚ) < 2 ^ ((Nat.log2 value : Int) + 1) := by
  constructor
  · rw [zpow_natCast]
    exact_mod_cast Nat.log2_self_le positive.ne'
  · exact_mod_cast Nat.lt_log2_self (n := value)

/-- **The computed exponent is the logarithm of the quotient.** -/
theorem binaryExponent_eq_log {num den : Nat} (num_positive : 0 < num) (den_positive : 0 < den) :
    binaryExponent num den = Int.log 2 ((num : ℚ) / den) := by
  have divisor : (0 : ℚ) < den := by exact_mod_cast den_positive
  obtain ⟨num_reached, num_below⟩ := zpow_log2_bounds num_positive
  obtain ⟨den_reached, den_below⟩ := zpow_log2_bounds den_positive
  set guess : Int := (Nat.log2 num : Int) - Nat.log2 den with guess_eq
  -- the difference of the two logarithms is the exponent sought, or one more than it
  have above : (2 : ℚ) ^ (guess - 1) ≤ num / den := by
    rw [le_div_iff₀ divisor]
    calc (2 : ℚ) ^ (guess - 1) * den
        ≤ 2 ^ (guess - 1) * 2 ^ ((Nat.log2 den : Int) + 1) := by gcongr
      _ = 2 ^ (Nat.log2 num : Int) := by
          rw [← zpow_add₀ (by norm_num)]
          congr 1
          omega
      _ ≤ num := num_reached
  have below : (num : ℚ) / den < 2 ^ (guess + 1) := by
    rw [div_lt_iff₀ divisor]
    calc (num : ℚ) < 2 ^ ((Nat.log2 num : Int) + 1) := num_below
      _ = 2 ^ (guess + 1) * 2 ^ (Nat.log2 den : Int) := by
          rw [← zpow_add₀ (by norm_num)]
          congr 1
          omega
      _ ≤ 2 ^ (guess + 1) * den := by gcongr
  have cleared := zpow_le_quotient_iff num den_positive guess
  unfold binaryExponent
  dsimp only
  rw [← guess_eq]
  by_cases reached : (2 : ℚ) ^ guess ≤ num / den
  · rw [if_pos (cleared.mp reached)]
    exact (log_eq_of_bounds reached below).symm
  · rw [if_neg (mt cleared.mpr reached)]
    refine (log_eq_of_bounds above ?_).symm
    rw [sub_add_cancel]
    exact not_le.mp reached

private theorem binaryExponent_congr {num den other unit : Nat} (num_positive : 0 < num)
    (den_positive : 0 < den) (unit_positive : 0 < unit) (same : num * unit = other * den) :
    binaryExponent num den = binaryExponent other unit := by
  have other_positive : 0 < other := by
    refine Nat.pos_of_ne_zero ?_
    rintro rfl
    simp [num_positive.ne', unit_positive.ne'] at same
  rw [binaryExponent_eq_log num_positive den_positive,
    binaryExponent_eq_log other_positive unit_positive]
  congr 1
  have divisor : (den : ℚ) ≠ 0 := by exact_mod_cast den_positive.ne'
  have unit_divisor : (unit : ℚ) ≠ 0 := by exact_mod_cast unit_positive.ne'
  rw [div_eq_div_iff divisor unit_divisor]
  exact_mod_cast same

/-! ## The nearest magnitude -/

/-- How far the unit is raised for a quotient. -/
def raisedBy (num den : Nat) : Nat :=
  (binaryExponent num den + 1022).toNat

theorem nearest_zero (den : Nat) : nearest 0 den = 0 := by
  simp [nearest]

/-- The magnitude nearest to a quotient above zero, in one formula on both sides of the unit. -/
theorem nearest_of_pos {num : Nat} (positive : 0 < num) (den : Nat) :
    nearest num den = raisedBy num den * 2 ^ 52 +
      roundedQuotient (num * 2 ^ (1074 - raisedBy num den))
        (den * 2 ^ (raisedBy num den - 1074)) := by
  rw [nearest, if_neg positive.ne']
  change raisedBy num den * Nat.pow 2 52 +
    (if raisedBy num den ≤ 1074 then
      roundedQuotient (num * Nat.pow 2 (1074 - raisedBy num den)) den
    else roundedQuotient num (den * Nat.pow 2 (raisedBy num den - 1074))) = _
  split
  · next inside => simp [Nat.sub_eq_zero_of_le inside]
  · next outside =>
    have past : 1074 - raisedBy num den = 0 := by omega
    simp [past]

/-- **The nearest magnitude depends on the quotient alone.** -/
theorem nearest_congr {num den other unit : Nat} (den_positive : 0 < den)
    (unit_positive : 0 < unit) (same : num * unit = other * den) :
    nearest num den = nearest other unit := by
  rcases Nat.eq_zero_or_pos num with rfl | num_positive
  · have zero : other = 0 := by simpa [den_positive.ne'] using same.symm
    rw [zero, nearest_zero, nearest_zero]
  · have other_positive : 0 < other := by
      refine Nat.pos_of_ne_zero ?_
      rintro rfl
      simp [num_positive.ne', unit_positive.ne'] at same
    have raised : raisedBy num den = raisedBy other unit := by
      rw [raisedBy, raisedBy, binaryExponent_congr num_positive den_positive unit_positive same]
    have rounded (widened : Nat) {narrowed : Nat} (positive : 0 < narrowed) :
        roundedQuotient (num * widened) (den * narrowed) =
          roundedQuotient (other * widened) (unit * narrowed) := by
      refine roundedQuotient_congr (by positivity) (by positivity) ?_
      calc num * widened * (unit * narrowed)
          = num * unit * (widened * narrowed) := by ring
        _ = other * widened * (den * narrowed) := by
            rw [same]
            ring
    rw [nearest_of_pos num_positive, nearest_of_pos other_positive, raised,
      rounded _ (by positivity)]

/-! ## Magnitudes as quotients -/

/-- The value of a magnitude, in one formula on both sides of the unit. -/
theorem quotient_eq (magnitude : Nat) :
    quotient magnitude =
      (significand magnitude * 2 ^ (doublings magnitude - 1074),
        2 ^ (1074 - doublings magnitude)) := by
  unfold quotient
  dsimp only
  split
  · next inside => simp [Nat.sub_eq_zero_of_le inside]
  · next outside =>
    have past : 1074 - doublings magnitude = 0 := by omega
    simp [past]

theorem quotient_den_pos (magnitude : Nat) : 0 < (quotient magnitude).2 := by
  rw [quotient_eq]
  positivity

private theorem doublings_add_significand (magnitude : Nat) :
    doublings magnitude * 2 ^ 52 + significand magnitude = magnitude := by
  simp only [significand, doublings, Nat.pow_eq]
  omega

private theorem significand_lt (magnitude : Nat) : significand magnitude < 2 ^ 53 := by
  simp only [significand, doublings, Nat.pow_eq]
  omega

/-- Beyond the first two runs every significand has its leading bit. -/
theorem le_significand {magnitude : Nat} (raised : 0 < doublings magnitude) :
    2 ^ 52 ≤ significand magnitude := by
  simp only [significand, doublings, Nat.pow_eq] at raised ⊢
  omega

private theorem significand_pos {magnitude : Nat} (positive : 0 < magnitude) :
    0 < significand magnitude := by
  simp only [significand, doublings, Nat.pow_eq]
  omega

private theorem quotient_num_pos {magnitude : Nat} (positive : 0 < magnitude) :
    0 < (quotient magnitude).1 := by
  rw [quotient_eq]
  have := significand_pos positive
  positivity

/-- The exact value of a magnitude. -/
theorem quotient_value (magnitude : Nat) :
    ((quotient magnitude).1 : ℚ) / (quotient magnitude).2 =
      significand magnitude * 2 ^ ((doublings magnitude : Int) - 1074) := by
  have split_exponent : (doublings magnitude : Int) - 1074 =
      ((doublings magnitude - 1074 : Nat) : Int) - ((1074 - doublings magnitude : Nat) : Int) := by
    omega
  rw [quotient_eq, split_exponent, zpow_sub₀ (by norm_num), zpow_natCast, zpow_natCast]
  push_cast
  ring

private theorem raisedBy_quotient {magnitude : Nat} (positive : 0 < magnitude) :
    raisedBy (quotient magnitude).1 (quotient magnitude).2 = doublings magnitude := by
  rw [raisedBy, binaryExponent_eq_log (quotient_num_pos positive) (quotient_den_pos magnitude),
    quotient_value]
  have value_positive : (0 : ℚ) < significand magnitude := by
    exact_mod_cast significand_pos positive
  have small : (significand magnitude : ℚ) < 2 ^ (53 : Int) := by
    exact_mod_cast significand_lt magnitude
  obtain ⟨unit, unit_eq⟩ : ∃ unit : Int, unit = (doublings magnitude : Int) - 1074 := ⟨_, rfl⟩
  rw [← unit_eq]
  have below : (significand magnitude : ℚ) * 2 ^ unit < 2 ^ (53 + unit) := by
    rw [zpow_add₀ (by norm_num)]
    gcongr
  -- an undoubled unit needs only a bound from above; a doubled one has its leading bit
  rcases Nat.eq_zero_or_pos (doublings magnitude) with none | raised
  · have := log_lt (by positivity) below
    omega
  · have large : (2 : ℚ) ^ (52 : Int) ≤ significand magnitude := by
      exact_mod_cast le_significand raised
    have exponent : Int.log 2 ((significand magnitude : ℚ) * 2 ^ unit) = 52 + unit := by
      refine log_eq_of_bounds ?_ ?_
      · rw [zpow_add₀ (by norm_num)]
        gcongr
      · rw [add_right_comm]
        exact below
    omega

/-- **Every magnitude is the nearest one to its own value.** -/
theorem nearest_quotient (magnitude : Nat) :
    nearest (quotient magnitude).1 (quotient magnitude).2 = magnitude := by
  rcases Nat.eq_zero_or_pos magnitude with rfl | positive
  · have none : significand 0 = 0 := rfl
    rw [quotient_eq, none, Nat.zero_mul, nearest_zero]
  · rw [nearest_of_pos (quotient_num_pos positive), raisedBy_quotient positive, quotient_eq]
    dsimp only
    rw [mul_assoc, mul_comm (2 ^ (1074 - doublings magnitude)),
      roundedQuotient_mul_self _ (by positivity), doublings_add_significand]

end KeyChords.Decimal.Binary64
