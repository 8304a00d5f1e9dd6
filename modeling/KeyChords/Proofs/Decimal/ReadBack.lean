import KeyChords.Decimal.Shortest
import KeyChords.Proofs.Decimal.Rounding

/-! # Decimals that read back

Exponents far outside of the range are settled without their power of ten, and that changes no
number. So what a decimal reads as depends on its value alone, and a zero that moves between
coefficient and exponent does not matter. The decimal that is written for a magnitude was tried
before, or is the exact expansion: either way it reads back as that magnitude.
-/

namespace KeyChords.Decimal

namespace Scaled

/-- The magnitude nearest to a decimal, its power of ten computed in every case. -/
def exactMagnitude (decimal : Scaled) : Nat :=
  Binary64.nearest (decimal.coefficient * 10 ^ decimal.exponent.toNat)
    (10 ^ (-decimal.exponent).toNat)

theorem exactMagnitude_of_zero (exponent : Int) : exactMagnitude ⟨0, exponent⟩ = 0 := by
  rw [exactMagnitude, Nat.zero_mul, Binary64.nearest_zero]

/-- **Decimals of one value have one magnitude.** -/
theorem exactMagnitude_congr {first second : Scaled} (shift : Nat)
    (exponents : second.exponent + shift = first.exponent)
    (coefficients : second.coefficient = first.coefficient * 10 ^ shift) :
    first.exactMagnitude = second.exactMagnitude := by
  refine Binary64.nearest_congr (by positivity) (by positivity) ?_
  have powers : first.exponent.toNat + (-second.exponent).toNat =
      shift + second.exponent.toNat + (-first.exponent).toNat := by
    omega
  rw [coefficients, mul_assoc, mul_assoc, mul_assoc, ← pow_add, ← pow_add, ← pow_add, powers,
    add_assoc]

private theorem exactMagnitude_trimmed (zeros : Nat) (decimal : Scaled) :
    (decimal.trimmed zeros).exactMagnitude = decimal.exactMagnitude := by
  induction zeros generalizing decimal with
  | zero => rfl
  | succ zeros hyp =>
    rw [trimmed]
    split
    · next divisible =>
      rw [hyp]
      refine exactMagnitude_congr 1 rfl ?_
      change decimal.coefficient = decimal.coefficient / 10 * 10 ^ 1
      omega
    · rfl

end Scaled

namespace Binary64

/-! ## The cutoffs -/

private theorem quotient_pos {num den : Nat} (num_positive : 0 < num) (den_positive : 0 < den) :
    (0 : ℚ) < num / den := by
  have dividend : (0 : ℚ) < num := by exact_mod_cast num_positive
  have divisor : (0 : ℚ) < den := by exact_mod_cast den_positive
  positivity

/-- A quotient reaches the power of two that its exponent names. -/
theorem mul_pow_binaryExponent_le {num den : Nat} (num_positive : 0 < num)
    (den_positive : 0 < den) (natural : 0 ≤ binaryExponent num den) :
    den * 2 ^ (binaryExponent num den).toNat ≤ num := by
  have reached : (2 : ℚ) ^ binaryExponent num den ≤ num / den := by
    rw [binaryExponent_eq_log num_positive den_positive]
    exact_mod_cast Int.zpow_log_le_self (b := 2) (by norm_num)
      (quotient_pos num_positive den_positive)
  have cleared := (zpow_le_quotient_iff num den_positive _).mp reached
  rwa [if_pos natural] at cleared

/-- What is past the range has no finite magnitude. -/
theorem finiteMagnitudes_le_nearest {num den : Nat} (power : Nat) (positive : 0 < den)
    (past : 1024 ≤ power) (large : den * 2 ^ power ≤ num) :
    finiteMagnitudes ≤ nearest num den := by
  have num_positive : 0 < num := lt_of_lt_of_le (by positivity) large
  have exponent_past : (power : Int) ≤ binaryExponent num den := by
    rw [binaryExponent_eq_log num_positive positive]
    refine le_log ((zpow_le_quotient_iff num positive _).mpr ?_)
    rwa [if_pos (by omega), Int.toNat_natCast]
  have reached := mul_pow_binaryExponent_le num_positive positive (by omega)
  have raised : (binaryExponent num den).toNat = 52 + (raisedBy num den - 1074) := by
    rw [raisedBy]
    omega
  have enough : 2046 ≤ raisedBy num den := by
    rw [raisedBy]
    omega
  rw [raised] at reached
  have whole (widened : Nat) (positive : 0 < widened) :
      2 ^ 52 ≤ roundedQuotient (num * widened) (den * 2 ^ (raisedBy num den - 1074)) := by
    refine le_roundedQuotient (by positivity) ?_
    calc 2 ^ 52 * (den * 2 ^ (raisedBy num den - 1074))
        = den * 2 ^ (52 + (raisedBy num den - 1074)) := by rw [pow_add, Nat.mul_left_comm]
      _ ≤ num := reached
      _ ≤ num * widened := Nat.le_mul_of_pos_right _ positive
  have := whole (2 ^ (1074 - raisedBy num den)) (by positivity)
  rw [nearest_of_pos num_positive, finiteMagnitudes, Nat.pow_eq]
  omega

/-- What is below half of the least magnitude rounds to zero. -/
theorem nearest_eq_zero {num den : Nat} (power : Nat) (past : 1075 ≤ power)
    (small : num * 2 ^ power < den) : nearest num den = 0 := by
  rcases Nat.eq_zero_or_pos num with rfl | num_positive
  · exact nearest_zero den
  · have positive : 0 < den := by omega
    have below : (num : ℚ) / den < 2 ^ (-(power : Int)) := by
      refine not_le.mp fun reached => ?_
      have cleared := (zpow_le_quotient_iff num positive _).mp reached
      rw [if_neg (by omega), neg_neg, Int.toNat_natCast] at cleared
      exact absurd small (not_lt.mpr cleared)
    have unraised : raisedBy num den = 0 := by
      have := log_lt (quotient_pos num_positive positive) below
      rw [raisedBy, binaryExponent_eq_log num_positive positive]
      omega
    have half {unit : Nat} (fits : unit < power) : 2 * (num * 2 ^ unit) < den := by
      rw [Nat.mul_left_comm, ← pow_succ']
      exact lt_of_le_of_lt (Nat.mul_le_mul_left _ (Nat.pow_le_pow_right (by norm_num) fits)) small
    rw [nearest_of_pos num_positive, unraised, Nat.sub_zero, Nat.zero_sub, pow_zero, mul_one,
      roundedQuotient_eq_zero (half (by omega)), Nat.zero_mul]

private theorem pow_two_le_pow_ten (exponent : Nat) : 2 ^ (3 * exponent) ≤ 10 ^ exponent := by
  rw [pow_mul]
  exact Nat.pow_le_pow_left (by norm_num) exponent

/-- **The cutoffs change no finite magnitude.** -/
theorem nearestDecimal_cases (coefficient : Nat) (exponent : Int) :
    nearestDecimal coefficient exponent = Scaled.exactMagnitude ⟨coefficient, exponent⟩ ∨
      finiteMagnitudes ≤ nearestDecimal coefficient exponent ∧
        finiteMagnitudes ≤ Scaled.exactMagnitude ⟨coefficient, exponent⟩ := by
  unfold nearestDecimal
  split
  · next zero =>
    subst zero
    exact .inl (Scaled.exactMagnitude_of_zero exponent).symm
  · next nonzero =>
    split
    · next huge =>
      refine .inr ⟨le_rfl, finiteMagnitudes_le_nearest (3 * exponent.toNat)
        (by positivity) (by omega) ?_⟩
      dsimp only
      have none : (-exponent).toNat = 0 := by omega
      rw [none, pow_zero, one_mul]
      calc 2 ^ (3 * exponent.toNat) ≤ 10 ^ exponent.toNat := pow_two_le_pow_ten _
        _ ≤ coefficient * 10 ^ exponent.toNat :=
            Nat.le_mul_of_pos_left _ (Nat.pos_of_ne_zero nonzero)
    · split
      · next tiny =>
        -- eight to the power of the exponent is already enough to make the quotient vanish
        obtain ⟨power, power_eq⟩ :
            ∃ power, coefficient.log2 + 1 + power = 3 * (-exponent).toNat :=
          ⟨3 * (-exponent).toNat - (coefficient.log2 + 1), by omega⟩
        refine .inl (nearest_eq_zero power (by omega) ?_).symm
        dsimp only
        have none : exponent.toNat = 0 := by omega
        have leading := Nat.lt_log2_self (n := coefficient)
        rw [none, pow_zero, mul_one]
        calc coefficient * 2 ^ power
            < 2 ^ (coefficient.log2 + 1) * 2 ^ power := by gcongr
          _ = 2 ^ (3 * (-exponent).toNat) := by rw [← pow_add, power_eq]
          _ ≤ 10 ^ (-exponent).toNat := pow_two_le_pow_ten _
      · left
        split
        · next natural =>
          have none : (-exponent).toNat = 0 := by omega
          simp [Scaled.exactMagnitude, none]
        · next negative =>
          have none : exponent.toNat = 0 := by omega
          simp [Scaled.exactMagnitude, none]

/-- A decimal is rounded to the magnitude that is nearest to it. -/
theorem ofDecimal_eq (negative : Bool) (coefficient : Nat) (exponent : Int) :
    ofDecimal negative coefficient exponent =
      ofMagnitude negative (Scaled.exactMagnitude ⟨coefficient, exponent⟩) := by
  rcases nearestDecimal_cases coefficient exponent with same | ⟨past, exact_past⟩
  · rw [ofDecimal, same]
  · rw [ofDecimal, ofMagnitude, ofMagnitude, dif_neg (not_lt.mpr past),
      dif_neg (not_lt.mpr exact_past)]

private theorem exactMagnitude_of_magnitude {decimal : Scaled} {target : Nat}
    (finite : target < finiteMagnitudes) (reads : decimal.magnitude = target) :
    decimal.exactMagnitude = target := by
  rcases nearestDecimal_cases decimal.coefficient decimal.exponent with same | ⟨past, -⟩
  · rw [← reads]
    exact same.symm
  · exact absurd (reads ▸ past : finiteMagnitudes ≤ target) (not_le.mpr finite)

end Binary64

/-! ## The decimal that is written -/

private theorem magnitude_of_readingBack? {target num den : Nat} {exponent : Int} {decimal : Scaled}
    (found : readingBack? target num den exponent = some decimal) :
    decimal.magnitude = target := by
  unfold readingBack? at found
  simpa using List.find?_some found

/-- The exact expansion of a magnitude has that magnitude. -/
theorem exactMagnitude_exactDecimal (magnitude : Nat) :
    (exactDecimal magnitude).exactMagnitude = magnitude := by
  obtain ⟨power, den_eq⟩ : ∃ power, (Binary64.quotient magnitude).2 = 2 ^ power :=
    ⟨_, congrArg Prod.snd (Binary64.quotient_eq magnitude)⟩
  have expansion : exactDecimal magnitude =
      ⟨(Binary64.quotient magnitude).1 * 5 ^ power, -(power : Int)⟩ := by
    simp [exactDecimal, den_eq]
  rw [expansion, Scaled.exactMagnitude]
  dsimp only
  have none : (-(power : Int)).toNat = 0 := by omega
  rw [none, neg_neg, Int.toNat_natCast, pow_zero, mul_one]
  calc Binary64.nearest ((Binary64.quotient magnitude).1 * 5 ^ power) (10 ^ power)
      = Binary64.nearest (Binary64.quotient magnitude).1 (Binary64.quotient magnitude).2 := by
        refine Binary64.nearest_congr (by positivity) (Binary64.quotient_den_pos magnitude) ?_
        have ten : 5 * 2 = 10 := rfl
        rw [den_eq, mul_assoc, ← mul_pow, ten]
    _ = magnitude := Binary64.nearest_quotient magnitude

/-- **The shortest decimal reads back.** -/
theorem exactMagnitude_shortest {magnitude : Nat} (finite : magnitude < finiteMagnitudes) :
    (shortest magnitude).exactMagnitude = magnitude := by
  unfold shortest
  dsimp only
  rw [Scaled.exactMagnitude_trimmed]
  rcases tried : (List.range 17).findSome? _ with _ | decimal
  · exact exactMagnitude_exactDecimal magnitude
  · obtain ⟨more, -, found⟩ := List.exists_of_findSome?_eq_some tried
    exact Binary64.exactMagnitude_of_magnitude finite (magnitude_of_readingBack? found)

/-- The shortest decimal of a magnitude above zero is not zero. -/
theorem coefficient_shortest_ne_zero {magnitude : Nat} (positive : 0 < magnitude)
    (finite : magnitude < finiteMagnitudes) : (shortest magnitude).coefficient ≠ 0 := by
  intro zero
  have reads := exactMagnitude_shortest finite
  rw [Scaled.exactMagnitude, zero, Nat.zero_mul, Binary64.nearest_zero] at reads
  omega

end KeyChords.Decimal
