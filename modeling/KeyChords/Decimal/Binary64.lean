/-! # Binary64 numbers

A finite number of the binary64 format is a sign and a magnitude. The magnitudes are numbered in
increasing order from zero: the number `m` stands for `m` units of `2 ^ -1074` below `2 ^ 53`, and
every further run of `2 ^ 52` numbers doubles the unit. The numbering is the sixty-three low bits of
the interchange format, so equal numbers have equal magnitudes.
-/

namespace KeyChords.Decimal

/-- How many finite magnitudes there are. The next number would be infinity. -/
def finiteMagnitudes : Nat := 2047 * Nat.pow 2 52

/-- **A binary64 number.** Positive and negative zero differ, and there is one value that is not a
number. -/
inductive Binary64 where
  | nan
  | infinite (negative : Bool)
  | finite (negative : Bool) (magnitude : Fin finiteMagnitudes)
  deriving DecidableEq

namespace Binary64

/-- How far a magnitude's unit is doubled: no time in the first two runs, once more in each later
one. -/
def doublings (magnitude : Nat) : Nat :=
  magnitude / Nat.pow 2 52 - 1

/-- The significand of a magnitude: what is left of it without its doublings. -/
def significand (magnitude : Nat) : Nat :=
  magnitude - doublings magnitude * Nat.pow 2 52

/-- The exact value of a magnitude as a quotient. Its denominator is a power of two. -/
def quotient (magnitude : Nat) : Nat × Nat :=
  let raised := doublings magnitude
  if raised ≤ 1074 then (significand magnitude, Nat.pow 2 (1074 - raised))
  else (significand magnitude * Nat.pow 2 (raised - 1074), 1)

/-- A quotient rounded to the nearest natural number, a half to the even neighbour. -/
def roundedQuotient (num den : Nat) : Nat :=
  let whole := num / den
  let twice := 2 * (num % den)
  if twice < den then whole
  else if den < twice then whole + 1
  else whole + whole % 2

/-- The greatest exponent `k` with `2 ^ k ≤ num / den`, for positive `num` and `den`. -/
def binaryExponent (num den : Nat) : Int :=
  let guess : Int := (Nat.log2 num : Int) - Nat.log2 den
  let reached :=
    if 0 ≤ guess then den * Nat.pow 2 guess.toNat ≤ num else den ≤ num * Nat.pow 2 (-guess).toNat
  if reached then guess else guess - 1

/-- The magnitude nearest to a quotient, a tie to the even one. A quotient past the finite range
gives a number that is no finite magnitude. -/
def nearest (num den : Nat) : Nat :=
  if num = 0 then 0
  else
    let raised := (binaryExponent num den + 1022).toNat
    raised * Nat.pow 2 52 +
      (if raised ≤ 1074 then roundedQuotient (num * Nat.pow 2 (1074 - raised)) den
       else roundedQuotient num (den * Nat.pow 2 (raised - 1074)))

/-- The number with a sign and a magnitude, infinite when the magnitude is past the finite ones. -/
def ofMagnitude (negative : Bool) (magnitude : Nat) : Binary64 :=
  if finite : magnitude < finiteMagnitudes then .finite negative ⟨magnitude, finite⟩
  else .infinite negative

/-- The magnitude nearest to `coefficient * 10 ^ exponent`. Exponents far outside the range are
settled without computing their power of ten: `10 ^ 400` is past the finite numbers, and everything
below `10 ^ -400` rounds to zero. -/
def nearestDecimal (coefficient : Nat) (exponent : Int) : Nat :=
  if coefficient = 0 then 0
  else if 400 < exponent then finiteMagnitudes
  else if exponent + Nat.log2 coefficient + 1 < -400 then 0
  else if 0 ≤ exponent then nearest (coefficient * Nat.pow 10 exponent.toNat) 1
  else nearest coefficient (Nat.pow 10 (-exponent).toNat)

/-- The float that is nearest to a decimal. -/
def ofDecimal (negative : Bool) (coefficient : Nat) (exponent : Int) : Binary64 :=
  ofMagnitude negative (nearestDecimal coefficient exponent)

/-- Whether a float is a zero, of either sign. -/
def isZero : Binary64 → Bool
  | .finite _ magnitude => magnitude.val = 0
  | _ => false

end Binary64

end KeyChords.Decimal
