import KeyChords.Decimal.Binary64

/-! # Shortest decimals

Among the decimals that read back as a given binary64 number, the shortest one is written, and of
those the one nearest to the number, a tie going to the even coefficient. For each count of digits
only the two neighbours of the number on the grid of that many digits have to be tried: if any point
of the grid reads back, one of these does.
-/

namespace KeyChords.Decimal

/-- **A decimal**: a coefficient and a power of ten. -/
structure Scaled where
  coefficient : Nat
  exponent : Int
  deriving DecidableEq, Repr

namespace Scaled

/-- The magnitude that a decimal reads back as. -/
def magnitude (decimal : Scaled) : Nat :=
  Binary64.nearestDecimal decimal.coefficient decimal.exponent

/-- Moves the zeros at the end of the coefficient into the exponent, at most `zeros` of them. -/
def trimmed : (zeros : Nat) → Scaled → Scaled
  | 0, decimal => decimal
  | zeros + 1, decimal =>
    if decimal.coefficient % 10 = 0 then
      trimmed zeros ⟨decimal.coefficient / 10, decimal.exponent + 1⟩
    else decimal

end Scaled

/-- The number of decimal digits of a number. -/
def digitCount (value : Nat) : Nat :=
  (Nat.toDigits 10 value).length

/-- The greatest exponent `k` with `10 ^ k ≤ num / den`, for positive `num` and `den`. -/
def decimalExponent (num den : Nat) : Int :=
  let guess : Int := (digitCount num : Int) - digitCount den
  let reached :=
    if 0 ≤ guess then den * Nat.pow 10 guess.toNat ≤ num else den ≤ num * Nat.pow 10 (-guess).toNat
  if reached then guess else guess - 1

/-- The decimal of a given precision that reads back as the magnitude `target`, whose exact value is
`num / den`: of the two grid neighbours the nearer one that does. -/
def readingBack? (target num den : Nat) (exponent : Int) : Option Scaled :=
  let scaledNum := if 0 ≤ exponent then num else num * Nat.pow 10 (-exponent).toNat
  let scaledDen := if 0 ≤ exponent then den * Nat.pow 10 exponent.toNat else den
  let below : Scaled := ⟨scaledNum / scaledDen, exponent⟩
  let above : Scaled := ⟨scaledNum / scaledDen + 1, exponent⟩
  let nearer := Binary64.roundedQuotient scaledNum scaledDen
  let nearerFirst := if nearer = below.coefficient then [below, above] else [above, below]
  nearerFirst.find? fun decimal => decimal.magnitude = target

/-- The exact decimal expansion of a magnitude, whose denominator is a power of two. -/
def exactDecimal (magnitude : Nat) : Scaled :=
  let (num, den) := Binary64.quotient magnitude
  ⟨num * Nat.pow 5 (Nat.log2 den), -(Nat.log2 den : Int)⟩

/-- **The shortest decimal** that reads back as a positive magnitude. Seventeen digits always
suffice; the exact expansion stands behind them. -/
def shortest (magnitude : Nat) : Scaled :=
  let (num, den) := Binary64.quotient magnitude
  let top := decimalExponent num den
  let found := (List.range 17).findSome? fun (more : Nat) =>
    readingBack? magnitude num den (top - more)
  (found.getD (exactDecimal magnitude)).trimmed 17

end KeyChords.Decimal
