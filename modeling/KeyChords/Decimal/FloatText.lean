import KeyChords.Decimal.Shortest

/-! # The text of binary64 numbers

A finite number is written by its shortest digits, so that it reads back as the same number. The
digits stand in positional form, with at least one digit after the point, when the exponent of the
first digit is from -4 to 15; otherwise the point follows the first digit and a signed exponent of
at least two digits ends the text.
-/

namespace KeyChords.Decimal

/-- **How binary64 numbers are spelled.** -/
structure FloatStyle where
  nan : String
  infinity : String
  positionalFrom : Int := -4
  positionalBelow : Int := 16
  exponentWidth : Nat := 2

/-- The decimal digits of a natural number. -/
def natDigits (value : Nat) : List Char :=
  Nat.toDigits 10 value

/-- The digits of a number behind as many zeros as the width asks for. -/
def paddedDigits (width value : Nat) : List Char :=
  List.replicate (width - digitCount value) '0' ++ natDigits value

/-- A number's digits in positional form, `point` of them before the decimal point. -/
def positional (digits : List Char) (point : Int) : List Char :=
  if point ≤ 0 then '0' :: '.' :: List.replicate (-point).toNat '0' ++ digits
  else if digits.length ≤ point then
    digits ++ List.replicate (point.toNat - digits.length) '0' ++ ['.', '0']
  else digits.take point.toNat ++ '.' :: digits.drop point.toNat

/-- A number's digits with the point behind the first one, and the exponent of that digit. -/
def scientific (width : Nat) (digits : List Char) (exponent : Int) : List Char :=
  let fraction := match digits.drop 1 with
    | [] => []
    | others => '.' :: others
  digits.take 1 ++ fraction ++
    'e' :: (if exponent < 0 then '-' else '+') :: paddedDigits width exponent.natAbs

/-- The text of a magnitude: its shortest decimal, with a point or with an exponent. -/
def magnitudeText (style : FloatStyle) (magnitude : Nat) : List Char :=
  if magnitude = 0 then ['0', '.', '0']
  else
    let decimal := shortest magnitude
    let digits := natDigits decimal.coefficient
    let point := digits.length + decimal.exponent
    if style.positionalFrom ≤ point - 1 ∧ point - 1 < style.positionalBelow then
      positional digits point
    else scientific style.exponentWidth digits (point - 1)

/-- A text with a minus sign in front if it is that of a negative number. -/
def signed (negative : Bool) (text : List Char) : List Char :=
  if negative then '-' :: text else text

/-- **The text of a float** in a style. -/
def Binary64.text (style : FloatStyle) : Binary64 → List Char
  | .nan => style.nan.toList
  | .infinite negative => signed negative style.infinity.toList
  | .finite negative magnitude => signed negative (magnitudeText style magnitude)

/-- The text of an integer. -/
def intText (value : Int) : List Char :=
  signed (value < 0) (natDigits value.natAbs)

end KeyChords.Decimal
