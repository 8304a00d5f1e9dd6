import KeyChords.Decimal.Binary64
import KeyChords.Text.Blank
import KeyChords.Text.Digit

/-! # Decimal numerals

A numeral is a whole part, an optional fraction behind a point and an optional exponent. One of
whole part and fraction may be empty. The reader takes a complete text: what is not a numeral from
its first to its last character has no reading.

An authored number is read more freely: between white space, in the digits of any script, and with
underscores that group its digits.
-/

namespace KeyChords.Decimal

open KeyChords.Text

/-- The greatest number of digits of a decimal integer that is read or written. -/
def digitLimit : Nat := 4300

/-- A numeral that was read: its value is `coefficient * 10 ^ exponent`. -/
structure Numeral where
  whole : List Char
  coefficient : Nat
  exponent : Int
  integral : Bool
  deriving DecidableEq, Repr

/-- The value of a digit sequence, with what is already read. -/
def digitsValue (value : Nat) (digits : List Char) : Nat :=
  digits.foldl (fun value c => 10 * value + (c.toNat - 0x30)) value

/-- The number that a text of ASCII digits spells. -/
def readNat? (text : List Char) : Option Nat :=
  if text ≠ [] ∧ text.all Char.isDigit then some (digitsValue 0 text) else none

/-- The exponent behind the digits: nothing at all, or the letter `e`, a sign and digits. -/
def readExponent? : List Char → Option (Option Int)
  | [] => some none
  | mark :: rest =>
    if mark = 'e' ∨ mark = 'E' then
      match rest with
      | '-' :: digits => (readNat? digits).map fun value => some (-(value : Int))
      | '+' :: digits => (readNat? digits).map fun value => some (value : Int)
      | digits => (readNat? digits).map fun value => some (value : Int)
    else none

/-- The fraction behind the whole part, when a point opens one, and what follows. -/
def splitFraction : List Char → Option (List Char) × List Char
  | '.' :: rest => (some (rest.takeWhile Char.isDigit), rest.dropWhile Char.isDigit)
  | rest => (none, rest)

/-- **Reads an unsigned decimal numeral**, which has a digit in front of its point or behind it. -/
def Numeral.read? (text : List Char) : Option Numeral :=
  let whole := text.takeWhile Char.isDigit
  let (fraction, rest) := splitFraction (text.dropWhile Char.isDigit)
  let digits := fraction.getD []
  if whole = [] ∧ digits = [] then none
  else
    (readExponent? rest).map fun exponent =>
      { whole
        coefficient := digitsValue (digitsValue 0 whole) digits
        exponent := exponent.getD 0 - digits.length
        integral := fraction.isNone && exponent.isNone }

/-- The float that a numeral spells. -/
def Numeral.toBinary64 (negative : Bool) (numeral : Numeral) : Binary64 :=
  Binary64.ofDecimal negative numeral.coefficient numeral.exponent

/-- A sign in front of a text, and the rest. No sign is a plus. -/
def splitSign : List Char → Bool × List Char
  | '-' :: rest => (true, rest)
  | '+' :: rest => (false, rest)
  | rest => (false, rest)

/-- The text without the underscores that group digits, each of which stands between two of them.
The flag tells whether a digit stands in front. -/
def ungrouped? (behindDigit : Bool) : List Char → Option (List Char)
  | [] => some []
  | '_' :: rest =>
    match rest with
    | c :: more =>
      if behindDigit && c.isDigit then (c :: ·) <$> ungrouped? true more else none
    | [] => none
  | c :: rest => (c :: ·) <$> ungrouped? c.isDigit rest

/-- A decimal digit of any script as the digit of the same value from `0` to `9`, and every other
character as it is. -/
def plainDigit (c : Char) : Char :=
  match decimalValue? c with
  | some digit => Char.ofNat (0x30 + digit)
  | none => c

/-- The binary64 number that a signed numeral spells, or one of the names of the values that no
numeral has, in letters of either case. -/
def Binary64.ofNumeral? (text : List Char) : Option Binary64 :=
  let (negative, rest) := splitSign text
  let name := rest.map Char.toLower
  if name = "nan".toList then some .nan
  else if name = "inf".toList ∨ name = "infinity".toList then some (.infinite negative)
  else (Numeral.read? rest).map (Numeral.toBinary64 negative)

/-- **The binary64 number that an authored text spells.** -/
def Binary64.ofText? (text : String) : Option Binary64 :=
  ungrouped? false ((trim isWhite text.toList).map plainDigit) >>= Binary64.ofNumeral?

end KeyChords.Decimal
