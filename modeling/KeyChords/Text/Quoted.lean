import KeyChords.Text.Letter
import KeyChords.Text.Printable

/-! # Quoted text in messages

A text that a message mentions stands between quotes: single quotes, unless the text holds a single
quote and no double one. Inside, the chosen quote and the backslash are escaped by a backslash, line
feed, carriage return and tab have their letters, and every other character that is not printable is
written by its code point in two, four or eight hexadecimal digits.
-/

namespace KeyChords.Text

/-- The single quote. -/
def singleQuote : Char := Char.ofNat 0x27

/-- The double quote. -/
def doubleQuote : Char := Char.ofNat 0x22

/-- The character of a hexadecimal digit. -/
def hexDigit (value : Nat) : Char :=
  if value < 10 then Char.ofNat (0x30 + value) else Char.ofNat (0x57 + value)

/-- A number in exactly `width` hexadecimal digits, its higher digits cut off. -/
def hexDigits : (width : Nat) → (value : Nat) → List Char
  | 0, _ => []
  | width + 1, value => hexDigits width (value / 16) ++ [hexDigit (value % 16)]

@[simp]
theorem length_hexDigits (width value : Nat) : (hexDigits width value).length = width := by
  induction width generalizing value with
  | zero => rfl
  | succ width hyp => simp [hexDigits, hyp]

/-- The escape of a code point, in the shortest of the three widths. -/
def codeEscape (code : Nat) : List Char :=
  if code < 0x100 then '\\' :: 'x' :: hexDigits 2 code
  else if code < 0x10000 then '\\' :: 'u' :: hexDigits 4 code
  else '\\' :: 'U' :: hexDigits 8 code

/-- A character inside a quoted text. -/
def quotedChar (mark c : Char) : List Char :=
  if c = mark ∨ c = '\\' then ['\\', c]
  else if c = '\n' then ['\\', 'n']
  else if c = '\r' then ['\\', 'r']
  else if c = '\t' then ['\\', 't']
  else if isPrintable c then [c]
  else codeEscape c.toNat

/-- The quotes around a text: double ones when only single ones are in it. -/
def quoteMark (text : List Char) : Char :=
  if singleQuote ∈ text ∧ doubleQuote ∉ text then doubleQuote else singleQuote

/-- One letter of a text quoted by `mark`. A letter that is no character is not printable. -/
def quotedLetter {κ : Type} [Letter κ] (mark : Char) (letter : κ) : List Char :=
  match Letter.toChar? letter with
  | some c => quotedChar mark c
  | none => codeEscape (Letter.code letter)

/-- The characters of a quoted text. -/
def quotedChars {κ : Type} [Letter κ] (text : List κ) : List Char :=
  let mark := quoteMark (text.filterMap Letter.toChar?)
  mark :: text.flatMap (quotedLetter mark) ++ [mark]

/-- **A text as messages quote it.** -/
def quoted (text : String) : String :=
  String.ofList (quotedChars text.toList)

end KeyChords.Text
