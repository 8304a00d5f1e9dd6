import KeyChords.Decimal.FloatText
import KeyChords.Decimal.Numeral
import KeyChords.Json.Value
import KeyChords.Text.Quoted

/-! # Writing JSON

A value is written either on one line, with a blank behind each comma and colon, or with every item
and field on a line of its own, two spaces deeper than what holds it. Empty lists and objects stay
closed up in both layouts. Text is written as it is but for the double quote, the backslash and the
control characters, and integers in full. A writer of files or messages first asks whether every
integer inside a value has few enough digits (`KeyChords.Json.Datum.isWritable`).
-/

namespace KeyChords.Json

open KeyChords.Decimal KeyChords.Text

/-- How floats are written in documents. -/
def numberStyle : FloatStyle where
  nan := "NaN"
  infinity := "Infinity"

/-- A character inside a text of a document. -/
def escapedChar (c : Char) : List Char :=
  if c = doubleQuote ∨ c = '\\' then ['\\', c]
  else if c.toNat < 0x20 then
    if c.toNat = 0x08 then ['\\', 'b']
    else if c = '\t' then ['\\', 't']
    else if c = '\n' then ['\\', 'n']
    else if c.toNat = 0x0c then ['\\', 'f']
    else if c = '\r' then ['\\', 'r']
    else '\\' :: 'u' :: hexDigits 4 c.toNat
  else [c]

/-- One letter inside a JSON string. A letter that is no character is written as it is. -/
def escapedLetter {κ : Type} [Letter κ] (letter : κ) : List κ :=
  match Letter.toChar? letter with
  | some c => Letter.ofChars (escapedChar c)
  | none => [letter]

@[simp]
theorem escapedLetter_char (c : Char) : escapedLetter c = escapedChar c := by
  simp [escapedLetter]

/-- A text of a document, with its quotes. -/
def stringLetters {κ : Type} [Letter κ] (text : List κ) : List κ :=
  Letter.ofChar doubleQuote :: text.flatMap escapedLetter ++ [Letter.ofChar doubleQuote]

/-- **How a value is laid out.** -/
inductive Layout where
  | inline
  | indented
  deriving DecidableEq, Repr

namespace Layout

/-- What stands between a bracket and what it encloses, at a depth of nesting. -/
def lineBreak (layout : Layout) (depth : Nat) : List Char :=
  match layout with
  | .inline => []
  | .indented => '\n' :: List.replicate (2 * depth) ' '

/-- What stands between two neighbours, at a depth of nesting. -/
def comma (layout : Layout) (depth : Nat) : List Char :=
  match layout with
  | .inline => [',', ' ']
  | .indented => ',' :: layout.lineBreak depth

end Layout

namespace Datum

variable {κ τ : Type} [Letter κ] [Spelling τ κ]

mutual

/-- **Writes a value** at a depth of nesting. -/
def write (layout : Layout) (depth : Nat) : Datum τ → List κ
  | .null => Letter.ofChars "null".toList
  | .bool value => Letter.ofChars (if value then "true".toList else "false".toList)
  | .int value => Letter.ofChars (intText value)
  | .float value => Letter.ofChars (value.text numberStyle)
  | .str text => stringLetters (Spelling.letters text)
  | .list items =>
    match items with
    | [] => Letter.ofChars ['[', ']']
    | item :: rest =>
      Letter.ofChars ('[' :: layout.lineBreak (depth + 1)) ++ write layout (depth + 1) item ++
        writeItems layout (depth + 1) rest ++ Letter.ofChars (layout.lineBreak depth ++ [']'])
  | .object fields =>
    match fields with
    | [] => Letter.ofChars ['\x7b', '\x7d']
    | (key, value) :: rest =>
      Letter.ofChars ('\x7b' :: layout.lineBreak (depth + 1)) ++
        stringLetters (Spelling.letters key) ++ Letter.ofChars [':', ' '] ++
        write layout (depth + 1) value ++ writeFields layout (depth + 1) rest ++
        Letter.ofChars (layout.lineBreak depth ++ ['\x7d'])
termination_by structural value => value

/-- The further items of a list, each behind a comma. -/
def writeItems (layout : Layout) (depth : Nat) : List (Datum τ) → List κ
  | [] => []
  | item :: rest =>
    Letter.ofChars (layout.comma depth) ++ write layout depth item ++
      writeItems layout depth rest
termination_by structural items => items

/-- The further fields of an object, each behind a comma. -/
def writeFields (layout : Layout) (depth : Nat) : List (τ × Datum τ) → List κ
  | [] => []
  | (key, value) :: rest =>
    Letter.ofChars (layout.comma depth) ++ stringLetters (Spelling.letters key) ++
      Letter.ofChars [':', ' '] ++ write layout depth value ++ writeFields layout depth rest
termination_by structural fields => fields

end

mutual

/-- Whether no integer inside a value is too long to be written. -/
def isWritable : Datum τ → Bool
  | .int value => value.natAbs < Nat.pow 10 digitLimit
  | .list items => areWritable items
  | .object fields => haveWritable fields
  | _ => true
termination_by structural value => value

/-- Whether the values of a list can be written. -/
def areWritable : List (Datum τ) → Bool
  | [] => true
  | item :: rest => isWritable item && areWritable rest
termination_by structural items => items

/-- Whether the values of fields can be written. -/
def haveWritable : List (τ × Datum τ) → Bool
  | [] => true
  | (_, value) :: rest => isWritable value && haveWritable rest
termination_by structural fields => fields

end

/-- The text of a value on one line. -/
def inlineText (value : Datum τ) : String :=
  String.ofList (Letter.written (value.write .inline 0))

/-- The text of a value with each item and field on its own line. -/
def indentedText (value : Datum τ) : String :=
  String.ofList (Letter.written (value.write .indented 0))

variable [LE τ] [DecidableLE τ]

/-- The letters of a value on one line, its keys sorted at every level. Values that differ only in
the order of their fields have the same letters. -/
def sortedLetters (value : Datum τ) : List κ :=
  value.sortKeys.write .inline 0

/-- The text of a value on one line, its keys sorted at every level. -/
def sortedText (value : Datum τ) : String :=
  String.ofList (Letter.written value.sortedLetters)

end Datum

end KeyChords.Json
