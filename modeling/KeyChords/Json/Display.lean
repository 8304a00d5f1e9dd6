import KeyChords.Fault
import KeyChords.Json.Printer

/-! # Values inside messages

A message shows a value in a notation of its own: texts are quoted the way messages quote them, the
three constants are capitalised, and numbers without a finite value have lowercase names. No
notation writes an integer that is too long, so a value that holds one cannot be shown either.
-/

namespace KeyChords.Json

open KeyChords.Decimal KeyChords.Text

/-- How messages name the numbers without a finite value. -/
def shownNumberStyle : FloatStyle where
  nan := "nan"
  infinity := "inf"

namespace Datum

variable {κ τ : Type} [Letter κ] [Spelling τ κ]

/-- The name of a value's kind. -/
def kindName : Datum τ → String
  | .null => "NoneType"
  | .bool _ => "bool"
  | .int _ => "int"
  | .float _ => "float"
  | .str _ => "str"
  | .list _ => "list"
  | .object _ => "dict"

mutual

/-- The characters that show a value. -/
def shownChars : Datum τ → List Char
  | .null => "None".toList
  | .bool value => if value then "True".toList else "False".toList
  | .int value => intText value
  | .float value => value.text shownNumberStyle
  | .str text => quotedChars (Spelling.letters text)
  | .list items =>
    match items with
    | [] => ['[', ']']
    | item :: rest => '[' :: shownChars item ++ shownItems rest ++ [']']
  | .object fields =>
    match fields with
    | [] => ['\x7b', '\x7d']
    | (key, value) :: rest =>
      '\x7b' :: quotedChars (Spelling.letters key) ++ ':' :: ' ' :: shownChars value ++
        shownFields rest ++ ['\x7d']
termination_by structural value => value

/-- The further items of a list, each behind a comma. -/
def shownItems : List (Datum τ) → List Char
  | [] => []
  | item :: rest => ',' :: ' ' :: shownChars item ++ shownItems rest
termination_by structural items => items

/-- The further fields of an object, each behind a comma. -/
def shownFields : List (τ × Datum τ) → List Char
  | [] => []
  | (key, value) :: rest =>
    ',' :: ' ' :: quotedChars (Spelling.letters key) ++ ':' :: ' ' :: shownChars value ++
      shownFields rest
termination_by structural fields => fields

end

/-- **A value as a message shows it.** -/
def shown (value : Datum τ) : String :=
  String.ofList value.shownChars

/-- Refuses a value with an integer that is too long to be written. -/
def requireWritable (value : Datum τ) : Except Fault Unit :=
  if value.isWritable then .ok () else .error .integerLength

/-- What passes the check is what can be written. -/
theorem requireWritable_eq_ok_iff {value : Datum τ} :
    value.requireWritable = .ok () ↔ value.isWritable = true := by
  cases writable : value.isWritable <;> simp [requireWritable, writable]

/-- What cannot be written fails the check with the length of an integer, and nothing else does. -/
theorem requireWritable_eq_error_iff {value : Datum τ} {fault : Fault} :
    value.requireWritable = .error fault ↔ value.isWritable = false ∧ fault = .integerLength := by
  cases writable : value.isWritable with
  | true => simp [requireWritable, writable]
  | false => simp [requireWritable, writable, @eq_comm _ fault]

/-- A value as a message shows it, if it can be written at all. -/
def display (value : Datum τ) : Except Fault String := do
  value.requireWritable
  return value.shown

/-- A value in the place of a text: a text as it is, everything else as a message shows it. -/
def plainText : Datum τ → τ
  | .str text => text
  | value => Spelling.ofString value.shown

end Datum

end KeyChords.Json
