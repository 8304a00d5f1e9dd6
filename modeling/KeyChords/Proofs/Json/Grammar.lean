import KeyChords.Json.Printer
import KeyChords.Proofs.Decimal.NumeralText

/-! # The grammar of JSON texts

The grammar of standard JSON, as predicates on rows of characters. Space may stand around the six
structural characters and around the whole text; a string holds no control character, and the only
words are `null`, `true` and `false`. A number has no needless zero in front, and digits on both
sides of its point.
-/

namespace KeyChords.Json.Grammar

open KeyChords.Decimal KeyChords.Text

/-! ## Space and structure -/

/-- White space between tokens, possibly none. -/
def IsSpace (text : List Char) : Prop :=
  ∀ c ∈ text, c = ' ' ∨ c = '\t' ∨ c = '\n' ∨ c = '\r'

/-- A structural character, with space around it. -/
def IsMark (mark : Char) (text : List Char) : Prop :=
  ∃ before after, IsSpace before ∧ IsSpace after ∧ text = before ++ mark :: after

/-- Pieces with a comma between any two neighbours. -/
inductive IsSeparated : List (List Char) → List Char → Prop where
  | single (piece : List Char) : IsSeparated [piece] piece
  | cons (piece : List Char) {comma text : List Char} {rest : List (List Char)} :
      IsMark ',' comma → IsSeparated rest text →
      IsSeparated (piece :: rest) (piece ++ comma ++ text)

/-- Pieces between brackets, possibly none. -/
def IsEnclosed (opening closing : Char) (pieces : List (List Char)) (text : List Char) : Prop :=
  ∃ first inside last, IsMark opening first ∧ IsMark closing last ∧
    ((pieces = [] ∧ inside = []) ∨ IsSeparated pieces inside) ∧ text = first ++ inside ++ last

/-! ## Strings -/

/-- A hexadecimal digit of either case. -/
def IsHexDigit (c : Char) : Prop :=
  ('0' ≤ c ∧ c ≤ '9') ∨ ('a' ≤ c ∧ c ≤ 'f') ∨ ('A' ≤ c ∧ c ≤ 'F')

/-- One character of a string: as it is, or escaped. -/
inductive IsCharacter : List Char → Prop where
  | plain {c : Char} : 0x20 ≤ c.toNat → c ≠ doubleQuote → c ≠ '\\' → IsCharacter [c]
  | escape {c : Char} :
      c ∈ [doubleQuote, '\\', '/', 'b', 'f', 'n', 'r', 't'] → IsCharacter ['\\', c]
  | unit {digits : List Char} :
      digits.length = 4 → (∀ c ∈ digits, IsHexDigit c) → IsCharacter ('\\' :: 'u' :: digits)

/-- A text in double quotes. -/
def IsString (text : List Char) : Prop :=
  ∃ characters : List (List Char), (∀ character ∈ characters, IsCharacter character) ∧
    text = doubleQuote :: characters.flatten ++ [doubleQuote]

/-! ## Numbers -/

/-- Digits, at least one. -/
def IsDigits (text : List Char) : Prop :=
  text ≠ [] ∧ ∀ c ∈ text, '0' ≤ c ∧ c ≤ '9'

/-- The whole part of a number: zero, or digits that begin with another one. -/
def IsWhole (text : List Char) : Prop :=
  text = ['0'] ∨ (IsDigits text ∧ text.head? ≠ some '0')

/-- A fraction, which may be missing. -/
def IsFraction (text : List Char) : Prop :=
  text = [] ∨ ∃ digits, IsDigits digits ∧ text = '.' :: digits

/-- An exponent, which may be missing. -/
def IsExponent (text : List Char) : Prop :=
  text = [] ∨ ∃ mark sign digits, (mark = 'e' ∨ mark = 'E') ∧
    (sign = [] ∨ sign = ['+'] ∨ sign = ['-']) ∧ IsDigits digits ∧ text = mark :: sign ++ digits

/-- **A number.** -/
def IsNumber (text : List Char) : Prop :=
  ∃ sign whole fraction exponent, (sign = [] ∨ sign = ['-']) ∧ IsWhole whole ∧
    IsFraction fraction ∧ IsExponent exponent ∧ text = sign ++ whole ++ fraction ++ exponent

/-! ## Values -/

/-- A member of an object: its key, the colon, its value. -/
structure Member where
  key : List Char
  colon : List Char
  value : List Char

/-- The text of a member. -/
def Member.text (member : Member) : List Char :=
  member.key ++ member.colon ++ member.value

/-- **The texts of JSON values.** -/
inductive IsValue : List Char → Prop where
  | null : IsValue "null".toList
  | true : IsValue "true".toList
  | false : IsValue "false".toList
  | number {text : List Char} : IsNumber text → IsValue text
  | string {text : List Char} : IsString text → IsValue text
  | array {items : List (List Char)} {text : List Char} :
      (∀ item ∈ items, IsValue item) → IsEnclosed '[' ']' items text → IsValue text
  | object {members : List Member} {text : List Char} :
      (∀ member ∈ members, IsString member.key ∧ IsMark ':' member.colon) →
      (∀ member ∈ members, IsValue member.value) →
      IsEnclosed '\x7b' '\x7d' (members.map Member.text) text → IsValue text

/-- **An object.** -/
def IsObject (text : List Char) : Prop :=
  ∃ members : List Member, (∀ member ∈ members, IsString member.key ∧ IsMark ':' member.colon) ∧
    (∀ member ∈ members, IsValue member.value) ∧
    IsEnclosed '\x7b' '\x7d' (members.map Member.text) text

/-- **A JSON text**: a value with space around it. -/
def IsText (text : List Char) : Prop :=
  ∃ before value after, IsSpace before ∧ IsSpace after ∧ IsValue value ∧
    text = before ++ value ++ after

/-- **A JSON text that is an array of objects.** -/
def IsObjectList (text : List Char) : Prop :=
  ∃ before objects array after, IsSpace before ∧ IsSpace after ∧
    (∀ object ∈ objects, IsObject object) ∧ IsEnclosed '[' ']' objects array ∧
    text = before ++ array ++ after

theorem IsObject.isValue {text : List Char} (object : IsObject text) : IsValue text := by
  obtain ⟨members, keys, values, enclosed⟩ := object
  exact .object keys values enclosed

theorem IsObjectList.isText {text : List Char} (list : IsObjectList text) : IsText text := by
  obtain ⟨before, objects, array, after, front, behind, each, enclosed, rfl⟩ := list
  exact ⟨before, array, after, front, behind,
    .array (fun object member => (each object member).isValue) enclosed, rfl⟩

theorem isSpace_nil : IsSpace [] := by simp [IsSpace]

/-- A structural character with space behind it. -/
theorem isMark_cons {after : List Char} (mark : Char) (space : IsSpace after) :
    IsMark mark (mark :: after) :=
  ⟨[], after, isSpace_nil, space, rfl⟩

/-- A structural character with space in front of it. -/
theorem isMark_concat {before : List Char} (mark : Char) (space : IsSpace before) :
    IsMark mark (before ++ [mark]) :=
  ⟨before, [], space, isSpace_nil, rfl⟩

end KeyChords.Json.Grammar
