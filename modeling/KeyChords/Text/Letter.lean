import KeyChords.Text.CodePoint

/-! # Kinds of text

Authored text is a row of characters, and text that was read from a document a row of code points.
What is done with text of either kind asks little of it: which of its letters are characters, what
number a letter has, and what it is written out as.
-/

namespace KeyChords.Text

/-- **A kind of letter**: the characters, and possibly letters that are none. -/
class Letter (κ : Type) where
  ofChar : Char → κ
  /-- The character that a letter is, if it is one. -/
  toChar? : κ → Option Char
  code : κ → Nat
  written : List κ → List Char
  toChar?_ofChar : ∀ c, toChar? (ofChar c) = some c
  code_ofChar : ∀ c, code (ofChar c) = c.toNat
  written_ofChar : ∀ text, written (text.map ofChar) = text

instance : Letter Char where
  ofChar := id
  toChar? := some
  code := Char.toNat
  written := id
  toChar?_ofChar _ := rfl
  code_ofChar _ := rfl
  written_ofChar := by simp

instance : Letter CodePoint where
  ofChar := CodePoint.ofChar
  toChar? := CodePoint.toChar?
  code := Fin.val
  written := CodePoint.written
  toChar?_ofChar := CodePoint.toChar?_ofChar
  code_ofChar _ := rfl
  written_ofChar := CodePoint.written_map_ofChar

namespace Letter

variable {κ : Type} [Letter κ]

/-- The letters of characters. -/
def ofChars (text : List Char) : List κ :=
  text.map ofChar

@[simp]
theorem ofChar_char (c : Char) : (ofChar c : Char) = c := rfl

@[simp]
theorem toChar?_char (c : Char) : toChar? c = some c := rfl

@[simp]
theorem written_chars (text : List Char) : written text = text := rfl

@[simp]
theorem ofChars_chars (text : List Char) : (ofChars text : List Char) = text :=
  List.map_id text

end Letter

/-- **A kind of text**, with the letters that it is made of. -/
class Spelling (τ : Type) (κ : outParam Type) where
  ofString : String → τ
  letters : τ → List κ

instance : Spelling String Char where
  ofString := id
  letters := String.toList

instance : Spelling (List CodePoint) CodePoint where
  ofString text := Letter.ofChars text.toList
  letters := id

namespace Spelling

@[simp]
theorem ofString_string (text : String) : (ofString text : String) = text := rfl

@[simp]
theorem letters_string (text : String) : letters text = text.toList := rfl

end Spelling

end KeyChords.Text
