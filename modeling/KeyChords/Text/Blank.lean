import KeyChords.Text.CharClass

/-! # Blank characters

White space around a number carries no meaning, and neither do blanks around the value of an option.
The blanks are white space together with the four information separators U+001C to U+001F.
-/

namespace KeyChords.Text

/-- White space, as Unicode has it. -/
def whiteSpace : CharClass where
  ranges := [
    (0x9, 0xd), (0x20, 0x20), (0x85, 0x85), (0xa0, 0xa0), (0x1680, 0x1680), (0x2000, 0x200a),
    (0x2028, 0x2029), (0x202f, 0x202f), (0x205f, 0x205f), (0x3000, 0x3000)]

/-- The control characters that separate pieces of information. -/
def separators : CharClass where
  ranges := [(0x1c, 0x1f)]

/-- Whether a character is white space. -/
def isWhite (c : Char) : Bool :=
  whiteSpace.contains c

/-- A blank: white space or an information separator. -/
def isBlank (c : Char) : Bool :=
  isWhite c || separators.contains c

/-- The text without the leading and trailing characters of a kind. -/
def trim (kind : Char → Bool) (text : List Char) : List Char :=
  ((text.dropWhile kind).reverse.dropWhile kind).reverse

/-- A text without the blanks around it. -/
def strip (text : List Char) : List Char :=
  trim isBlank text

end KeyChords.Text
