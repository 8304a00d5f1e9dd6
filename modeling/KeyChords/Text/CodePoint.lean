/-! # Code points

An escape in a document names a code point by its number, and the number may be that of half of a
surrogate pair. Such a half is no character. Two halves that stand next to each other in a text are
still two code points; they are written out as the one character whose halves they are.
-/

namespace KeyChords.Text

/-- **A code point**: a character, or half of a surrogate pair. -/
abbrev CodePoint := Fin 0x110000

namespace CodePoint

/-- Texts of code points are in the order of the first place at which they differ. -/
instance : LE (List CodePoint) := List.instLE

instance : DecidableLE (List CodePoint) := fun left right => List.decidableLE left right

/-- The code point of a character. -/
def ofChar (c : Char) : CodePoint :=
  ⟨c.toNat, by
    have valid : c.toNat < 0xd800 ∨ 0xdfff < c.toNat ∧ c.toNat < 0x110000 := c.valid
    omega⟩

/-- Whether a code point is the first half of a pair. -/
def isHighHalf (point : CodePoint) : Bool := 0xd800 ≤ point.val && point.val < 0xdc00

/-- Whether a code point is the second half of a pair. -/
def isLowHalf (point : CodePoint) : Bool := 0xdc00 ≤ point.val && point.val < 0xe000

/-- The character that a code point is, unless it is half of a pair. -/
def toChar? (point : CodePoint) : Option Char :=
  if point.isHighHalf || point.isLowHalf then none else some (Char.ofNat point.val)

/-- The character that a pair of halves stands for. -/
def paired (high low : CodePoint) : Char :=
  Char.ofNat (0x10000 + (high.val - 0xd800) * 0x400 + (low.val - 0xdc00))

/-- The character that stands for what is none. -/
def replacement : Char := Char.ofNat 0xfffd

/-- **The characters that code points are written out as.** -/
def written : List CodePoint → List Char
  | [] => []
  | [last] => [last.toChar?.getD replacement]
  | first :: second :: rest =>
    if first.isHighHalf && second.isLowHalf then paired first second :: written rest
    else first.toChar?.getD replacement :: written (second :: rest)

private theorem isHighHalf_ofChar (c : Char) : (ofChar c).isHighHalf = false := by
  have valid : c.toNat < 0xd800 ∨ 0xdfff < c.toNat ∧ c.toNat < 0x110000 := c.valid
  unfold isHighHalf ofChar
  simp only [Bool.and_eq_false_iff, decide_eq_false_iff_not]
  omega

private theorem isLowHalf_ofChar (c : Char) : (ofChar c).isLowHalf = false := by
  have valid : c.toNat < 0xd800 ∨ 0xdfff < c.toNat ∧ c.toNat < 0x110000 := c.valid
  unfold isLowHalf ofChar
  simp only [Bool.and_eq_false_iff, decide_eq_false_iff_not]
  omega

@[simp]
theorem toChar?_ofChar (c : Char) : (ofChar c).toChar? = some c := by
  unfold toChar?
  rw [isHighHalf_ofChar, isLowHalf_ofChar]
  simp [ofChar]

/-- **Characters are written out as they are.** -/
@[simp]
theorem written_map_ofChar (text : List Char) : written (text.map ofChar) = text := by
  induction text with
  | nil => rfl
  | cons c rest hyp =>
    cases rest with
    | nil => simp [written]
    | cons d rest => simpa [written, isHighHalf_ofChar] using hyp

theorem ofChar_injective {c d : Char} (same : ofChar c = ofChar d) : c = d := by
  have := congrArg toChar? same
  simpa using this

end CodePoint

end KeyChords.Text
