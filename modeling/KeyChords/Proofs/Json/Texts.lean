import Mathlib.Tactic.IntervalCases
import KeyChords.Json.Printer
import KeyChords.Json.Token

/-! # Quoted texts

Every character of a text is written as itself or as an escape, and each of these is read as that
one character. So a quoted text is read as the text it was written for, whatever follows it.
-/

namespace KeyChords.Json

open KeyChords.Text

/-! ## Hexadecimal digits -/

private theorem hexValue?_hexDigit {value : Nat} (small : value < 16) :
    hexValue? (hexDigit value) = some value := by
  interval_cases value <;> rfl

/-- The last digit of a run is read behind the others. -/
theorem hexRun?_succ (width value : Nat) (text : List Char) :
    hexRun? (width + 1) value text =
      (hexRun? width value text).bind fun read => hexRun? 1 read.1 read.2 := by
  induction width generalizing value text with
  | zero => rfl
  | succ width hyp =>
    cases text with
    | nil => rfl
    | cons c rest =>
      rw [hexRun?, hexRun?]
      cases hexValue? c with
      | none => rfl
      | some digit => exact hyp _ rest

/-- **The digits of a number are read as the number**, as far as the width reaches. -/
theorem hexRun?_hexDigits (width value number : Nat) (rest : List Char) :
    hexRun? width value (hexDigits width number ++ rest) =
      some (16 ^ width * value + number % 16 ^ width, rest) := by
  induction width generalizing number rest with
  | zero => simp [hexRun?, hexDigits, Nat.mod_one]
  | succ width hyp =>
    have last := hexValue?_hexDigit (Nat.mod_lt number (by decide : 0 < 16))
    have value_eq : 16 * (16 ^ width * value + number / 16 % 16 ^ width) + number % 16 =
        16 ^ (width + 1) * value + number % 16 ^ (width + 1) := by
      rw [pow_succ', Nat.mod_mul, mul_add, mul_assoc]
      omega
    rw [hexRun?_succ, hexDigits, List.append_assoc, hyp]
    simp [hexRun?, last, value_eq]

/-! ## Characters -/

/-- An escape in front of a text that is read. -/
theorem readText_escape {mark : Char} {escaped rest after : List Char}
    {meant content : List CodePoint} (differs : '\\' ≠ mark)
    (means : escape? escaped = some (meant, rest))
    (read : readText mark rest = .ok (content, after)) :
    readText mark ('\\' :: escaped) = .ok (meant ++ content, after) := by
  rw [readText, if_neg differs, if_pos rfl]
  split
  · next missing => simp [missing] at means
  · next found more reads =>
    obtain ⟨rfl, rfl⟩ := Prod.mk.inj (Option.some.inj (reads.symm.trans means))
    rw [read]

private theorem escape?_unit (rest : List Char) :
    escape? ('u' :: rest) =
      (hexRun? 4 0 rest).map fun read => ([Fin.ofNat 0x110000 read.1], read.2) := by
  change (unitEscape? rest).map _ = _
  rw [unitEscape?, Option.map_map]
  rfl

/-- **A character is read as what it was written for.** -/
theorem readText_escapedChar {c : Char} {rest after : List Char} {content : List CodePoint}
    (read : readText doubleQuote rest = .ok (content, after)) :
    readText doubleQuote (escapedChar c ++ rest) = .ok (.ofChar c :: content, after) := by
  have escape (escaped : List Char)
      (means : escape? (escaped ++ rest) = some ([.ofChar c], rest)) :
      readText doubleQuote ('\\' :: escaped ++ rest) = .ok (.ofChar c :: content, after) :=
    readText_escape (by decide) means read
  unfold escapedChar
  split
  · next special =>
    refine escape [c] ?_
    rcases special with rfl | rfl <;> rfl
  · next plain =>
    rw [not_or] at plain
    split
    · next control =>
      have of_code {code : Nat} (same : c.toNat = code) : c = Char.ofNat code := by
        rw [← same, Char.ofNat_toNat]
      split
      · next same => exact escape ['b'] (by rw [of_code same]; rfl)
      split
      · next same => exact escape ['t'] (by rw [same]; rfl)
      split
      · next same => exact escape ['n'] (by rw [same]; rfl)
      split
      · next same => exact escape ['f'] (by rw [of_code same]; rfl)
      split
      · next same => exact escape ['r'] (by rw [same]; rfl)
      · refine escape ('u' :: hexDigits 4 c.toNat) ?_
        rw [List.cons_append, escape?_unit, hexRun?_hexDigits]
        have code : Fin.ofNat 0x110000 (16 ^ 4 * 0 + c.toNat % 16 ^ 4) = CodePoint.ofChar c := by
          apply Fin.ext
          simp only [Fin.ofNat, CodePoint.ofChar]
          omega
        simp only [Option.map_some, code]
    · next shown =>
      have no_line : ¬(c = '\n' ∨ c = '\r') := by
        rintro (rfl | rfl) <;> exact shown (by decide)
      rw [List.singleton_append, readText, if_neg plain.1, if_neg plain.2, if_neg no_line, read]

/-- **A text is read as what it was written for.** -/
theorem readText_stringLetters (text rest : List Char) :
    readText doubleQuote (text.flatMap escapedChar ++ doubleQuote :: rest) =
      .ok (text.map CodePoint.ofChar, rest) := by
  induction text with
  | nil =>
    rw [List.flatMap_nil, List.nil_append, readText, if_pos rfl]
    rfl
  | cons c text hyp =>
    rw [List.flatMap_cons, List.append_assoc]
    exact readText_escapedChar hyp

end KeyChords.Json
