import Mathlib.Tactic.IntervalCases
import KeyChords.Json.Printer
import KeyChords.Json.Token
import KeyChords.Proofs.Decimal.NumeralText

/-! # Bare words

Literals and numbers are written as bare words. Where such a word stands in the place of a value it
means what it was written for. An integer needs few enough digits for that, since a longer one is
not read at all.
-/

namespace KeyChords.Json

open KeyChords.Decimal KeyChords.Text

/-! ## The characters of a word -/

/-- A text that is read as one bare word. -/
structure IsWord (word : List Char) : Prop where
  nonempty : word ≠ []
  bare : ∀ c ∈ word, isBare c = true

/-- The characters of a numeral that are no digits. -/
def numeralMarks : List Char := ['.', 'e', 'E', '+', '-']

private theorem isBare_of_isDigit {c : Char} (digit : c.isDigit = true) : isBare c = true := by
  have code : c = Char.ofNat c.toNat := (Char.ofNat_toNat c).symm
  have bounds : 48 ≤ c.toNat ∧ c.toNat ≤ 57 := by
    simpa [Char.isDigit, UInt32.le_iff_toNat_le] using digit
  obtain ⟨lower, upper⟩ := bounds
  rw [code]
  generalize c.toNat = value at lower upper
  interval_cases value <;> decide

private theorem isBare_of_mem_numeralMarks {c : Char} (mark : c ∈ numeralMarks) :
    isBare c = true := by
  have all : numeralMarks.all isBare = true := by decide
  exact List.all_eq_true.mp all c mark

private theorem isDigit_of_readNat? {text : List Char} {value : Nat}
    (read : readNat? text = some value) :
    AllDigits text := by
  unfold readNat? at read
  split at read
  · next digits => exact List.all_eq_true.mp digits.2
  · simp at read

private theorem mem_of_readExponent? {text : List Char} {exponent : Option Int}
    (read : readExponent? text = some exponent) {c : Char} (member : c ∈ text) :
    c.isDigit = true ∨ c ∈ numeralMarks := by
  have of_digits {digits : List Char} (read : readNat? digits ≠ none) :
      ∀ d ∈ digits, d.isDigit = true ∨ d ∈ numeralMarks := by
    obtain ⟨value, digits_read⟩ := Option.ne_none_iff_exists'.mp read
    exact fun d inside => .inl (isDigit_of_readNat? digits_read d inside)
  unfold readExponent? at read
  split at read
  · simp at member
  · split at read
    · next mark rest letter =>
      have mark_known : mark ∈ numeralMarks := by
        rcases letter with rfl | rfl <;> decide
      have rest_known : ∀ d ∈ rest, d.isDigit = true ∨ d ∈ numeralMarks := by
        split at read
        · simpa [numeralMarks] using of_digits (by rintro none; simp [none] at read)
        · simpa [numeralMarks] using of_digits (by rintro none; simp [none] at read)
        · exact of_digits (by rintro none; simp [none] at read)
      rcases List.mem_cons.mp member with rfl | inside
      · exact .inr mark_known
      · exact rest_known c inside
    · simp at read

/-- A numeral is made of digits and marks. -/
theorem mem_of_read? {text : List Char} {numeral : Numeral}
    (read : Numeral.read? text = some numeral) {c : Char} (member : c ∈ text) :
    c.isDigit = true ∨ c ∈ numeralMarks := by
  have digits {rest : List Char} (inside : c ∈ rest.takeWhile Char.isDigit) : c.isDigit = true :=
    List.all_eq_true.mp List.all_takeWhile c inside
  rw [← List.takeWhile_append_dropWhile (p := Char.isDigit) (l := text)] at member
  unfold Numeral.read? at read
  dsimp only at read
  generalize text.dropWhile Char.isDigit = behind at member read
  rcases List.mem_append.mp member with inside | inside
  · exact .inl (digits inside)
  · split at read
    · simp at read
    · obtain ⟨exponent, exponent_read, -⟩ := Option.map_eq_some_iff.mp read
      unfold splitFraction at exponent_read
      split at exponent_read
      · next rest _ =>
        rcases List.mem_cons.mp inside with rfl | later
        · exact .inr (by decide)
        · rw [← List.takeWhile_append_dropWhile (p := Char.isDigit) (l := rest)] at later
          rcases List.mem_append.mp later with within | beyond
          · exact .inl (digits within)
          · exact mem_of_readExponent? exponent_read beyond
      · exact mem_of_readExponent? exponent_read inside

private theorem isWord_of_read? {text : List Char} {numeral : Numeral}
    (read : Numeral.read? text = some numeral) : IsWord text where
  nonempty := by
    rintro rfl
    have unread : Numeral.read? [] = none := rfl
    simp [unread] at read
  bare c member := by
    rcases mem_of_read? read member with digit | mark
    · exact isBare_of_isDigit digit
    · exact isBare_of_mem_numeralMarks mark

/-- A word with a sign is a word. -/
theorem IsWord.signed {word : List Char} (is_word : IsWord word) (negative : Bool) :
    IsWord (signed negative word) := by
  cases negative with
  | false => exact is_word
  | true =>
    refine ⟨by simp [Decimal.signed], ?_⟩
    intro c member
    rcases List.mem_cons.mp member with rfl | inside
    · decide
    · exact is_word.bare c inside

/-- A given word is seen to be one. -/
theorem isWord_of_all {word : List Char} (nonempty : word ≠ []) (bare : word.all isBare = true) :
    IsWord word :=
  ⟨nonempty, List.all_eq_true.mp bare⟩

theorem isWord_null : IsWord "null".toList :=
  isWord_of_all (by decide) (by decide)

theorem isWord_bool (value : Bool) :
    IsWord (if value then "true".toList else "false".toList) := by
  cases value <;> exact isWord_of_all (by decide) (by decide)

/-! ## What a word means -/

theorem bareValue?_bool (value : Bool) :
    bareValue? (if value then "true".toList else "false".toList) = some (.bool value) := by
  cases value <;> rfl

/-- The sign in front of a numeral is told apart from it. -/
theorem bareValue?_signed {text : List Char} {numeral : Numeral}
    (read : Numeral.read? text = some numeral) (negative : Bool) :
    bareValue? (signed negative text) = bareNumber? negative text := by
  cases negative with
  | true => simp [bareValue?, signed, splitSign]
  | false =>
    have differs (word : List Char) (unread : Numeral.read? word = none) : text ≠ word := by
      rintro rfl
      simp [unread] at read
    have unsigned : splitSign text = (false, text) := by
      unfold splitSign
      split
      · next rest => exact absurd rfl (differs ('-' :: rest) rfl)
      · next rest => exact absurd rfl (differs ('+' :: rest) rfl)
      · rfl
    change bareValue? text = _
    rw [bareValue?, if_neg (differs _ rfl), if_neg (differs _ rfl), if_neg (differs _ rfl),
      unsigned]

private theorem bareNumber?_of_read? {text : List Char} {numeral : Numeral}
    (read : Numeral.read? text = some numeral)
    (trim : 1 < numeral.whole.length → numeral.whole.head? ≠ some '0') (negative : Bool) :
    bareNumber? negative text =
      if numeral.integral then
        if digitLimit < numeral.whole.length then none
        else some (.int (if negative then -(numeral.coefficient : Int) else numeral.coefficient))
      else some (.float (numeral.toBinary64 negative)) := by
  have differs (word : List Char) (unread : Numeral.read? word = none) : text ≠ word := by
    rintro rfl
    simp [unread] at read
  unfold bareNumber?
  split
  · next digits => exact absurd rfl (differs ('0' :: 'x' :: digits) rfl)
  · next digits => exact absurd rfl (differs ('0' :: 'X' :: digits) rfl)
  · have trimmed : ¬(1 < numeral.whole.length ∧ numeral.whole.head? = some '0') :=
      fun needless => trim needless.1 needless.2
    rw [if_neg (differs _ rfl), if_neg (differs _ rfl), read]
    dsimp only
    rw [if_neg trimmed]

private theorem natAbs_lt_of_isWritable {value : Int}
    (writable : (Datum.int value : Value).isWritable = true) :
    value.natAbs < Nat.pow 10 digitLimit := by
  rw [Datum.isWritable] at writable
  exact of_decide_eq_true writable

/-- An integer's word is read as the integer up to a number of digits, and not at all beyond. -/
theorem bareValue?_intText_eq (value : Int) :
    bareValue? (intText value) =
      if digitLimit < (natDigits value.natAbs).length then none else some (.int value) := by
  have read := Numeral.read?_natDigits value.natAbs
  have trim : 1 < (natDigits value.natAbs).length → (natDigits value.natAbs).head? ≠ some '0' := by
    intro long
    refine head?_natDigits (Nat.pos_of_ne_zero fun zero => ?_)
    rw [zero] at long
    exact absurd long (by decide)
  have sign : (if decide (value < 0) then -(value.natAbs : Int) else value.natAbs) = value := by
    simp only [decide_eq_true_eq]
    omega
  rw [intText, bareValue?_signed read, bareNumber?_of_read? read trim, if_pos rfl, sign]

/-- **An integer's word means the integer**, unless it is too long to be read. -/
theorem bareValue?_intText {value : Int}
    (writable : (Datum.int value : Value).isWritable = true) :
    bareValue? (intText value) = some (.int value) := by
  have fits := length_natDigits_le digitLimit (by decide) (natAbs_lt_of_isWritable writable)
  rw [bareValue?_intText_eq, if_neg (not_lt.mpr fits)]

/-- An integer is written as a word. -/
theorem isWord_intText (value : Int) : IsWord (intText value) :=
  (isWord_of_read? (Numeral.read?_natDigits value.natAbs)).signed _

/-- **A number's word means the number.** -/
theorem bareValue?_floatText (value : Binary64) :
    bareValue? (value.text numberStyle) = some (.float value) := by
  cases value with
  | nan => rfl
  | infinite negative => cases negative <;> rfl
  | finite negative magnitude =>
    obtain ⟨numeral, read, spells⟩ := read?_magnitudeText numberStyle magnitude.isLt
    change bareValue? (signed negative (magnitudeText numberStyle magnitude)) = _
    rw [bareValue?_signed read, bareNumber?_of_read? read spells.trim, if_neg (by
      simp [spells.not_integral]), spells.toBinary64 negative magnitude.isLt]

/-- A floating-point number is written as a word. -/
theorem isWord_floatText (value : Binary64) : IsWord (value.text numberStyle) := by
  cases value with
  | nan => exact isWord_of_all (by decide) (by decide)
  | infinite negative =>
    have unsigned : IsWord numberStyle.infinity.toList := isWord_of_all (by decide) (by decide)
    exact unsigned.signed negative
  | finite negative magnitude =>
    obtain ⟨numeral, read, -⟩ := read?_magnitudeText numberStyle magnitude.isLt
    exact (isWord_of_read? read).signed negative

end KeyChords.Json
