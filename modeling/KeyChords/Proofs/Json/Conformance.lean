import Mathlib.Tactic.IntervalCases
import KeyChords.Proofs.Json.Grammar
import KeyChords.Proofs.Json.Tokens

/-! # Written values conform to the grammar

A value is written as a text of the JSON grammar in either layout, whatever its strings and however
deep it is nested (`KeyChords.Json.Datum.isValue_write`). Integers are digits without a needless
zero, and so are both parts of the decimal that a finite binary64 number is written by. The numbers
that are not finite are written as words that the grammar does not have, so they are left out here.
-/

namespace KeyChords.Json

open KeyChords.Decimal KeyChords.Text Grammar

/-! ## Numbers -/

private theorem isDigits_of_allDigits {text : List Char} (nonempty : text ≠ [])
    (digits : AllDigits text) :
    IsDigits text := by
  refine ⟨nonempty, fun c member => ?_⟩
  simpa [Char.isDigit, Char.le_def, UInt32.le_iff_toNat_le] using digits c member

private theorem isDigits_natDigits (value : Nat) : IsDigits (natDigits value) :=
  isDigits_of_allDigits (natDigits_ne_nil value) (allDigits_natDigits value)

private theorem isDigits_paddedDigits (width value : Nat) : IsDigits (paddedDigits width value) :=
  isDigits_of_allDigits (by simp [paddedDigits, natDigits_ne_nil])
    ((allDigits_zeros _).append (allDigits_natDigits value))

private theorem isWhole_natDigits (value : Nat) : IsWhole (natDigits value) := by
  rcases Nat.eq_zero_or_pos value with rfl | positive
  · exact .inl (by decide)
  · exact .inr ⟨isDigits_natDigits value, head?_natDigits positive⟩

private theorem isFraction_zero : IsFraction ['.', '0'] :=
  .inr ⟨['0'], isDigits_of_allDigits (by simp) (allDigits_zeros 1), rfl⟩

/-- **The parts of a number's text** behind its sign. -/
def HasParts (text : List Char) : Prop :=
  ∃ whole fraction exponent, text = whole ++ fraction ++ exponent ∧ IsWhole whole ∧
    IsFraction fraction ∧ IsExponent exponent

private theorem HasParts.isNumber_signed {text : List Char} (parts : HasParts text)
    (negative : Bool) :
    IsNumber (signed negative text) := by
  obtain ⟨whole, fraction, exponent, rfl, isWhole, isFraction, isExponent⟩ := parts
  refine ⟨if negative then ['-'] else [], whole, fraction, exponent, ?_, isWhole, isFraction,
    isExponent, ?_⟩
  · cases negative <;> simp
  · cases negative <;> simp [signed]

private theorem isNumber_intText (value : Int) : IsNumber (intText value) := by
  have parts : HasParts (natDigits value.natAbs) :=
    ⟨_, [], [], by simp, isWhole_natDigits value.natAbs, .inl rfl, .inl rfl⟩
  exact parts.isNumber_signed _

variable {digits : List Char}

/-- Digits in positional form are a whole part and a fraction. -/
theorem hasParts_positional (nonempty : digits ≠ []) (all : AllDigits digits)
    (leading : digits.head? ≠ some '0') (point : Int) : HasParts (positional digits point) := by
  unfold positional
  split
  · next small =>
    have fraction : IsDigits (List.replicate (-point).toNat '0' ++ digits) :=
      isDigits_of_allDigits (by simp [nonempty]) ((allDigits_zeros _).append all)
    exact ⟨['0'], _, [], by simp, .inl rfl, .inr ⟨_, fraction, rfl⟩, .inl rfl⟩
  · split
    · next short =>
      have whole : IsDigits (digits ++ List.replicate (point.toNat - digits.length) '0') :=
        isDigits_of_allDigits (by simp [nonempty]) (all.append (allDigits_zeros _))
      refine ⟨_, ['.', '0'], [], by simp, .inr ⟨whole, ?_⟩, isFraction_zero, .inl rfl⟩
      rwa [List.head?_append_of_ne_nil _ nonempty]
    · next inside =>
      have whole : IsDigits (digits.take point.toNat) :=
        isDigits_of_allDigits (by simp [nonempty]; omega) (all.take _)
      have fraction : IsDigits (digits.drop point.toNat) :=
        isDigits_of_allDigits (by simp; omega) (all.drop _)
      refine ⟨_, _, [], by simp, .inr ⟨whole, ?_⟩, .inr ⟨_, fraction, rfl⟩, .inl rfl⟩
      rwa [List.head?_take, if_neg (by omega)]

/-- Digits in scientific form are a digit, a fraction if there are more, and an exponent. -/
theorem hasParts_scientific (nonempty : digits ≠ []) (all : AllDigits digits)
    (leading : digits.head? ≠ some '0') (width : Nat) (exponent : Int) :
    HasParts (scientific width digits exponent) := by
  have power : IsExponent ('e' :: (if exponent < 0 then '-' else '+') ::
      paddedDigits width exponent.natAbs) := by
    refine .inr ⟨'e', [if exponent < 0 then '-' else '+'], _, .inl rfl, ?_,
      isDigits_paddedDigits width exponent.natAbs, rfl⟩
    by_cases negative : exponent < 0 <;> simp [negative]
  obtain ⟨first, rest, rfl⟩ := List.exists_cons_of_ne_nil nonempty
  have whole : IsWhole [first] :=
    .inr ⟨isDigits_of_allDigits (by simp) (all.take 1), by simpa using leading⟩
  cases rest with
  | nil => exact ⟨[first], [], _, by simp [scientific], whole, .inl rfl, power⟩
  | cons second rest =>
      have fraction : IsDigits (second :: rest) :=
        isDigits_of_allDigits (by simp) (all.drop 1)
      exact ⟨[first], '.' :: second :: rest, _, by simp [scientific], whole,
        .inr ⟨_, fraction, rfl⟩, power⟩

private theorem hasParts_magnitudeText (style : FloatStyle) {magnitude : Nat}
    (finite : magnitude < finiteMagnitudes) : HasParts (magnitudeText style magnitude) := by
  unfold magnitudeText
  split
  · exact ⟨['0'], ['.', '0'], [], rfl, .inl rfl, isFraction_zero, .inl rfl⟩
  · next nonzero =>
    have positive := Nat.pos_of_ne_zero
      (coefficient_shortest_ne_zero (Nat.pos_of_ne_zero nonzero) finite)
    have nonempty := natDigits_ne_nil (shortest magnitude).coefficient
    have all := allDigits_natDigits (shortest magnitude).coefficient
    have leading := head?_natDigits positive
    dsimp only
    split
    · exact hasParts_positional nonempty all leading _
    · exact hasParts_scientific nonempty all leading _ _

/-- **A finite binary64 number is written as a number.** -/
theorem isNumber_text (style : FloatStyle) (negative : Bool) (magnitude : Fin finiteMagnitudes) :
    IsNumber ((Binary64.finite negative magnitude).text style) :=
  (hasParts_magnitudeText style magnitude.isLt).isNumber_signed negative

/-! ## Strings -/

private theorem isHexDigit_hexDigit {value : Nat} (small : value < 16) :
    IsHexDigit (hexDigit value) := by
  unfold IsHexDigit
  interval_cases value <;> decide

private theorem isHexDigit_of_mem_hexDigits {width value : Nat} {c : Char}
    (member : c ∈ hexDigits width value) : IsHexDigit c := by
  induction width generalizing value with
  | zero => simp [hexDigits] at member
  | succ width ih =>
      rw [hexDigits, List.mem_append, List.mem_singleton] at member
      rcases member with inside | rfl
      · exact ih inside
      · exact isHexDigit_hexDigit (Nat.mod_lt _ (by decide))

/-- **A character of a text is written as one of the grammar.** -/
theorem isCharacter_escapedChar (c : Char) : IsCharacter (escapedChar c) := by
  unfold escapedChar
  split
  · next special =>
    refine .escape ?_
    rcases special with rfl | rfl <;> simp
  · next plain =>
    rw [not_or] at plain
    split
    · repeat' split
      all_goals first
        | exact .escape (by decide)
        | exact .unit (length_hexDigits 4 _) fun _ => isHexDigit_of_mem_hexDigits
    · next shown => exact .plain (not_lt.mp shown) plain.1 plain.2

/-- A text is written as a string of the grammar. -/
theorem isString_stringLetters (text : List Char) : IsString (stringLetters text) := by
  refine ⟨text.map escapedChar, ?_, ?_⟩
  · intro character member
    obtain ⟨c, -, rfl⟩ := List.mem_map.mp member
    exact isCharacter_escapedChar c
  · rw [stringLetters_char, List.flatMap]

/-! ## Layouts -/

namespace Layout

/-- Every line break of a layout is white space of the grammar. -/
theorem isSpace_lineBreak (layout : Layout) (depth : Nat) : IsSpace (layout.lineBreak depth) := by
  intro c member
  cases layout with
  | inline => simp [lineBreak] at member
  | indented =>
      rcases List.mem_cons.mp member with rfl | inside
      · simp
      · simp [List.eq_of_mem_replicate inside]

/-- Every comma of a layout is one of the grammar. -/
theorem isMark_comma (layout : Layout) (depth : Nat) : IsMark ',' (layout.comma depth) := by
  cases layout with
  | inline => exact isMark_cons ',' (by simp [IsSpace])
  | indented => exact isMark_cons ',' (isSpace_lineBreak .indented depth)

end Layout

/-! ## Values -/

namespace Datum

section Finite

variable {τ : Type}

mutual

/-- Whether every number inside a value is finite. -/
def isFinite : Datum τ → Bool
  | .float .nan => false
  | .float (.infinite _) => false
  | .list items => areFinite items
  | .object fields => haveFinite fields
  | _ => true
termination_by structural value => value

/-- Whether all numbers in the items of a list are finite. -/
def areFinite : List (Datum τ) → Bool
  | [] => true
  | item :: rest => isFinite item && areFinite rest
termination_by structural items => items

/-- Whether all numbers in the values of fields are finite. -/
def haveFinite : List (τ × Datum τ) → Bool
  | [] => true
  | (_, value) :: rest => isFinite value && haveFinite rest
termination_by structural fields => fields

end

/-- Items are finite when each of them is. -/
theorem areFinite_iff {items : List (Datum τ)} :
    areFinite items = true ↔ ∀ item ∈ items, item.isFinite = true := by
  induction items with
  | nil => simp [areFinite]
  | cons item rest hyp => simp [areFinite, hyp]

/-- Fields are finite when each of their values is. -/
theorem haveFinite_iff {fields : Fields τ} :
    haveFinite fields = true ↔ ∀ field ∈ fields, field.2.isFinite = true := by
  induction fields with
  | nil => simp [haveFinite]
  | cons field rest hyp => simp [haveFinite, hyp]

end Finite

/-- A written field, as a member of an object. -/
def member (layout : Layout) (depth : Nat) (field : String × Value) : Member where
  key := stringLetters field.1.toList
  colon := [':', ' ']
  value := field.2.write layout depth

/-- What follows the first item of a list is the other items, each behind a comma. -/
theorem isSeparated_writeItems (layout : Layout) (depth : Nat) (piece : List Char)
    (items : List Value) :
    IsSeparated (piece :: items.map (write layout depth))
      (piece ++ writeItems layout depth items) := by
  induction items generalizing piece with
  | nil => simpa [writeItems] using IsSeparated.single piece
  | cons item rest ih =>
      have separated := IsSeparated.cons piece (layout.isMark_comma depth)
        (ih (item.write layout depth))
      simpa [writeItems] using separated

private theorem isSeparated_writeFields (layout : Layout) (depth : Nat) (piece : List Char)
    (fields : Fields String) :
    IsSeparated (piece :: (fields.map (member layout depth)).map Member.text)
      (piece ++ writeFields layout depth fields) := by
  induction fields generalizing piece with
  | nil => simpa [writeFields] using IsSeparated.single piece
  | cons field rest ih =>
      have separated := IsSeparated.cons piece (layout.isMark_comma depth)
        (ih (member layout depth field).text)
      simpa [writeFields, member, Member.text] using separated

/-- A list is written as its items between brackets. -/
theorem isEnclosed_write_list (layout : Layout) (depth : Nat) (items : List Value) :
    IsEnclosed '[' ']' (items.map (write layout (depth + 1)))
      ((list items).write layout depth) := by
  cases items with
  | nil => exact ⟨['['], [], [']'], isMark_cons '[' isSpace_nil, isMark_cons ']' isSpace_nil,
      .inl ⟨rfl, rfl⟩, by simp [write]⟩
  | cons item rest =>
      exact ⟨_, _, _, isMark_cons '[' (layout.isSpace_lineBreak (depth + 1)),
        isMark_concat ']' (layout.isSpace_lineBreak depth),
        .inr (isSeparated_writeItems layout (depth + 1) (item.write layout (depth + 1)) rest),
        by simp [write]⟩

private theorem isEnclosed_write_object (layout : Layout) (depth : Nat) (fields : Fields String) :
    IsEnclosed '\x7b' '\x7d' ((fields.map (member layout (depth + 1))).map Member.text)
      ((object fields).write layout depth) := by
  cases fields with
  | nil => exact ⟨['\x7b'], [], ['\x7d'], isMark_cons _ isSpace_nil, isMark_cons _ isSpace_nil,
      .inl ⟨rfl, rfl⟩, by simp [write]⟩
  | cons field rest =>
      exact ⟨_, _, _, isMark_cons '\x7b' (layout.isSpace_lineBreak (depth + 1)),
        isMark_concat '\x7d' (layout.isSpace_lineBreak depth),
        .inr (isSeparated_writeFields layout (depth + 1) (member layout (depth + 1) field).text
          rest),
        by simp [write, member, Member.text]⟩

/-- An object is written as one when the values of its fields are written as values. -/
theorem isObject_write {layout : Layout} {depth : Nat} {fields : Fields String}
    (values : ∀ field ∈ fields, IsValue (field.2.write layout (depth + 1))) :
    IsObject ((object fields).write layout depth) := by
  refine ⟨fields.map (member layout (depth + 1)), ?_, ?_,
    isEnclosed_write_object layout depth fields⟩
  · intro written listed
    obtain ⟨field, -, rfl⟩ := List.mem_map.mp listed
    exact ⟨isString_stringLetters field.1.toList, isMark_cons ':' (by simp [IsSpace])⟩
  · intro written listed
    obtain ⟨field, inside, rfl⟩ := List.mem_map.mp listed
    exact values field inside

mutual

/-- **A value whose numbers are finite is written as a value.** -/
theorem isValue_write (layout : Layout) : ∀ (depth : Nat) (value : Value),
    value.isFinite = true → IsValue (value.write layout depth)
  | _, .null, _ => .null
  | _, .bool true, _ => .true
  | _, .bool false, _ => .false
  | _, .int value, _ => by
    rw [write, Letter.ofChars_chars]
    exact .number (isNumber_intText value)
  | _, .float .nan, finite => by cases finite
  | _, .float (.infinite _), finite => by cases finite
  | _, .float (.finite negative magnitude), _ => by
    rw [write, Letter.ofChars_chars]
    exact .number (isNumber_text numberStyle negative magnitude)
  | _, .str text, _ => .string (isString_stringLetters text.toList)
  | depth, .list items, finite => by
    refine .array (fun written listed => ?_) (isEnclosed_write_list layout depth items)
    obtain ⟨item, inside, rfl⟩ := List.mem_map.mp listed
    exact isValue_write_item layout (depth + 1) items finite item inside
  | depth, .object fields, finite =>
    (isObject_write (isValue_write_field layout (depth + 1) fields finite)).isValue

private theorem isValue_write_item (layout : Layout) : ∀ (depth : Nat) (items : List Value),
    areFinite items = true → ∀ item ∈ items, IsValue (item.write layout depth)
  | _, [], _ => List.forall_mem_nil _
  | depth, item :: rest, finite => by
    rw [areFinite, Bool.and_eq_true] at finite
    exact List.forall_mem_cons.mpr ⟨isValue_write layout depth item finite.1,
      isValue_write_item layout depth rest finite.2⟩

theorem isValue_write_field (layout : Layout) : ∀ (depth : Nat) (fields : List (String × Value)),
    haveFinite fields = true → ∀ field ∈ fields, IsValue (field.2.write layout depth)
  | _, [], _ => List.forall_mem_nil _
  | depth, (_, value) :: rest, finite => by
    rw [haveFinite, Bool.and_eq_true] at finite
    exact List.forall_mem_cons.mpr ⟨isValue_write layout depth value finite.1,
      isValue_write_field layout depth rest finite.2⟩

end

end Datum

end KeyChords.Json
