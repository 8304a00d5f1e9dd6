import KeyChords.Proofs.Json.Conformance

/-! # Capitals outside of strings

No text of the JSON grammar has an `N` or an `I` outside of its strings, and a written value has
one there exactly when a number inside it is not finite. So a value is written as a text of the
grammar exactly when its numbers are finite (`KeyChords.Json.Datum.isText_write_iff`).
-/

namespace KeyChords.Json

open KeyChords.Decimal KeyChords.Text Grammar

/-! ## Scanning -/

/-- Where a scan of a JSON text stands with respect to its strings. -/
inductive Quoting where
  | outside
  | inside
  /-- Inside a string, behind a backslash. -/
  | escaped

/-- Whether an `N` or an `I` stands outside of the strings of a text. -/
def hasCapital : Quoting → List Char → Bool
  | _, [] => false
  | .outside, c :: rest =>
    if c = doubleQuote then hasCapital .inside rest
    else c = 'N' || c = 'I' || hasCapital .outside rest
  | .inside, c :: rest =>
    if c = doubleQuote then hasCapital .outside rest
    else if c = '\\' then hasCapital .escaped rest
    else hasCapital .inside rest
  | .escaped, _ :: rest => hasCapital .inside rest

/-- **A text whose strings are all closed**, so that a scan goes on outside of strings behind it,
with or without a capital found in it. -/
def Scans (text : List Char) (found : Bool) : Prop :=
  ∀ rest, hasCapital .outside (text ++ rest) = (found || hasCapital .outside rest)

variable {text other : List Char} {found more : Bool}

private theorem Scans.hasCapital_eq (scans : Scans text found) :
    hasCapital .outside text = found := by
  simpa [hasCapital] using scans []

/-- A capital is found in two texts together when it is found in one of them. -/
theorem Scans.append (scans : Scans text found) (behind : Scans other more) :
    Scans (text ++ other) (found || more) := by
  intro rest
  rw [List.append_assoc, scans, behind, Bool.or_assoc]

private theorem scans_nil : Scans [] false :=
  fun _ => rfl

private theorem scans_of_no_quote (free : doubleQuote ∉ text) :
    Scans text (text.any fun c => c = 'N' || c = 'I') := by
  induction text with
  | nil => exact scans_nil
  | cons c text ih =>
      rw [List.mem_cons, not_or] at free
      intro rest
      rw [List.cons_append, hasCapital, if_neg (Ne.symm free.1), ih free.2 rest, List.any_cons]
      simp only [Bool.or_assoc]

/-- Characters that are neither quotes nor one of the two capitals. -/
def IsQuiet (text : List Char) : Prop :=
  ∀ c ∈ text, c ≠ doubleQuote ∧ c ≠ 'N' ∧ c ≠ 'I'

/-- Two quiet texts are quiet together. -/
theorem IsQuiet.append (quiet : IsQuiet text) (behind : IsQuiet other) : IsQuiet (text ++ other) :=
  List.forall_mem_append.mpr ⟨quiet, behind⟩

theorem IsQuiet.cons {c : Char} (differs : c ≠ doubleQuote ∧ c ≠ 'N' ∧ c ≠ 'I')
    (quiet : IsQuiet text) : IsQuiet (c :: text) :=
  List.forall_mem_cons.mpr ⟨differs, quiet⟩

private theorem IsQuiet.scans (quiet : IsQuiet text) : Scans text false := by
  have free : doubleQuote ∉ text := fun member => (quiet doubleQuote member).1 rfl
  have silent : (text.any fun c => c = 'N' || c = 'I') = false := by
    rw [List.any_eq_false]
    intro c member
    simp [quiet c member]
  exact silent ▸ scans_of_no_quote free

/-! ## The grammar -/

private theorem isQuiet_of_isSpace (space : IsSpace text) : IsQuiet text := by
  intro c member
  rcases space c member with rfl | rfl | rfl | rfl <;> decide

private theorem isQuiet_of_isMark {mark : Char}
    (differs : mark ≠ doubleQuote ∧ mark ≠ 'N' ∧ mark ≠ 'I')
    (marked : IsMark mark text) : IsQuiet text := by
  obtain ⟨before, after, front, behind, rfl⟩ := marked
  exact (isQuiet_of_isSpace front).append ((isQuiet_of_isSpace behind).cons differs)

private theorem isQuiet_of_isDigits (digits : IsDigits text) : IsQuiet text := by
  intro c member
  obtain ⟨least, greatest⟩ := digits.2 c member
  refine ⟨?_, ?_, ?_⟩ <;> (rintro rfl; revert least greatest; decide)

private theorem isQuiet_of_isNumber (number : IsNumber text) : IsQuiet text := by
  obtain ⟨sign, whole, fraction, exponent, isSign, isWhole, isFraction, isExponent, rfl⟩ := number
  have quietSign : IsQuiet sign := by
    rcases isSign with rfl | rfl <;> simp [IsQuiet, doubleQuote]
  have quietWhole : IsQuiet whole := by
    rcases isWhole with rfl | ⟨digits, -⟩
    · simp [IsQuiet, doubleQuote]
    · exact isQuiet_of_isDigits digits
  have quietFraction : IsQuiet fraction := by
    rcases isFraction with rfl | ⟨digits, isDigits, rfl⟩
    · exact List.forall_mem_nil _
    · exact (isQuiet_of_isDigits isDigits).cons (by decide)
  have quietExponent : IsQuiet exponent := by
    rcases isExponent with rfl | ⟨mark, power, digits, isMark, isPower, isDigits, rfl⟩
    · exact List.forall_mem_nil _
    · refine IsQuiet.append (IsQuiet.cons ?_ ?_) (isQuiet_of_isDigits isDigits)
      · rcases isMark with rfl | rfl <;> decide
      · rcases isPower with rfl | rfl | rfl <;> simp [IsQuiet, doubleQuote]
  exact ((quietSign.append quietWhole).append quietFraction).append quietExponent

/-- Inside a string, what holds no quote and no backslash is passed over. -/
theorem hasCapital_inside_append (plain : ∀ c ∈ text, c ≠ doubleQuote ∧ c ≠ '\\')
    (rest : List Char) : hasCapital .inside (text ++ rest) = hasCapital .inside rest := by
  induction text with
  | nil => rfl
  | cons c text ih =>
      obtain ⟨first, others⟩ := List.forall_mem_cons.mp plain
      rw [List.cons_append, hasCapital, if_neg first.1, if_neg first.2, ih others]

private theorem hasCapital_inside_character (character : IsCharacter text) (rest : List Char) :
    hasCapital .inside (text ++ rest) = hasCapital .inside rest := by
  cases character with
  | plain shown noQuote noSlash => exact hasCapital_inside_append (by simp [noQuote, noSlash]) rest
  | escape member => rfl
  | @unit digits four hex =>
      have plain (c : Char) (member : c ∈ digits) : c ≠ doubleQuote ∧ c ≠ '\\' := by
        have digit := hex c member
        refine ⟨?_, ?_⟩ <;> (rintro rfl; revert digit; unfold IsHexDigit; decide)
      -- the `u` is what stands escaped, the digits are inside again
      change hasCapital .inside (digits ++ rest) = _
      exact hasCapital_inside_append plain rest

private theorem scans_of_isString (string : IsString text) : Scans text false := by
  obtain ⟨characters, each, rfl⟩ := string
  intro rest
  have inside : hasCapital .inside (characters.flatten ++ doubleQuote :: rest) =
      hasCapital .outside rest := by
    induction characters with
    | nil => rfl
    | cons character characters ih =>
        obtain ⟨first, others⟩ := List.forall_mem_cons.mp each
        rw [List.flatten_cons, List.append_assoc, hasCapital_inside_character first, ih others]
  rw [List.append_assoc, List.singleton_append, List.cons_append, hasCapital, if_pos rfl, inside]
  rfl

private theorem scans_of_isSeparated {pieces : List (List Char)}
    (separated : IsSeparated pieces text)
    (each : ∀ piece ∈ pieces, Scans piece false) : Scans text false := by
  induction separated with
  | single piece => exact each piece (List.mem_singleton_self piece)
  | cons piece comma _ ih =>
      obtain ⟨first, others⟩ := List.forall_mem_cons.mp each
      exact (first.append (isQuiet_of_isMark (by decide) comma).scans).append (ih others)

private theorem scans_of_isEnclosed {opening closing : Char} {pieces : List (List Char)}
    (brackets : IsQuiet [opening, closing]) (enclosed : IsEnclosed opening closing pieces text)
    (each : ∀ piece ∈ pieces, Scans piece false) : Scans text false := by
  obtain ⟨first, inside, last, isFirst, isLast, held, rfl⟩ := enclosed
  have front := (isQuiet_of_isMark (brackets opening (by simp)) isFirst).scans
  have behind := (isQuiet_of_isMark (brackets closing (by simp)) isLast).scans
  have middle : Scans inside false := by
    rcases held with ⟨-, rfl⟩ | separated
    · exact scans_nil
    · exact scans_of_isSeparated separated each
  exact (front.append middle).append behind

/-- **A value of the grammar closes its strings and has no capital outside of them.** -/
theorem scans_of_isValue (value : IsValue text) : Scans text false := by
  induction value with
  | null => exact scans_of_no_quote (by decide)
  | true => exact scans_of_no_quote (by decide)
  | false => exact scans_of_no_quote (by decide)
  | number number => exact (isQuiet_of_isNumber number).scans
  | string string => exact scans_of_isString string
  | array _ enclosed ih => exact scans_of_isEnclosed (by simp [IsQuiet, doubleQuote]) enclosed ih
  | object keys _ enclosed ih =>
      refine scans_of_isEnclosed (by simp [IsQuiet, doubleQuote]) enclosed fun piece listed => ?_
      obtain ⟨member, inside, rfl⟩ := List.mem_map.mp listed
      obtain ⟨key, colon⟩ := keys member inside
      exact ((scans_of_isString key).append
        (isQuiet_of_isMark (by decide) colon).scans).append (ih member inside)

private theorem hasCapital_of_isText (isText : IsText text) : hasCapital .outside text = false := by
  obtain ⟨before, value, after, front, behind, isValue, rfl⟩ := isText
  exact (((isQuiet_of_isSpace front).scans.append (scans_of_isValue isValue)).append
    (isQuiet_of_isSpace behind).scans).hasCapital_eq

/-! ## Written values -/

namespace Datum

private theorem scans_key (key : String) :
    Scans (stringLetters key.toList ++ [':', ' ']) false :=
  (scans_of_isString (isString_stringLetters key.toList)).append
    (scans_of_no_quote (by decide))

private theorem scans_comma (layout : Layout) (depth : Nat) : Scans (layout.comma depth) false :=
  (isQuiet_of_isMark (by decide) (layout.isMark_comma depth)).scans

mutual

/-- **A written value has a capital outside of its strings exactly when it is not finite.** -/
theorem scans_write (layout : Layout) : ∀ (depth : Nat) (value : Value),
    Scans (value.write layout depth) (!value.isFinite)
  | depth, .null => scans_of_isValue (isValue_write layout depth .null rfl)
  | depth, .bool value => scans_of_isValue (isValue_write layout depth (.bool value) rfl)
  | depth, .int value => scans_of_isValue (isValue_write layout depth (.int value) rfl)
  | _, .float .nan => by
    have word : doubleQuote ∉ "NaN".toList := by decide
    exact scans_of_no_quote word
  | _, .float (.infinite true) => by
    have word : doubleQuote ∉ "-Infinity".toList := by decide
    exact scans_of_no_quote word
  | _, .float (.infinite false) => by
    have word : doubleQuote ∉ "Infinity".toList := by decide
    exact scans_of_no_quote word
  | depth, .float (.finite negative magnitude) =>
    scans_of_isValue (isValue_write layout depth (.float (.finite negative magnitude)) rfl)
  | depth, .str text => scans_of_isValue (isValue_write layout depth (.str text) rfl)
  | depth, .list [] => scans_of_isValue (isValue_write layout depth (.list []) rfl)
  | depth, .list (item :: rest) => by
    have opened := isQuiet_of_isMark (by decide)
      (isMark_cons '[' (layout.isSpace_lineBreak (depth + 1)))
    have closing := isQuiet_of_isMark (by decide)
      (isMark_concat ']' (layout.isSpace_lineBreak depth))
    have whole := ((opened.scans.append (scans_write layout (depth + 1) item)).append
      (scans_writeItems layout (depth + 1) rest)).append closing.scans
    simpa [write, isFinite, areFinite] using whole
  | depth, .object [] => scans_of_isValue (isValue_write layout depth (.object []) rfl)
  | depth, .object ((key, value) :: rest) => by
    have opened := isQuiet_of_isMark (by decide)
      (isMark_cons '\x7b' (layout.isSpace_lineBreak (depth + 1)))
    have closing := isQuiet_of_isMark (by decide)
      (isMark_concat '\x7d' (layout.isSpace_lineBreak depth))
    have whole := (((opened.scans.append (scans_key key)).append
      (scans_write layout (depth + 1) value)).append
      (scans_writeFields layout (depth + 1) rest)).append closing.scans
    simpa [write, isFinite, haveFinite] using whole

private theorem scans_writeItems (layout : Layout) : ∀ (depth : Nat) (items : List Value),
    Scans (writeItems layout depth items) (!areFinite items)
  | _, [] => scans_nil
  | depth, item :: rest => by
    have whole := ((scans_comma layout depth).append (scans_write layout depth item)).append
      (scans_writeItems layout depth rest)
    simpa [writeItems, areFinite] using whole

private theorem scans_writeFields (layout : Layout) : ∀ (depth : Nat)
    (fields : List (String × Value)),
    Scans (writeFields layout depth fields) (!haveFinite fields)
  | _, [] => scans_nil
  | depth, (key, value) :: rest => by
    have whole := (((scans_comma layout depth).append (scans_key key)).append
      (scans_write layout depth value)).append (scans_writeFields layout depth rest)
    simpa [writeFields, haveFinite] using whole

end

/-- **A value is written as a text of the grammar exactly when its numbers are finite**, with
whatever space behind it. -/
theorem isText_write_iff {layout : Layout} {depth : Nat} {value : Value} {after : List Char}
    (space : IsSpace after) :
    IsText (value.write layout depth ++ after) ↔ value.isFinite = true := by
  constructor
  · intro isText
    have scans := (scans_write layout depth value).append (isQuiet_of_isSpace space).scans
    simpa using scans.hasCapital_eq.symm.trans (hasCapital_of_isText isText)
  · intro finite
    exact ⟨[], value.write layout depth, after, isSpace_nil, space,
      isValue_write layout depth value finite, rfl⟩

end Datum

end KeyChords.Json
