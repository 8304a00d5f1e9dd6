import KeyChords.Proofs.Json.Texts
import KeyChords.Proofs.Json.Words

/-! # Written values are told apart

A written value ends where it says. Whatever follows two of them, they are written alike only if
they are the same value in front of the same text (`KeyChords.Json.Datum.write_append_inj`). Words
end at the first letter that is not bare, quoted texts at the first quote that is not escaped, lists
and objects at their bracket. Integers of any size are covered, also those that are too long to be
read.
-/

namespace KeyChords.Json

open KeyChords.Decimal KeyChords.Text

/-! ## Letters -/

/-- A kind of letter of which each character is one letter only. -/
class ExactLetter (κ : Type) [Letter κ] : Prop where
  ofChar_of_toChar? : ∀ {letter : κ} {c : Char},
    Letter.toChar? letter = some c → Letter.ofChar c = letter

/-- A kind of text that is nothing but its letters. -/
class ExactSpelling (τ : Type) {κ : outParam Type} [Spelling τ κ] : Prop where
  letters_injective : Function.Injective (Spelling.letters : τ → List κ)

instance : ExactLetter Char where
  ofChar_of_toChar? same := (Option.some.inj same).symm

private theorem ofChar_of_toChar? {point : CodePoint} {c : Char} (same : point.toChar? = some c) :
    CodePoint.ofChar c = point := by
  have bound : point.val < 0x110000 := point.isLt
  unfold CodePoint.toChar? CodePoint.isHighHalf CodePoint.isLowHalf at same
  by_cases half : (0xd800 ≤ point.val && point.val < 0xdc00 ||
      0xdc00 ≤ point.val && point.val < 0xe000) = true
  · rw [if_pos half] at same
    cases same
  · rw [if_neg half] at same
    have valid : point.val.isValidChar := by
      simp only [Bool.or_eq_true, Bool.and_eq_true, decide_eq_true_eq] at half
      unfold Nat.isValidChar
      omega
    obtain rfl := Option.some.inj same
    apply Fin.ext
    rw [Char.ofNat, dif_pos valid]
    rfl

instance : ExactLetter CodePoint where
  ofChar_of_toChar? := ofChar_of_toChar?

instance : ExactSpelling String where
  letters_injective _ _ same := String.toList_injective same

instance : ExactSpelling (List CodePoint) where
  letters_injective := Function.injective_id

variable {κ : Type} [Letter κ]

theorem ofChar_injective : Function.Injective (Letter.ofChar : Char → κ) := by
  intro c d same
  have read := congrArg Letter.toChar? same
  rw [Letter.toChar?_ofChar, Letter.toChar?_ofChar] at read
  exact Option.some.inj read

private theorem ofChars_injective : Function.Injective (Letter.ofChars : List Char → List κ) :=
  List.map_injective_iff.mpr ofChar_injective

/-! ## Words -/

/-- No word goes on in the rest. -/
def Ended (rest : List κ) : Prop :=
  ∀ c, isBare c = true → rest.head? ≠ some (Letter.ofChar c)

private theorem ended_nil : Ended ([] : List κ) :=
  fun _ _ present => nomatch present

private theorem ended_cons {c : Char} (ends : isBare c = false) (rest : List κ) :
    Ended (Letter.ofChar c :: rest) := by
  intro d bare same
  have only : c = d := ofChar_injective (Option.some.inj same)
  rw [only, bare] at ends
  cases ends

/-- **Words in front of something that ends them are told apart.** -/
theorem word_append_inj {word other : List Char} (bare : ∀ c ∈ word, isBare c = true)
    (otherBare : ∀ c ∈ other, isBare c = true) {rest more : List κ} (ended : Ended rest)
    (moreEnded : Ended more)
    (same : Letter.ofChars word ++ rest = Letter.ofChars other ++ more) :
    word = other ∧ rest = more := by
  induction word generalizing other with
  | nil =>
      cases other with
      | nil => exact ⟨rfl, same⟩
      | cons d other =>
          have goes : rest.head? = some (Letter.ofChar d) := congrArg List.head? same
          exact absurd goes (ended d (otherBare d List.mem_cons_self))
  | cons c word ih =>
      cases other with
      | nil =>
          have goes : more.head? = some (Letter.ofChar c) := congrArg List.head? same.symm
          exact absurd goes (moreEnded c (bare c List.mem_cons_self))
      | cons d other =>
          obtain ⟨first, behind⟩ := List.cons.inj same
          obtain ⟨rfl, ends⟩ := ih (fun e member => bare e (List.mem_cons_of_mem c member))
            (fun e member => otherBare e (List.mem_cons_of_mem d member)) behind
          rw [ofChar_injective first]
          exact ⟨rfl, ends⟩

/-! ## Quoted texts -/

private theorem escapedChar_injective : Function.Injective escapedChar := by
  intro c d same
  have closed : readText doubleQuote [doubleQuote] = .ok ([], []) := by
    rw [readText, if_pos rfl]
  have read := (readText_escapedChar (c := c) closed).symm
  rw [same, readText_escapedChar closed] at read
  exact CodePoint.ofChar_injective (List.cons.inj (Prod.mk.inj (Except.ok.inj read)).1).1

/-- A character is written as it is, or as an escape whose length its second character tells. -/
theorem escapedChar_cases (c : Char) :
    (escapedChar c = [c] ∧ c ≠ doubleQuote ∧ c ≠ '\\') ∨
      ∃ mark more, escapedChar c = '\\' :: mark :: more ∧
        more.length = if mark = 'u' then 4 else 0 := by
  unfold escapedChar
  split
  · next special =>
      right
      refine ⟨c, [], rfl, ?_⟩
      rcases special with rfl | rfl <;> rfl
  · next plain =>
      rw [not_or] at plain
      split
      · right
        split
        · exact ⟨'b', [], rfl, rfl⟩
        split
        · exact ⟨'t', [], rfl, rfl⟩
        split
        · exact ⟨'n', [], rfl, rfl⟩
        split
        · exact ⟨'f', [], rfl, rfl⟩
        split
        · exact ⟨'r', [], rfl, rfl⟩
        · exact ⟨'u', hexDigits 4 c.toNat, rfl, length_hexDigits 4 c.toNat⟩
      · exact Or.inl ⟨rfl, plain.1, plain.2⟩

private theorem escapedLetter_of_toChar? {letter : κ} {c : Char}
    (is : Letter.toChar? letter = some c) :
    escapedLetter letter = Letter.ofChars (escapedChar c) := by
  rw [escapedLetter, is]

private theorem escapedLetter_of_none {letter : κ} (none : Letter.toChar? letter = none) :
    escapedLetter letter = [letter] := by
  rw [escapedLetter, none]

section Quoted

variable [ExactLetter κ]

private theorem escapedLetter_cases (letter : κ) :
    (escapedLetter letter = [letter] ∧ letter ≠ Letter.ofChar doubleQuote ∧
        letter ≠ Letter.ofChar '\\') ∨
      ∃ mark more, escapedLetter letter =
          Letter.ofChar '\\' :: Letter.ofChar mark :: Letter.ofChars more ∧
        more.length = if mark = 'u' then 4 else 0 := by
  cases is : Letter.toChar? letter with
  | none =>
      have foreign (c : Char) : letter ≠ Letter.ofChar c := by
        rintro rfl
        rw [Letter.toChar?_ofChar] at is
        cases is
      exact Or.inl ⟨escapedLetter_of_none is, foreign doubleQuote, foreign '\\'⟩
  | some c =>
      obtain rfl := ExactLetter.ofChar_of_toChar? is
      rw [escapedLetter_of_toChar? is]
      rcases escapedChar_cases c with ⟨plain, noQuote, noEscape⟩ | ⟨mark, more, escape, length⟩
      · rw [plain]
        exact Or.inl ⟨rfl, ofChar_injective.ne noQuote, ofChar_injective.ne noEscape⟩
      · rw [escape]
        exact Or.inr ⟨mark, more, rfl, length⟩

private theorem escapedLetter_injective : Function.Injective (escapedLetter : κ → List κ) := by
  have foreign {letter other : κ} {c : Char} (is : Letter.toChar? letter = some c)
      (none : Letter.toChar? other = none) : escapedLetter letter ≠ escapedLetter other := by
    rw [escapedLetter_of_toChar? is, escapedLetter_of_none none]
    intro same
    obtain ⟨d, -, written⟩ := List.mem_map.mp (same ▸ List.mem_singleton_self other)
    rw [← written, Letter.toChar?_ofChar] at none
    cases none
  intro first second same
  cases one : Letter.toChar? first with
  | none =>
      cases two : Letter.toChar? second with
      | none =>
          rw [escapedLetter_of_none one, escapedLetter_of_none two] at same
          exact (List.cons.inj same).1
      | some d => exact absurd same.symm (foreign two one)
  | some c =>
      cases two : Letter.toChar? second with
      | none => exact absurd same (foreign one two)
      | some d =>
          rw [escapedLetter_of_toChar? one, escapedLetter_of_toChar? two] at same
          rw [← ExactLetter.ofChar_of_toChar? one, ← ExactLetter.ofChar_of_toChar? two,
            escapedChar_injective (ofChars_injective same)]

private theorem escapedLetter_append_inj {first second : κ} {rest more : List κ}
    (same : escapedLetter first ++ rest = escapedLetter second ++ more) :
    first = second ∧ rest = more := by
  rcases escapedLetter_cases first with
    ⟨plain, -, noEscape⟩ | ⟨mark, tail, escape, length⟩ <;>
  rcases escapedLetter_cases second with
    ⟨otherPlain, -, otherNoEscape⟩ | ⟨other, otherTail, otherEscape, otherLength⟩
  · rw [plain, otherPlain] at same
    exact List.cons.inj same
  · rw [plain, otherEscape] at same
    exact absurd (List.cons.inj same).1 noEscape
  · rw [escape, otherPlain] at same
    exact absurd (List.cons.inj same).1.symm otherNoEscape
  · have marks : mark = other := by
      rw [escape, otherEscape] at same
      exact ofChar_injective (List.cons.inj (List.cons.inj same).2).1
    have lengths : (escapedLetter first).length = (escapedLetter second).length := by
      rw [escape, otherEscape]
      simp only [List.length_cons, Letter.ofChars, List.length_map, length, otherLength, marks]
    obtain ⟨letters, ends⟩ := List.append_inj same lengths
    exact ⟨escapedLetter_injective letters, ends⟩

/-- No letter is written with a quote in front. -/
theorem quote_ne_escapedLetter_append {letter : κ} {rest more : List κ} :
    Letter.ofChar doubleQuote :: rest ≠ escapedLetter letter ++ more := by
  intro same
  rcases escapedLetter_cases letter with ⟨plain, noQuote, -⟩ | ⟨mark, tail, escape, -⟩
  · rw [plain] at same
    exact noQuote (List.cons.inj same).1.symm
  · rw [escape] at same
    exact absurd (ofChar_injective (List.cons.inj same).1) (by decide)

/-- **Quoted texts are told apart**, whatever follows them. -/
theorem stringLetters_append_inj {first second rest more : List κ}
    (same : stringLetters first ++ rest = stringLetters second ++ more) :
    first = second ∧ rest = more := by
  simp only [stringLetters, List.cons_append, List.append_assoc, List.nil_append, List.cons.injEq,
    true_and] at same
  induction first generalizing second with
  | nil =>
      cases second with
      | nil => exact ⟨rfl, (List.cons.inj same).2⟩
      | cons letter second =>
          rw [List.flatMap_cons, List.append_assoc] at same
          exact absurd same quote_ne_escapedLetter_append
  | cons letter first ih =>
      rw [List.flatMap_cons, List.append_assoc] at same
      cases second with
      | nil => exact absurd same.symm quote_ne_escapedLetter_append
      | cons other second =>
          rw [List.flatMap_cons, List.append_assoc] at same
          obtain ⟨rfl, behind⟩ := escapedLetter_append_inj same
          obtain ⟨rfl, ends⟩ := ih behind
          exact ⟨rfl, ends⟩

end Quoted

/-! ## Words of values -/

private theorem splitSign_signed {digits : List Char} (all : AllDigits digits) (negative : Bool) :
    splitSign (signed negative digits) = (negative, digits) := by
  cases negative with
  | true => rfl
  | false =>
      change splitSign digits = _
      unfold splitSign
      split
      · exact absurd (all '-' List.mem_cons_self) (by decide)
      · exact absurd (all '+' List.mem_cons_self) (by decide)
      · rfl

private theorem intText_injective : Function.Injective intText := by
  intro first second same
  have split := congrArg splitSign same
  rw [intText, intText, splitSign_signed (allDigits_natDigits _),
    splitSign_signed (allDigits_natDigits _)] at split
  obtain ⟨signs, digits⟩ := Prod.mk.inj split
  have values := congrArg (digitsValue 0) digits
  rw [digitsValue_natDigits, digitsValue_natDigits] at values
  rw [decide_eq_decide] at signs
  omega

/-- What a value is written as: a word, a quoted text, or something between brackets. -/
inductive Shape where
  | word
  | text
  | list
  | object

/-- The shape of the value that begins with a character. -/
def shapeOf? (c : Char) : Option Shape :=
  if isBare c then some .word
  else if c = doubleQuote then some .text
  else if c = '[' then some .list
  else if c = '\x7b' then some .object
  else none

private theorem shapeOf?_of_isBare {c : Char} (bare : isBare c = true) :
    shapeOf? c = some .word := by
  rw [shapeOf?, if_pos bare]

namespace Datum

variable {τ : Type}

/-- What the first letter of a written value tells of it. -/
def shape : Datum τ → Shape
  | .str _ => .text
  | .list _ => .list
  | .object _ => .object
  | _ => .word

/-- The word that a value is written as, if it is written as one. -/
def word : Datum τ → List Char
  | .bool value => if value then "true".toList else "false".toList
  | .int value => intText value
  | .float value => value.text numberStyle
  | _ => "null".toList

private theorem isWord_word (value : Datum τ) : IsWord value.word := by
  cases value with
  | bool value => exact isWord_bool value
  | int value => exact isWord_intText value
  | float value => exact isWord_floatText value
  | _ => exact isWord_null

/-- A word is read as its value, unless it is that of an integer and not read at all. -/
theorem bareValue?_word {value : Datum τ} (atom : value.shape = .word) :
    bareValue? value.word = some (value.map fun _ => []) ∨
      bareValue? value.word = none ∧ ∃ number, value = .int number := by
  cases value with
  | null => exact Or.inl rfl
  | bool value => exact Or.inl (bareValue?_bool value)
  | float value => exact Or.inl (bareValue?_floatText value)
  | int value =>
      rw [word, bareValue?_intText_eq]
      split
      · exact Or.inr ⟨rfl, value, rfl⟩
      · exact Or.inl rfl
  | str _ => cases atom
  | list _ => cases atom
  | object _ => cases atom

/-- A value without texts is determined by its shape over any other kind of text. -/
theorem eq_of_map_eq {σ : Type} {change : τ → σ} {left right : Datum τ} (atom : left.shape = .word)
    (same : left.map change = right.map change) : left = right := by
  cases left with
  | str _ => cases atom
  | list _ => cases atom
  | object _ => cases atom
  | _ => cases right <;> first | rfl | (cases same <;> rfl)

/-- **A word is that of one value only.** -/
theorem word_inj {left right : Datum τ} (leftAtom : left.shape = .word)
    (rightAtom : right.shape = .word) (same : left.word = right.word) : left = right := by
  have meaning : bareValue? left.word = bareValue? right.word := congrArg bareValue? same
  rcases bareValue?_word leftAtom with read | ⟨unread, number, rfl⟩ <;>
  rcases bareValue?_word rightAtom with otherRead | ⟨otherUnread, other, rfl⟩
  · rw [read, otherRead] at meaning
    exact eq_of_map_eq leftAtom (Option.some.inj meaning)
  · rw [read, otherUnread] at meaning
    cases meaning
  · rw [unread, otherRead] at meaning
    cases meaning
  · rw [intText_injective same]

/-! ## Values -/

variable [Spelling τ κ]

private theorem write_of_shape_word {value : Datum τ} (atom : value.shape = .word) (layout : Layout)
    (depth : Nat) : (value.write layout depth : List κ) = Letter.ofChars value.word := by
  cases value with
  | str _ => cases atom
  | list _ => cases atom
  | object _ => cases atom
  | _ => rfl

/-- The first character of a written value tells the shape of the value. -/
theorem exists_write_eq_cons (value : Datum τ) (layout : Layout) (depth : Nat) :
    ∃ c more, (value.write layout depth : List κ) = Letter.ofChar c :: more ∧
      shapeOf? c = some value.shape := by
  have ofWord (atom : value.shape = .word) :
      ∃ c more, (value.write layout depth : List κ) = Letter.ofChar c :: more ∧
        shapeOf? c = some value.shape := by
    obtain ⟨nonempty, bare⟩ := isWord_word value
    obtain ⟨c, rest, cut⟩ := List.exists_cons_of_ne_nil nonempty
    rw [write_of_shape_word atom, cut]
    refine ⟨c, Letter.ofChars rest, rfl, ?_⟩
    rw [atom, shapeOf?_of_isBare (bare c (cut ▸ List.mem_cons_self))]
  cases value with
  | str text => exact ⟨doubleQuote, _, rfl, rfl⟩
  | list items =>
      cases items with
      | nil => exact ⟨'[', _, rfl, rfl⟩
      | cons item rest => exact ⟨'[', _, rfl, rfl⟩
  | object fields =>
      rcases fields with _ | ⟨⟨key, value⟩, rest⟩
      · exact ⟨'\x7b', _, rfl, rfl⟩
      · exact ⟨'\x7b', _, rfl, rfl⟩
  | _ => exact ofWord rfl

/-- Values that are written with the same first letter have the same shape. -/
theorem shape_eq_of_write {left right : Datum τ} {layout : Layout} {depth : Nat}
    {rest more : List κ}
    (same : left.write layout depth ++ rest = right.write layout depth ++ more) :
    left.shape = right.shape := by
  obtain ⟨c, tail, written, shape⟩ := exists_write_eq_cons (κ := κ) left layout depth
  obtain ⟨d, other, otherWritten, otherShape⟩ := exists_write_eq_cons (κ := κ) right layout depth
  rw [written, otherWritten] at same
  obtain rfl := ofChar_injective (List.cons.inj same).1
  exact Option.some.inj (shape.symm.trans otherShape)

/-- **Values that are written as words are told apart** in front of something that ends them. -/
theorem word_write_append_inj {left right : Datum τ} {layout : Layout} {depth : Nat}
    {rest more : List κ} (atom : left.shape = .word) (ended : Ended rest) (moreEnded : Ended more)
    (same : left.write layout depth ++ rest = right.write layout depth ++ more) :
    left = right ∧ rest = more := by
  have other : right.shape = .word := (shape_eq_of_write same).symm.trans atom
  rw [write_of_shape_word atom, write_of_shape_word other] at same
  obtain ⟨words, ends⟩ := word_append_inj left.isWord_word.bare right.isWord_word.bare ended
    moreEnded same
  exact ⟨word_inj atom other words, ends⟩

/-- Neither a word nor a row of items or fields goes on in the rest. -/
structure Closed (rest : List κ) : Prop where
  ended : Ended rest
  last : rest.head? ≠ some (Letter.ofChar ',')

private theorem closed_bracket (layout : Layout) (depth : Nat) {close : Char}
    (ends : isBare close = false) (last : close ≠ ',') (rest : List κ) :
    Closed (Letter.ofChars (layout.lineBreak depth ++ [close]) ++ rest) := by
  have first {c : Char} {tail : List κ} (bare : isBare c = false) (differ : c ≠ ',') :
      Closed (Letter.ofChar c :: tail) :=
    ⟨ended_cons bare tail, fun same => differ (ofChar_injective (Option.some.inj same))⟩
  cases layout with
  | inline => exact first ends last
  | indented => exact first (by decide) (by decide)

private theorem ended_comma (layout : Layout) (depth : Nat) (rest : List κ) :
    Ended (Letter.ofChars (layout.comma depth) ++ rest) := by
  cases layout with
  | inline => exact ended_cons (by decide) _
  | indented => exact ended_cons (by decide) _

private theorem ended_writeItems (layout : Layout) (depth : Nat) (items : List (Datum τ))
    {rest : List κ}
    (closed : Closed rest) : Ended (writeItems layout depth items ++ rest) := by
  cases items with
  | nil => exact closed.ended
  | cons item items =>
      simp only [writeItems, List.append_assoc]
      exact ended_comma layout depth _

private theorem ended_writeFields (layout : Layout) (depth : Nat) (fields : Fields τ)
    {rest : List κ}
    (closed : Closed rest) : Ended (writeFields layout depth fields ++ rest) := by
  cases fields with
  | nil => exact closed.ended
  | cons field fields =>
      simp only [writeFields, List.append_assoc]
      exact ended_comma layout depth _

/-- What is written behind a comma is not what closes. -/
theorem Closed.ne_comma_append {layout : Layout} {depth : Nat} {rest more : List κ}
    (closed : Closed rest) : rest ≠ Letter.ofChars (layout.comma depth) ++ more := by
  rintro rfl
  cases layout with
  | inline => exact closed.last rfl
  | indented => exact closed.last rfl

/-- A bracket that closes is neither a line break nor the first letter of what it could enclose. -/
theorem close_ne_lineBreak_append {close c : Char} (line : close ≠ '\n') (differ : close ≠ c)
    (layout : Layout) (depth : Nat) (rest more : List κ) :
    Letter.ofChar close :: rest ≠
      Letter.ofChars (layout.lineBreak depth) ++ Letter.ofChar c :: more := by
  intro same
  cases layout with
  | inline => exact differ (ofChar_injective (List.cons.inj same).1)
  | indented => exact line (ofChar_injective (List.cons.inj same).1)

private theorem close_ne_lineBreak_append_write {close : Char} (line : close ≠ '\n')
    (begins : shapeOf? close = none) (layout : Layout) (depth : Nat) (value : Datum τ)
    (rest more : List κ) :
    Letter.ofChar close :: rest ≠
      Letter.ofChars (layout.lineBreak depth) ++ (value.write layout depth ++ more) := by
  obtain ⟨c, tail, written, shape⟩ := exists_write_eq_cons (κ := κ) value layout depth
  rw [written]
  refine close_ne_lineBreak_append line ?_ layout depth rest (tail ++ more)
  rintro rfl
  rw [begins] at shape
  cases shape

private theorem letters_append_inj [ExactLetter κ] [ExactSpelling τ] {first second : τ}
    {rest more : List κ}
    (same : stringLetters (Spelling.letters first) ++ rest =
      stringLetters (Spelling.letters second) ++ more) : first = second ∧ rest = more := by
  obtain ⟨letters, ends⟩ := stringLetters_append_inj same
  exact ⟨ExactSpelling.letters_injective letters, ends⟩

-- The induction is on the left value; the right one has the same shape, since the first letters
-- are the same.

mutual

/-- **Written values are told apart**, in either layout and whatever ends them. -/
theorem write_append_inj [ExactLetter κ] [ExactSpelling τ] (layout : Layout) (depth : Nat) :
    ∀ (left right : Datum τ) {rest more : List κ}, Ended rest → Ended more →
    left.write layout depth ++ rest = right.write layout depth ++ more →
    left = right ∧ rest = more
  | .null, _, _, _, ended, moreEnded, same => word_write_append_inj rfl ended moreEnded same
  | .bool _, _, _, _, ended, moreEnded, same => word_write_append_inj rfl ended moreEnded same
  | .int _, _, _, _, ended, moreEnded, same => word_write_append_inj rfl ended moreEnded same
  | .float _, _, _, _, ended, moreEnded, same => word_write_append_inj rfl ended moreEnded same
  | .str text, right, rest, more, ended, moreEnded, same => by
      have shape := shape_eq_of_write same
      cases right with
      | str other =>
          obtain ⟨rfl, ends⟩ := letters_append_inj same
          exact ⟨rfl, ends⟩
      | _ => cases shape
  | .list [], right, rest, more, ended, moreEnded, same => by
      have shape := shape_eq_of_write same
      cases right with
      | list others =>
          cases others with
          | nil => exact ⟨rfl, (List.cons.inj (List.cons.inj same).2).2⟩
          | cons other others =>
              rw [write, write] at same
              simp only [List.append_assoc] at same
              exact absurd (List.cons.inj same).2 (close_ne_lineBreak_append_write (by decide)
                (by decide) layout (depth + 1) other rest _)
      | _ => cases shape
  | .list (item :: items), right, rest, more, ended, moreEnded, same => by
      have shape := shape_eq_of_write same
      cases right with
      | list others =>
          cases others with
          | nil =>
              rw [write, write] at same
              simp only [List.append_assoc] at same
              exact absurd (List.cons.inj same).2.symm (close_ne_lineBreak_append_write (by decide)
                (by decide) layout (depth + 1) item more _)
          | cons other others =>
              rw [write, write] at same
              simp only [List.append_assoc] at same
              have closed (after : List κ) :
                  Closed (Letter.ofChars (layout.lineBreak depth ++ [']']) ++ after) :=
                closed_bracket layout depth (by decide) (by decide) after
              obtain ⟨rfl, behind⟩ := write_append_inj layout (depth + 1) item other
                (ended_writeItems layout (depth + 1) items (closed rest))
                (ended_writeItems layout (depth + 1) others (closed more))
                (List.append_cancel_left same)
              obtain ⟨rfl, ends⟩ := writeItems_append_inj layout (depth + 1) items others
                (closed rest) (closed more) behind
              exact ⟨rfl, List.append_cancel_left ends⟩
      | _ => cases shape
  | .object [], right, rest, more, ended, moreEnded, same => by
      have shape := shape_eq_of_write same
      cases right with
      | object others =>
          rcases others with _ | ⟨⟨key, value⟩, others⟩
          · exact ⟨rfl, (List.cons.inj (List.cons.inj same).2).2⟩
          · rw [write, write] at same
            simp only [List.append_assoc] at same
            exact absurd (List.cons.inj same).2 (close_ne_lineBreak_append (by decide) (by decide)
              layout (depth + 1) rest _)
      | _ => cases shape
  | .object ((key, value) :: fields), right, rest, more, ended, moreEnded, same => by
      have shape := shape_eq_of_write same
      cases right with
      | object others =>
          rcases others with _ | ⟨⟨other, otherValue⟩, others⟩
          · rw [write, write] at same
            simp only [List.append_assoc] at same
            exact absurd (List.cons.inj same).2.symm (close_ne_lineBreak_append (by decide)
              (by decide) layout (depth + 1) more _)
          · rw [write, write] at same
            simp only [List.append_assoc] at same
            have closed (after : List κ) :
                Closed (Letter.ofChars (layout.lineBreak depth ++ ['\x7d']) ++ after) :=
              closed_bracket layout depth (by decide) (by decide) after
            obtain ⟨rfl, valued⟩ := letters_append_inj (List.append_cancel_left same)
            obtain ⟨rfl, behind⟩ := write_append_inj layout (depth + 1) value otherValue
              (ended_writeFields layout (depth + 1) fields (closed rest))
              (ended_writeFields layout (depth + 1) others (closed more))
              (List.append_cancel_left valued)
            obtain ⟨rfl, ends⟩ := writeFields_append_inj layout (depth + 1) fields others
              (closed rest) (closed more) behind
            exact ⟨rfl, List.append_cancel_left ends⟩
      | _ => cases shape

private theorem writeItems_append_inj [ExactLetter κ] [ExactSpelling τ] (layout : Layout)
    (depth : Nat) :
    ∀ (items others : List (Datum τ)) {rest more : List κ}, Closed rest → Closed more →
    writeItems layout depth items ++ rest = writeItems layout depth others ++ more →
    items = others ∧ rest = more
  | [], [], _, _, _, _, same => ⟨rfl, same⟩
  | [], other :: others, rest, more, closed, _, same => by
      rw [writeItems, writeItems, List.append_assoc, List.append_assoc] at same
      exact absurd same closed.ne_comma_append
  | item :: items, [], rest, more, _, moreClosed, same => by
      rw [writeItems, writeItems, List.append_assoc, List.append_assoc] at same
      exact absurd same.symm moreClosed.ne_comma_append
  | item :: items, other :: others, rest, more, closed, moreClosed, same => by
      simp only [writeItems, List.append_assoc] at same
      obtain ⟨rfl, behind⟩ := write_append_inj layout depth item other
        (ended_writeItems layout depth items closed)
        (ended_writeItems layout depth others moreClosed) (List.append_cancel_left same)
      obtain ⟨rfl, ends⟩ := writeItems_append_inj layout depth items others closed moreClosed behind
      exact ⟨rfl, ends⟩

private theorem writeFields_append_inj [ExactLetter κ] [ExactSpelling τ] (layout : Layout)
    (depth : Nat) :
    ∀ (fields others : Fields τ) {rest more : List κ}, Closed rest → Closed more →
    writeFields layout depth fields ++ rest = writeFields layout depth others ++ more →
    fields = others ∧ rest = more
  | [], [], _, _, _, _, same => ⟨rfl, same⟩
  | [], (key, value) :: others, rest, more, closed, _, same => by
      simp only [writeFields, List.append_assoc] at same
      exact absurd same closed.ne_comma_append
  | (key, value) :: fields, [], rest, more, _, moreClosed, same => by
      simp only [writeFields, List.append_assoc] at same
      exact absurd same.symm moreClosed.ne_comma_append
  | (key, value) :: fields, (other, held) :: others, rest, more, closed, moreClosed, same => by
      simp only [writeFields, List.append_assoc] at same
      obtain ⟨rfl, valued⟩ := letters_append_inj (List.append_cancel_left same)
      obtain ⟨rfl, behind⟩ := write_append_inj layout depth value held
        (ended_writeFields layout depth fields closed)
        (ended_writeFields layout depth others moreClosed) (List.append_cancel_left valued)
      obtain ⟨rfl, ends⟩ := writeFields_append_inj layout depth fields others closed moreClosed
        behind
      exact ⟨rfl, ends⟩

end

/-- **A value is determined by what it is written as.** -/
theorem write_injective [ExactLetter κ] [ExactSpelling τ] (layout : Layout) (depth : Nat) :
    Function.Injective (fun value : Datum τ => (value.write layout depth : List κ)) := by
  intro left right same
  have behind : (left.write layout depth : List κ) ++ [] = right.write layout depth ++ [] := by
    rw [List.append_nil, List.append_nil]
    exact same
  exact (write_append_inj layout depth left right ended_nil ended_nil behind).1

end Datum

end KeyChords.Json
