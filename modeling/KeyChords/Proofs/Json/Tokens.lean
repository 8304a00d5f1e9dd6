import KeyChords.Proofs.Json.Texts
import KeyChords.Proofs.Json.Words

/-! # The tokens of a written value

A written value is cut into the same tokens in either layout and at any depth: the blanks between
them are dropped, a bare word ends at the blank, comma or bracket behind it, and a quoted text at
its own mark.
-/

namespace KeyChords.Json

open KeyChords.Decimal KeyChords.Text

/-! ## One token -/

private theorem isSpace_of_punctuation? {c : Char} {token : Token}
    (mark : punctuation? c = some token) :
    isSpace c = false := by
  unfold punctuation? at mark
  split_ifs at mark <;> (subst c; decide)

private theorem isBare_of_punctuation? {c : Char} {token : Token}
    (mark : punctuation? c = some token) :
    isBare c = false := by
  simp [isBare, mark]

theorem tokens_nil : tokens [] = .ok [] := by
  rw [tokens]

-- The generated equations of `tokens` ask what follows a slash even where there is none, so its
-- definition is unfolded as a whole.

theorem tokens_space {c : Char} (blank : isSpace c = true) (rest : List Char) :
    tokens (c :: rest) = tokens rest := by
  rw [tokens.eq_def]
  exact if_pos blank

private theorem tokens_blanks {blanks rest : List Char} (blank : ∀ c ∈ blanks, isSpace c = true) :
    tokens (blanks ++ rest) = tokens rest := by
  induction blanks with
  | nil => rfl
  | cons c blanks hyp =>
    rw [List.cons_append, tokens_space (blank c List.mem_cons_self)]
    exact hyp fun d inside => blank d (List.mem_cons_of_mem c inside)

/-- A punctuation mark is a token wherever it stands. -/
theorem tokens_punctuation {c : Char} {token : Token} {rest : List Char} {more : List Token}
    (mark : punctuation? c = some token) (read : tokens rest = .ok more) :
    tokens (c :: rest) = .ok (token :: more) := by
  rw [tokens.eq_def]
  simp only [isSpace_of_punctuation? mark, mark, read, Bool.false_eq_true, if_false]
  rfl

theorem stringLetters_char (text : List Char) :
    stringLetters text = doubleQuote :: text.flatMap escapedChar ++ [doubleQuote] := by
  simp only [stringLetters, Letter.ofChar_char, funext escapedLetter_char]

private theorem tokens_quoted {text rest : List Char} {more : List Token}
    (read : tokens rest = .ok more) :
    tokens (stringLetters text ++ rest) = .ok (.text (text.map CodePoint.ofChar) :: more) := by
  have content := readText_stringLetters text rest
  rw [stringLetters_char, List.cons_append, List.cons_append, List.append_assoc,
    List.singleton_append, tokens.eq_def]
  have solid : isSpace doubleQuote = false := by decide
  have no_mark : punctuation? doubleQuote = none := by decide
  have quote : isQuote doubleQuote = true := by decide
  simp only [solid, no_mark, quote, Bool.false_eq_true, if_false, if_true]
  split
  · next found after reads =>
    obtain ⟨rfl, rfl⟩ := Prod.mk.inj (Except.ok.inj (reads.symm.trans content))
    rw [read]
    rfl
  · next fault reads => simp [reads] at content

/-- A bare word ends in front of what is not bare. -/
def EndsWord (rest : List Char) : Prop :=
  ∀ c ∈ rest.head?, isBare c = false

theorem endsWord_cons {c : Char} (ends : isBare c = false) (rest : List Char) :
    EndsWord (c :: rest) := by
  rintro d member
  rwa [← Option.some.inj member]

private theorem tokens_word {word rest : List Char} {more : List Token} (is_word : IsWord word)
    (ends : EndsWord rest) (read : tokens rest = .ok more) :
    tokens (word ++ rest) = .ok (.bare word :: more) := by
  obtain ⟨nonempty, bare⟩ := is_word
  rcases word with _ | ⟨c, word⟩
  · exact absurd rfl nonempty
  · have first := bare c List.mem_cons_self
    have others : ∀ d ∈ word, isBare d = true := fun d inside =>
      bare d (List.mem_cons_of_mem c inside)
    have stops : rest.takeWhile isBare = [] ∧ rest.dropWhile isBare = rest := by
      cases rest with
      | nil => exact ⟨rfl, rfl⟩
      | cons d rest => simp [ends d rfl]
    simp only [isBare, Bool.not_eq_true', Bool.or_eq_false_iff, decide_eq_false_iff_not,
      Option.isSome_eq_false_iff, Option.isNone_iff_eq_none] at first
    obtain ⟨⟨⟨solid, no_quote⟩, no_slash⟩, no_mark⟩ := first
    rw [List.cons_append, tokens.eq_def]
    simp only [solid, no_quote, no_slash, no_mark, Bool.false_eq_true, if_false,
      List.takeWhile_append_of_pos others, List.dropWhile_append_of_pos others, stops.1, stops.2,
      List.append_nil, read]
    rfl

/-! ## Layouts -/

namespace Layout

private theorem blank_lineBreak (layout : Layout) (depth : Nat) :
    ∀ c ∈ layout.lineBreak depth, isSpace c = true := by
  intro c member
  cases layout with
  | inline => simp [lineBreak] at member
  | indented =>
    rcases List.mem_cons.mp member with rfl | inside
    · decide
    · rw [List.eq_of_mem_replicate inside]
      decide

/-- Whatever the layout, a comma is a comma and blanks. -/
theorem comma_eq (layout : Layout) (depth : Nat) :
    ∃ blanks, layout.comma depth = ',' :: blanks ∧ ∀ c ∈ blanks, isSpace c = true := by
  cases layout with
  | inline => exact ⟨[' '], rfl, List.all_eq_true.mp (by decide)⟩
  | indented => exact ⟨_, rfl, blank_lineBreak .indented depth⟩

/-- In front of a closing bracket a word ends, with or without a line break between them. -/
theorem endsWord_close (layout : Layout) (depth : Nat) {c : Char} {token : Token}
    (mark : punctuation? c = some token) (rest : List Char) :
    EndsWord (layout.lineBreak depth ++ c :: rest) := by
  cases layout with
  | inline => exact endsWord_cons (isBare_of_punctuation? mark) rest
  | indented => exact endsWord_cons rfl _

private theorem tokens_comma (layout : Layout) (depth : Nat) {rest : List Char} {more : List Token}
    (read : tokens rest = .ok more) :
    tokens (layout.comma depth ++ rest) = .ok (.comma :: more) := by
  obtain ⟨blanks, comma, blank⟩ := layout.comma_eq depth
  rw [comma, List.cons_append]
  exact tokens_punctuation rfl (by rw [tokens_blanks blank, read])

private theorem tokens_close (layout : Layout) (depth : Nat) {c : Char} {token : Token}
    {rest : List Char} {more : List Token} (mark : punctuation? c = some token)
    (read : tokens rest = .ok more) :
    tokens (layout.lineBreak depth ++ c :: rest) = .ok (token :: more) := by
  rw [tokens_blanks (layout.blank_lineBreak depth)]
  exact tokens_punctuation mark read

end Layout

/-! ## Values -/

namespace Datum

mutual

/-- **The tokens of a written value.** -/
def tokenList : Value → List Token
  | .null => [.bare "null".toList]
  | .bool value => [.bare (if value then "true".toList else "false".toList)]
  | .int value => [.bare (intText value)]
  | .float value => [.bare (value.text numberStyle)]
  | .str text => [.text (Spelling.ofString text)]
  | .list items =>
    match items with
    | [] => [.openList, .closeList]
    | item :: rest => .openList :: (tokenList item ++ (itemTokens rest ++ [.closeList]))
  | .object fields =>
    match fields with
    | [] => [.openObject, .closeObject]
    | (key, value) :: rest =>
      .openObject :: .text (Spelling.ofString key) :: .colon ::
        (tokenList value ++ (fieldTokens rest ++ [.closeObject]))
termination_by structural value => value

/-- The tokens of further items of a list. -/
def itemTokens : List Value → List Token
  | [] => []
  | item :: rest => .comma :: (tokenList item ++ itemTokens rest)
termination_by structural items => items

/-- The tokens of further fields of an object. -/
def fieldTokens : List (String × Value) → List Token
  | [] => []
  | (key, value) :: rest =>
    .comma :: .text (Spelling.ofString key) :: .colon :: (tokenList value ++ fieldTokens rest)
termination_by structural fields => fields

end

variable {rest : List Char}

private theorem endsWord_writeItems (layout : Layout) (depth : Nat) (items : List Value)
    (ends : EndsWord rest) : EndsWord (writeItems layout depth items ++ rest) := by
  cases items with
  | nil => exact ends
  | cons item items =>
    obtain ⟨blanks, comma, -⟩ := layout.comma_eq depth
    rw [writeItems, Letter.ofChars_chars, comma]
    exact endsWord_cons rfl _

private theorem endsWord_writeFields (layout : Layout) (depth : Nat) (fields : Fields String)
    (ends : EndsWord rest) : EndsWord (writeFields layout depth fields ++ rest) := by
  rcases fields with _ | ⟨⟨key, value⟩, fields⟩
  · exact ends
  · obtain ⟨blanks, comma, -⟩ := layout.comma_eq depth
    rw [writeFields, Letter.ofChars_chars, comma]
    exact endsWord_cons rfl _

/-- A key and its colon are two tokens. -/
theorem tokens_key (key : String) {more : List Token} (read : tokens rest = .ok more) :
    tokens (stringLetters (Spelling.letters key) ++ ([':', ' '] ++ rest)) =
      .ok (.text (Spelling.ofString key) :: .colon :: more) := by
  refine tokens_quoted ?_
  exact tokens_punctuation rfl ((tokens_space rfl rest).trans read)

mutual

/-- **A written value is cut into its tokens**, in either layout and whatever follows it. -/
theorem tokens_write (layout : Layout) (depth : Nat) : ∀ (value : Value) {rest : List Char}
    {more : List Token}, EndsWord rest → tokens rest = .ok more →
    tokens (value.write layout depth ++ rest) = .ok (value.tokenList ++ more)
  | .null, rest, more, ends, read => tokens_word isWord_null ends read
  | .bool value, rest, more, ends, read => by
    rw [write, Letter.ofChars_chars]
    exact tokens_word (isWord_bool value) ends read
  | .int value, rest, more, ends, read => by
    rw [write, Letter.ofChars_chars]
    exact tokens_word (isWord_intText value) ends read
  | .float value, rest, more, ends, read => by
    rw [write, Letter.ofChars_chars]
    exact tokens_word (isWord_floatText value) ends read
  | .str text, rest, more, ends, read => tokens_quoted read
  | .list [], rest, more, ends, read =>
    tokens_punctuation rfl (tokens_punctuation rfl read)
  | .list (item :: items), rest, more, ends, read => by
    -- from the back, since every token is read in front of tokens that are already known
    have closed := layout.tokens_close depth (c := ']') rfl read
    have others := tokens_writeItems layout (depth + 1) items
      (layout.endsWord_close depth rfl rest) closed
    have first := tokens_write layout (depth + 1) item
      (endsWord_writeItems layout (depth + 1) items
        (layout.endsWord_close depth rfl rest)) others
    rw [← tokens_blanks (layout.blank_lineBreak (depth + 1))] at first
    have opened := tokens_punctuation (c := '[') rfl first
    simpa [write, tokenList] using opened
  | .object [], rest, more, ends, read =>
    tokens_punctuation rfl (tokens_punctuation rfl read)
  | .object ((key, value) :: fields), rest, more, ends, read => by
    have closed := layout.tokens_close depth (c := '\x7d') rfl read
    have others := tokens_writeFields layout (depth + 1) fields
      (layout.endsWord_close depth rfl rest) closed
    have first := tokens_write layout (depth + 1) value
      (endsWord_writeFields layout (depth + 1) fields
        (layout.endsWord_close depth rfl rest)) others
    have keyed := tokens_key key first
    rw [← tokens_blanks (layout.blank_lineBreak (depth + 1))] at keyed
    have opened := tokens_punctuation (c := '\x7b') rfl keyed
    simpa [write, tokenList] using opened

private theorem tokens_writeItems (layout : Layout) (depth : Nat) : ∀ (items : List Value)
    {rest : List Char} {more : List Token}, EndsWord rest → tokens rest = .ok more →
    tokens (writeItems layout depth items ++ rest) = .ok (itemTokens items ++ more)
  | [], rest, more, ends, read => read
  | item :: items, rest, more, ends, read => by
    have others := tokens_writeItems layout depth items ends read
    have first := tokens_write layout depth item
      (endsWord_writeItems layout depth items ends) others
    have behind := layout.tokens_comma depth first
    simpa [writeItems, itemTokens] using behind

private theorem tokens_writeFields (layout : Layout) (depth : Nat) :
    ∀ (fields : List (String × Value))
    {rest : List Char} {more : List Token}, EndsWord rest → tokens rest = .ok more →
    tokens (writeFields layout depth fields ++ rest) = .ok (fieldTokens fields ++ more)
  | [], rest, more, ends, read => read
  | (key, value) :: fields, rest, more, ends, read => by
    have others := tokens_writeFields layout depth fields ends read
    have first := tokens_write layout depth value
      (endsWord_writeFields layout depth fields ends) others
    have keyed := tokens_key key first
    have behind := layout.tokens_comma depth keyed
    simpa [writeFields, fieldTokens] using behind

end

end Datum

end KeyChords.Json
