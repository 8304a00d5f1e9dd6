import KeyChords.Decimal.Numeral
import KeyChords.Json.Value
import KeyChords.Text.Identifier
import KeyChords.Text.Quoted

/-! # The tokens of a JSON5 document

A document is cut into punctuation, quoted texts and bare words; blanks and comments between them
are dropped. A bare word is a longest run of characters that are none of these. What it means is
settled where it stands: a literal or a number in the place of a value, an identifier in the place
of a key. Two bare words never stand next to each other in a document, so cutting as late as
possible loses nothing.
-/

namespace KeyChords.Json

open KeyChords.Decimal KeyChords.Text

/-- **Why a text is no document.** -/
inductive SyntaxFault where
  | openComment
  | strayCharacter (c : Char)
  | openText
  | brokenText
  | badEscape
  | unexpected
  | unfinished
  deriving DecidableEq, Repr

/-- The wording of a syntax fault. -/
def SyntaxFault.message : SyntaxFault → String
  | .openComment => "a comment is never closed"
  | .strayCharacter c => "unexpected character " ++ quoted (String.singleton c)
  | .openText => "a text is never closed"
  | .brokenText => "a text runs over the end of its line"
  | .badEscape => "a text holds an escape that stands for nothing"
  | .unexpected => "a value, a key or a separator is out of place"
  | .unfinished => "the document ends too early"

/-- **A token.** -/
inductive Token where
  | openList
  | closeList
  | openObject
  | closeObject
  | colon
  | comma
  | text (content : List CodePoint)
  | bare (word : List Char)
  deriving DecidableEq, Repr

/-- Whether a character ends a line. -/
def isLineEnd (c : Char) : Bool :=
  c = '\n' || c = '\r' || c.toNat = 0x2028 || c.toNat = 0x2029

/-- The characters that separate words. -/
def spaceSeparators : CharClass where
  ranges := [
    (0x20, 0x20), (0xa0, 0xa0), (0x1680, 0x1680), (0x2000, 0x200a), (0x202f, 0x202f),
    (0x205f, 0x205f), (0x3000, 0x3000)]

/-- The characters that separate tokens and mean nothing else: line ends, space separators, the
tabulators, the form feed and the byte order mark. -/
def isSpace (c : Char) : Bool :=
  c = ' ' || isLineEnd c || c = '\t' || c.toNat = 0x0b || c.toNat = 0x0c || c.toNat = 0xfeff ||
    spaceSeparators.contains c

/-- The token of a punctuation mark. -/
def punctuation? (c : Char) : Option Token :=
  if c = '[' then some .openList
  else if c = ']' then some .closeList
  else if c = '\x7b' then some .openObject
  else if c = '\x7d' then some .closeObject
  else if c = ':' then some .colon
  else if c = ',' then some .comma
  else none

/-- Whether a character starts a text. -/
def isQuote (c : Char) : Bool :=
  c = doubleQuote || c = singleQuote

/-- Whether a character belongs to a word without quotes. -/
def isBare (c : Char) : Bool :=
  !(isSpace c || isQuote c || c = '/' || (punctuation? c).isSome)

/-- What follows the end of a comment. -/
def afterComment? : List Char → Option (List Char)
  | [] => none
  | '*' :: '/' :: rest => some rest
  | _ :: rest => afterComment? rest

private theorem length_afterComment? {text rest : List Char}
    (closed : afterComment? text = some rest) :
    rest.length < text.length := by
  fun_induction afterComment? text with
  | case1 => simp at closed
  | case2 more =>
    obtain rfl := Option.some.inj closed
    simp only [List.length_cons]
    omega
  | case3 c more _ hyp => exact Nat.lt_succ_of_lt (hyp closed)

/-- The value of a hexadecimal digit. -/
def hexValue? (c : Char) : Option Nat :=
  if '0' ≤ c ∧ c ≤ '9' then some (c.toNat - 0x30)
  else if 'a' ≤ c ∧ c ≤ 'f' then some (c.toNat - 0x57)
  else if 'A' ≤ c ∧ c ≤ 'F' then some (c.toNat - 0x37)
  else none

/-- The value of exactly `width` hexadecimal digits, with what is already read, and the rest. -/
def hexRun? : (width : Nat) → (value : Nat) → List Char → Option (Nat × List Char)
  | 0, value, rest => some (value, rest)
  | _ + 1, _, [] => none
  | width + 1, value, c :: rest =>
    match hexValue? c with
    | some digit => hexRun? width (16 * value + digit) rest
    | none => none

private theorem length_hexRun? {width value result : Nat} {text rest : List Char}
    (read : hexRun? width value text = some (result, rest)) :
    rest.length + width = text.length := by
  fun_induction hexRun? width value text with
  | case1 value text =>
    obtain ⟨-, rfl⟩ := Prod.mk.inj (Option.some.inj read)
    rfl
  | case2 => simp at read
  | case3 width value c more digit _ hyp =>
    have := hyp read
    simp only [List.length_cons]
    omega
  | case4 => simp at read

/-- The code point of a four-digit escape behind its letter, and the rest. Each escape is read on
its own, so it may name half of a surrogate pair. -/
def unitEscape? (text : List Char) : Option (CodePoint × List Char) :=
  (hexRun? 4 0 text).map fun (unit, rest) => (Fin.ofNat 0x110000 unit, rest)

private theorem length_unitEscape? {text rest : List Char} {point : CodePoint}
    (read : unitEscape? text = some (point, rest)) : rest.length < text.length := by
  obtain ⟨⟨unit, after⟩, run, pair⟩ := Option.map_eq_some_iff.mp read
  obtain ⟨-, rfl⟩ := Prod.mk.inj pair
  have := length_hexRun? run
  omega

/-- The characters that single letters stand for behind a backslash. -/
def letterEscapes : List (Char × Nat) :=
  [('b', 0x08), ('f', 0x0c), ('n', 0x0a), ('r', 0x0d), ('t', 0x09), ('v', 0x0b)]

/-- What an escape stands for behind its backslash, and the rest. An escaped line end stands for
nothing, and a character without a meaning of its own for itself. -/
def escape? : List Char → Option (List CodePoint × List Char)
  | [] => none
  | '\r' :: '\n' :: rest => some ([], rest)
  | c :: rest =>
    if isLineEnd c then some ([], rest)
    else
      match letterEscapes.lookup c with
      | some code => some ([.ofChar (Char.ofNat code)], rest)
      | none =>
        if c = '0' then
          if (rest.head?.any Char.isDigit) then none
          else some ([.ofChar (Char.ofNat 0)], rest)
        else if c.isDigit then none
        else if c = 'x' then
          (hexRun? 2 0 rest).map fun (code, more) => ([.ofChar (Char.ofNat code)], more)
        else if c = 'u' then (unitEscape? rest).map fun (point, more) => ([point], more)
        else some ([.ofChar c], rest)

private theorem length_escape? {text rest : List Char} {meant : List CodePoint}
    (read : escape? text = some (meant, rest)) : rest.length < text.length := by
  unfold escape? at read
  split at read
  · simp at read
  · obtain ⟨-, rfl⟩ := Prod.mk.inj (Option.some.inj read)
    simp only [List.length_cons]
    omega
  · next c more _ =>
    simp only [List.length_cons]
    split at read
    · obtain ⟨-, rfl⟩ := Prod.mk.inj (Option.some.inj read)
      omega
    · split at read
      · obtain ⟨-, rfl⟩ := Prod.mk.inj (Option.some.inj read)
        omega
      · split at read
        · split at read
          · simp at read
          · obtain ⟨-, rfl⟩ := Prod.mk.inj (Option.some.inj read)
            omega
        · split at read
          · simp at read
          · split at read
            · obtain ⟨⟨code, after⟩, run, pair⟩ := Option.map_eq_some_iff.mp read
              obtain ⟨-, rfl⟩ := Prod.mk.inj pair
              have := length_hexRun? run
              omega
            · split at read
              · obtain ⟨⟨unit, after⟩, run, pair⟩ := Option.map_eq_some_iff.mp read
                obtain ⟨-, rfl⟩ := Prod.mk.inj pair
                have := length_unitEscape? run
                omega
              · obtain ⟨-, rfl⟩ := Prod.mk.inj (Option.some.inj read)
                omega

/-- The content of a quoted text behind its opening mark, and what follows the closing one. Only the
two plain line ends may not stand in a text as they are. -/
def readText (mark : Char) (text : List Char) :
    Except SyntaxFault (List CodePoint × List Char) :=
  match text with
  | [] => .error .openText
  | c :: rest =>
    if c = mark then .ok ([], rest)
    else if c = '\\' then
      match _escaped : escape? rest with
      | none => .error .badEscape
      | some (meant, more) =>
        match readText mark more with
        | .ok (content, after) => .ok (meant ++ content, after)
        | .error fault => .error fault
    else if c = '\n' ∨ c = '\r' then .error .brokenText
    else
      match readText mark rest with
      | .ok (content, after) => .ok (.ofChar c :: content, after)
      | .error fault => .error fault
termination_by text.length
decreasing_by
  · have := length_escape? _escaped
    simp only [List.length_cons]
    omega
  · simp only [List.length_cons]
    omega

private theorem length_readText {mark : Char} {text rest : List Char} {content : List CodePoint}
    (read : readText mark text = .ok (content, rest)) : rest.length < text.length := by
  fun_induction readText mark text generalizing content rest with
  | case1 => simp at read
  | case2 more =>
    obtain ⟨-, rfl⟩ := Prod.mk.inj (Except.ok.inj read)
    simp
  | case3 => simp at read
  | case4 more meant after escaped content' final inner _ hyp =>
    obtain ⟨-, rfl⟩ := Prod.mk.inj (Except.ok.inj read)
    have := length_escape? escaped
    have := hyp inner
    simp only [List.length_cons]
    omega
  | case5 => simp at read
  | case6 => simp at read
  | case7 c more _ _ _ content' final inner hyp =>
    obtain ⟨-, rfl⟩ := Prod.mk.inj (Except.ok.inj read)
    have := hyp inner
    simp only [List.length_cons]
    omega
  | case8 => simp at read

/-- **The tokens of a document.** -/
def tokens (text : List Char) : Except SyntaxFault (List Token) :=
  match text with
  | [] => .ok []
  | c :: rest =>
    if isSpace c then tokens rest
    else
      match punctuation? c with
      | some token => (token :: ·) <$> tokens rest
      | none =>
        if isQuote c then
          match _quoted : readText c rest with
          | .ok (content, after) => (.text content :: ·) <$> tokens after
          | .error fault => .error fault
        else if c = '/' then
          match rest with
          | '/' :: line => tokens (line.dropWhile (!isLineEnd ·))
          | '*' :: block =>
            match _closed : afterComment? block with
            | some after => tokens after
            | none => .error .openComment
          | _ => .error (.strayCharacter '/')
        else (.bare (c :: rest.takeWhile isBare) :: ·) <$> tokens (rest.dropWhile isBare)
termination_by text.length
decreasing_by
  · simp only [List.length_cons]
    omega
  · simp only [List.length_cons]
    omega
  · have := length_readText _quoted
    simp only [List.length_cons]
    omega
  · have := (List.dropWhile_suffix (l := line) (!isLineEnd ·)).length_le
    simp only [List.length_cons]
    omega
  · have := length_afterComment? _closed
    simp only [List.length_cons]
    omega
  · have := (List.dropWhile_suffix (l := rest) isBare).length_le
    simp only [List.length_cons]
    omega

/-- The rest of an identifier. An escape may stand for any code point. -/
def identifierRest? : List Char → Option (List CodePoint)
  | [] => some []
  | '\\' :: 'u' :: a :: b :: c :: d :: rest =>
    match unitEscape? [a, b, c, d] with
    | some (point, _) => (point :: ·) <$> identifierRest? rest
    | none => none
  | c :: rest => if continuesIdentifier c then (.ofChar c :: ·) <$> identifierRest? rest else none

/-- The key that a word without quotes spells. -/
def bareKey? : List Char → Option (List CodePoint)
  | [] => none
  | c :: rest =>
    if c = '\\' ∨ startsIdentifier c then identifierRest? (c :: rest) else none

/-- The number that an unsigned word spells, under a sign: one of the two named numbers, a
hexadecimal integer, or a numeral without needless zeros in front. A decimal integer that is too
long to be read is none of them. -/
def bareNumber? (negative : Bool) : List Char → Option Document
  | '0' :: 'x' :: digits => hexadecimal digits
  | '0' :: 'X' :: digits => hexadecimal digits
  | word =>
    if word = "Infinity".toList then some (.float (.infinite negative))
    else if word = "NaN".toList then some (.float .nan)
    else
      match Numeral.read? word with
      | none => none
      | some numeral =>
        if 1 < numeral.whole.length ∧ numeral.whole.head? = some '0' then none
        else if numeral.integral then
          if digitLimit < numeral.whole.length then none
          else some (.int (if negative then -(numeral.coefficient : Int) else numeral.coefficient))
        else some (.float (numeral.toBinary64 negative))
where
  hexadecimal (digits : List Char) : Option Document :=
    if digits = [] then none
    else
      match hexRun? digits.length 0 digits with
      | some (value, _) => some (.int (if negative then -(value : Int) else value))
      | none => none

/-- **The value that a word without quotes spells.** -/
def bareValue? (word : List Char) : Option Document :=
  if word = "null".toList then some .null
  else if word = "true".toList then some (.bool true)
  else if word = "false".toList then some (.bool false)
  else
    let (negative, unsigned) := splitSign word
    bareNumber? negative unsigned

end KeyChords.Json
