import KeyChords.Chord
import KeyChords.Table

/-! # Typing expansions

While a context is active, every key of a keyboard and its shifted form is bound to the command that
types the character. The bindings are generated from two aligned lists of characters and go into a
table like any others; where one finds its slot taken, the table and the expansion collide.
-/

namespace KeyChords

open Debug Json Text

/-- **A typing expansion**: two aligned lists of characters and the condition that all the bindings
share. -/
structure Expansion where
  condition : Draft
  command : String
  plain : String
  shifted : String
  modifier : String

namespace Expansion

/-- The command that types a character. -/
def typeCommand : String := "type"

/-- The context in which characters are typed. -/
def typeContext : String := "keynav.typing"

/-- The keys of a standard keyboard, row by row. -/
def keyboardCharacters : String := "`1234567890-=qwertyuiop[]\\asdfghjkl;'zxcvbnm,./"

/-- The shifted forms of the keys, in the same places. -/
def shiftedCharacters : String := "~!@#$%^&*()_+QWERTYUIOP\x7b\x7d|ASDFGHJKL:\"ZXCVBNM<>?"

/-- The modifier of shifted keys. -/
def shiftModifier : String := "shift"

example : keyboardCharacters.length = shiftedCharacters.length := by decide

/-- The expansion of a standard keyboard. -/
def keyboard (context : String := typeContext) (command : String := typeCommand) : Expansion where
  condition := .ofCondition (.atom context)
  command
  plain := keyboardCharacters
  shifted := shiftedCharacters
  modifier := shiftModifier

/-- The first character that stands among those already seen. -/
def firstRepeated? (seen : List Char) : List Char → Option Char
  | [] => none
  | c :: rest => if c ∈ seen then some c else firstRepeated? (c :: seen) rest

/-- Fails with a violation that names the expansion's condition. -/
def violation (expansion : Expansion) (kind : Violation.Kind) (detail : Violation.Detail)
    (chord : Option String) : Except Fault Unit :=
  match expansion.condition.conditionText with
  | .ok line => .error (.violation ⟨kind, detail, chord, some line⟩)
  | .error fault => .error fault

/-- Checks that the characters are aligned and that none repeats. -/
def validate (expansion : Expansion) : Except Fault Unit :=
  let plain := expansion.plain.toList
  let shifted := expansion.shifted.toList
  if plain.length ≠ shifted.length then
    expansion.violation .expansionSet (.unequalSets plain.length shifted.length) none
  else
    match firstRepeated? [] plain with
    | some c =>
      expansion.violation .expansionCollision .repeatedCharacter (some (String.singleton c))
    | none => .ok ()

/-- The action that types a character. -/
def typing (expansion : Expansion) (c : Char) : Action :=
  .run (.invoke expansion.command (.object [("text", .str (String.singleton c))]))

/-- The chords and actions of one key, unshifted and shifted. -/
def keyRules (expansion : Expansion) (plain shifted : Char) : List (String × Action) :=
  let key := String.singleton plain
  [(key, expansion.typing plain),
    (Chord.modified expansion.modifier key, expansion.typing shifted)]

/-- **The generated chords with their actions**, key by key. -/
def rules (expansion : Expansion) : Except Fault (List (String × Action)) := do
  expansion.validate
  let keys := expansion.plain.toList.zip expansion.shifted.toList
  if expansion.command = "" ∧ keys ≠ [] then throw .emptyCommand
  return keys.flatMap fun (plain, shifted) => expansion.keyRules plain shifted

/-- The event of an expansion that went through. -/
def generated (expansion : Expansion) (count : Nat) (line : String) : Event :=
  Category.expand.event 1 none
    ("generated " ++ toString count ++ " " ++ quoted expansion.command ++ " bindings when=" ++
      quoted line)

/-- Binds one more of the generated bindings, and counts it. -/
def bindNext (expansion : Expansion) (filled : Table × Nat) (rule : String × Action) :
    Progress (Table × Nat) :=
  let (table, count) := filled
  let (chord, action) := rule
  let bound := table.register chord expansion.condition (.action action) .expansionCollision
  (bound.map (·, count)).andThen fun (table, count) => .done (table, count + 1) []

/-- Tells how many bindings were generated, under the line of the condition. -/
def finish (expansion : Expansion) (filled : Table × Nat) : Progress (Table × Nat) :=
  match expansion.condition.conditionText with
  | .error fault => .stopped filled fault
  | .ok line => .done filled [expansion.generated filled.2 line]

/-- **Puts the generated bindings into a table**, up to the first one whose slot is taken, and
counts them. -/
def apply (expansion : Expansion) (table : Table) : Progress (Table × Nat) :=
  match expansion.rules with
  | .error fault => .stopped (table, 0) fault
  | .ok rules => (Progress.each expansion.bindNext (table, 0) rules).andThen expansion.finish

end Expansion

end KeyChords
