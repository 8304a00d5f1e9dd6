import KeyChords.Json.Display

/-! # Keybinding records

A record is one entry of the keybindings file. Its empty fields are left out when it is written, and
two records are the same when key, condition, command and the text of their arguments are, the order
of the arguments' fields aside. The entries of a file that is read hold the text of a document;
those that are compiled hold strings.
-/

namespace KeyChords

open Json Text

/-- **An entry of a keybindings file** over a kind of text. Arguments that are `null` count as
none. -/
structure Entry (τ : Type) where
  key : τ
  command : τ
  when : τ
  args : Datum τ := .null

/-- **A keybinding record.** -/
abbrev Record := Entry String

instance : Inhabited Record := ⟨⟨"", "", "", .null⟩⟩

/-- **What makes two records the same.** -/
structure Identity where
  key : String
  when : String
  command : String
  args : String
  deriving DecidableEq, Repr

/-- The text that identifies arguments. Empty arguments count as none. -/
def argsText (args : Value) : String :=
  if args.isEmpty then "" else args.sortedText

namespace Entry

/-- What tells a record apart from others. -/
def identity (record : Record) : Identity :=
  ⟨record.key, record.when, record.command, argsText record.args⟩

variable {κ τ : Type}

/-- The entry with each of its texts changed. -/
def map {σ : Type} (change : τ → σ) (entry : Entry τ) : Entry σ :=
  ⟨change entry.key, change entry.command, change entry.when, entry.args.map change⟩

variable [Spelling τ κ]

/-- A field of an entry, left out when its value is empty. -/
def field (name : String) (value : Datum τ) : Fields τ :=
  if value.isEmpty then [] else [(Spelling.ofString name, value)]

/-- The fields of an entry, without the empty ones. -/
def fields (entry : Entry τ) : Fields τ :=
  field "key" (.str entry.key) ++ field "command" (.str entry.command) ++
    field "when" (.str entry.when) ++ field "args" entry.args

/-- An entry as it stands in a file. -/
def toValue (entry : Entry τ) : Datum τ :=
  .object entry.fields

variable [DecidableEq τ]

/-- The value in a field of an object, `null` when there is no such field. -/
def fieldValue (name : String) (fields : Fields τ) : Datum τ :=
  (fields.get? (Spelling.ofString name)).getD .null

variable [Letter κ]

/-- The text in a field of an object. An absent or empty value counts as no text. -/
def textField (name : String) (fields : Fields τ) : τ :=
  let value := fieldValue name fields
  if value.isEmpty then Spelling.ofString "" else value.plainText

/-- **The entry that an object of the file stands for.** Fields that no entry has are ignored. -/
def ofFields (fields : Fields τ) : Entry τ where
  key := textField "key" fields
  command := textField "command" fields
  when := textField "when" fields
  args := (fieldValue "args" fields).orNull

end Entry

/-- The list that a keybindings file holds. -/
def fileValue (records : List Record) : Value :=
  .list (records.map Entry.toValue)

/-- **The text of a keybindings file.** Records with an integer that is too long to be written have
none. -/
def fileText (records : List Record) : Except Fault String := do
  (fileValue records).requireWritable
  return (fileValue records).indentedText ++ "\n"

end KeyChords
