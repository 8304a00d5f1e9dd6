import KeyChords.Drift.Alignment
import KeyChords.Json.Printer
import KeyChords.Json.Reader
import KeyChords.Progress
import KeyChords.Record

/-! # Drift of a checked-in file

A keybindings file is read back into entries and compared with the compiled records. The report is
empty when both agree in content and order. When only the order differs it names each place that
does; otherwise it lists what only the file holds and what only the compiled records hold.

An entry is compared by its line. Entries with an integer that is too long to be written have no
line, and comparing them is a fault.
-/

namespace KeyChords

open Debug Json Text

namespace Drift

/-- The fields of an object in a document. -/
abbrev Members := Fields (List CodePoint)

/-- An entry that was read from a file. -/
abbrev Loaded := Entry (List CodePoint)

/-- The value that a manifest contributes as its keybindings. A manifest that contributes something
empty contributes no keybindings. -/
def contributed (manifest : Members) : Except Fault Document :=
  match Entry.fieldValue "contributes" manifest with
  | .object fields => .ok (Entry.fieldValue "keybindings" fields)
  | other => if other.isEmpty then .ok .null else .error .manifestForm

/-- The items of a list, which a document has to be. -/
def requireList : Document → Except Fault (List Document)
  | .list items => .ok items
  | _ => .error .documentForm

/-- The list of objects in a document: the document itself, or the keybindings that a manifest
contributes. -/
def recordList : Document → Except Fault (List Document)
  | .object manifest => contributed manifest >>= requireList
  | document => requireList document

/-- The entry of an object, whose texts have to be written to be kept. -/
def readEntry (fields : Members) : Except Fault Loaded := do
  ["key", "command", "when"].forM fun name =>
    (Entry.fieldValue name fields).requireWritable
  return Entry.ofFields fields

/-- The entries of a list of objects, the first of which has the given number. -/
def recordsFrom (index : Nat) : List Document → Except Fault (List Loaded)
  | [] => .ok []
  | .object fields :: rest => do
    let entry ← readEntry fields
    let others ← recordsFrom (index + 1) rest
    return entry :: others
  | other :: _ => do
    other.requireWritable
    .error (.recordForm index other.shown)

/-- The entries that a text holds. -/
def readRecords (text : String) : Except Fault (List Loaded) :=
  match Document.read text with
  | .error fault => .error (.brokenDocument fault)
  | .ok document => recordList document >>= recordsFrom 0

/-- **Loads a keybindings file.** -/
def load (text : String) : Report (List Loaded) := do
  let entries ← (Report.ofExcept (readRecords text) : Report (List Loaded))
  Report.say (Category.check.event 1 none
    ("loaded " ++ toString entries.length ++ " checked-in keybindings"))
  return entries

variable {κ τ : Type} [Letter κ]

/-- The line by which an entry is compared. -/
def line [Spelling τ κ] [LE τ] [DecidableLE τ] (entry : Entry τ) : List κ :=
  entry.toValue.sortedLetters

/-- A line as it is reported. -/
def lineText (line : List κ) : String :=
  String.ofList (Letter.written line)

/-- The report of one change: what is dropped, then what is added. -/
def changeLines (change : Change (List κ)) : List String :=
  change.dropped.map ("- " ++ lineText ·) ++ change.added.map ("+ " ++ lineText ·)

variable [DecidableEq κ]

/-- The reports of the places where two lists of lines differ, the first of which has the given
number. -/
def reordered (index : Nat) : List (List κ) → List (List κ) → List String
  | wanted :: expected, held :: actual =>
    let rest := reordered (index + 1) expected actual
    if wanted = held then rest
    else
      ("~ index " ++ toString index ++ ": expected " ++ lineText wanted ++ " got " ++
        lineText held) :: rest
  | _, _ => []

variable [LT κ] [DecidableLT κ]

/-- Lines in order, so that two rearrangements of each other are the same list. -/
def sortedLines (lines : List (List κ)) : List (List κ) :=
  lines.mergeSort fun left right => decide (left ≤ right)

/-- The drift of lines: nothing, the places that differ, or what is dropped and added. -/
def compareLines (expected actual : List (List κ)) : List String :=
  if expected = actual then []
  else if sortedLines expected = sortedLines actual then reordered 0 expected actual
  else (changes actual expected).flatMap changeLines

variable [Spelling τ κ] [LE τ] [DecidableLE τ]

/-- **The drift** of the actual entries from the expected ones. -/
def compare (expected actual : List (Entry τ)) : List String :=
  compareLines (expected.map line) (actual.map line)

/-- Refuses entries whose arguments cannot be written. -/
def requireLines (entries : List (Entry τ)) : Except Fault Unit :=
  entries.forM fun entry => entry.args.requireWritable

/-- The drift of entries that have lines. Each line of it is also an event. -/
def report (expected actual : List (Entry τ)) : Report (List String) := do
  (requireLines expected : Except Fault Unit)
  (requireLines actual : Except Fault Unit)
  let lines := compare expected actual
  ⟨lines.map (Category.check.event 2 none), .ok lines⟩

/-- A compiled record as a file would hold it. -/
def asLoaded (record : Record) : Loaded :=
  record.map Spelling.ofString

/-- **Checks a file against compiled records.** -/
def check (text : String) (compiled : List Record) : Report (List String) := do
  let entries ← load text
  report (compiled.map asLoaded) entries

end Drift

end KeyChords
