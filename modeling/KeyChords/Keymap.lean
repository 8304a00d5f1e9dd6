import KeyChords.Chord.Leaders
import KeyChords.Expansion
import KeyChords.Record
import KeyChords.Removals

/-! # Keymaps and their linear form

A keymap is compiled into the list of records of the keybindings file. The typing expansion goes
into a copy of the table first. Then the chords are taken in order; under each chord the conditions
are taken in order, and each binding is emitted under every spelling of the chord, followed by the
chord's removals. A record that was already emitted is dropped.

Every binding, the suppressed ones included, claims its slot under every spelling of its chord. Two
claims on one slot have to be for the same record; if they are not, the keymap is ambiguous and
nothing is compiled. Nor is anything compiled when an action has no command, or one whose arguments
cannot be written.
-/

namespace KeyChords

open Debug Text

/-- **A keymap**: the authored table, the removals, and the typing expansion if there is one. -/
structure Keymap where
  table : Table := ∅
  removals : Removals := ∅
  expansion : Option Expansion := none

/-- The command in the identity that a suppressed slot claims. Nothing is emitted for the slot
itself, but a rule may run a command of this very name. -/
def suppressedCommand : String := "(suppressed)"

namespace Linear

/-- **One move of the compilation.** -/
inductive Move where
  | tell (event : Event)
  | claim (source : String) (identity : Identity)
  | emit (record : Record)
  | fail (fault : Fault)

/-- The moves of a binding under the spellings of its chord. -/
def bindingMoves (chord : String) (spellings : List String) (binding : Binding) : List Move :=
  match binding.action.output with
  | .error fault => [.fail fault]
  | .ok none =>
    spellings.map (fun spelling => .claim chord ⟨spelling, binding.when, suppressedCommand, ""⟩) ++
      [.tell (Category.linearize.event 3 (some chord)
        ("skipping suppressed key=" ++ quoted chord ++ " when=" ++ quoted binding.when))]
  | .ok (some (command, args)) =>
    spellings.flatMap fun spelling =>
      let record : Record := ⟨spelling, command, binding.when, args⟩
      [.claim chord record.identity, .emit record]

/-- The moves of a removal. -/
def removalMoves (spellings : List String) (command : String) : List Move :=
  spellings.map fun spelling => .emit ⟨spelling, Removals.retraction command, "", .null⟩

/-- The bindings of a chord in the order of their lines. -/
def sortedBindings (table : Table) (chord : String) : List Binding :=
  (table.bindings chord).mergeSort fun left right => decide (left.when ≤ right.when)

/-- The moves of a chord: its spellings are told, then come its bindings and its removals. -/
def chordMoves (leaders : Leaders) (table : Table) (removals : Removals) (chord : String) :
    List Move :=
  let spellings := leaders.spellings chord
  (leaders.spellingEvents chord).map .tell ++
    (sortedBindings table chord).flatMap (bindingMoves chord spellings) ++
    (removals.commands chord).flatMap (removalMoves spellings)

/-- The chords that are bound or lose a default, in order. -/
def sortedChords (table : Table) (removals : Removals) : List String :=
  (firsts (table.chords ++ removals.chords)).mergeSort fun left right => decide (left ≤ right)

/-- **The moves of a compilation.** -/
def moves (leaders : Leaders) (table : Table) (removals : Removals) : List Move :=
  (sortedChords table removals).flatMap (chordMoves leaders table removals)

/-- The claim on a slot: the chord that made it first, and the record it is for. -/
structure Claim where
  source : String
  identity : Identity

/-- **What is emitted and claimed so far.** -/
structure State where
  records : List Record := []
  seen : List Identity := []
  claims : List Claim := []

/-- The violation of a slot that two chords claim for different records. -/
def disputed (chord : String) (held : Claim) (identity : Identity) : Fault :=
  .violation
    ⟨.duplicate,
      .sharedSpelling chord held.source held.identity.command identity.command,
      some identity.key, some identity.when⟩

/-- The claim on the slot of an identity, if there is one. -/
def State.claimOn? (state : State) (identity : Identity) : Option Claim :=
  state.claims.find? fun claim =>
    claim.identity.key = identity.key ∧ claim.identity.when = identity.when

/-- The event of a record that was already emitted. -/
def dropped (record : Record) : Event :=
  Category.linearize.event 3 (some record.key)
    ("dropping duplicate record " ++ record.toValue.shown)

/-- Makes a move. -/
def State.step (state : State) : Move → Progress State
  | .tell event => .done state [event]
  | .claim source identity =>
    match state.claimOn? identity with
    | none => .done { state with claims := state.claims ++ [⟨source, identity⟩] } []
    | some held =>
      if held.identity = identity then .done state []
      else .stopped state (disputed source held identity)
  | .emit record =>
    if record.identity ∈ state.seen then .done state [dropped record]
    else
      .done
        { state with
          records := state.records ++ [record]
          seen := record.identity :: state.seen } []
  | .fail fault => .stopped state fault

/-- The event in front of all moves. -/
def opening (table : Table) (removals : Removals) : Event :=
  Category.linearize.event 1 none
    ("linearizing " ++ toString (sortedChords table removals).length ++ " chords (" ++
      toString table.size ++ " rules, " ++ toString removals.size ++ " removals)")

/-- The event behind all moves. -/
def closing (records : List Record) : Event :=
  Category.linearize.event 1 none ("emitted " ++ toString records.length ++ " records")

end Linear

open Linear in
/-- **The linear form of a table and its removals.** -/
def Table.linearize (table : Table) (removals : Removals) (leaders : Leaders) :
    Report (List Record) := do
  Report.say (opening table removals)
  let final ← (Progress.each State.step {} (moves leaders table removals)).toReport
  Report.say (closing final.records)
  return final.records

namespace Keymap

/-- The table that is compiled: a copy of the authored one, with the generated bindings in it. -/
def expanded (keymap : Keymap) : Report Table :=
  let working := keymap.table.copy
  match keymap.expansion with
  | none => .answer working
  | some expansion => Prod.fst <$> (expansion.apply working).toReport

/-- **The records of a keymap.** -/
def compile (keymap : Keymap) (leaders : Leaders) : Report (List Record) := do
  let table ← keymap.expanded
  table.linearize keymap.removals leaders

/-- The keymap without its typing expansion. -/
def withoutTyping (keymap : Keymap) : Keymap :=
  { keymap with expansion := none }

end Keymap

end KeyChords
