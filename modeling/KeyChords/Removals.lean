import KeyChords.Dict
import KeyChords.Progress

/-! # Removals

A removal takes a default binding of the editor away: under its chord the command is bound once
more, with a mark in front and without a condition. Removals stand beside the binding table, so a
chord may lose a default and gain a rule at once.
-/

namespace KeyChords

open Debug Text

/-- **The removals of a keymap**: for each chord the commands it loses, both in the order of their
registration. -/
structure Removals where
  rows : Dict String (List String) := []

namespace Removals

instance : EmptyCollection Removals := ⟨⟨[]⟩⟩

instance : Inhabited Removals := ⟨∅⟩

/-- The mark in front of a command that is taken away. -/
def mark : String := "-"

/-- The command that takes another one away. -/
def retraction (command : String) : String :=
  mark ++ command

/-- The commands that a chord loses, in order. -/
def commands (removals : Removals) (chord : String) : List String :=
  (removals.rows.get? chord).getD []

/-- The chords that lose a command, in order. -/
def chords (removals : Removals) : List String :=
  removals.rows.keys

/-- Every chord with each of the commands it loses, in order. -/
def items (removals : Removals) : List (String × String) :=
  removals.rows.flatMap fun (chord, commands) => commands.map (chord, ·)

/-- The number of removals. -/
def size (removals : Removals) : Nat :=
  removals.rows.foldr (fun row others => row.2.length + others) 0

/-- Puts a command behind the others of its chord, and a new chord behind the other chords. -/
def add (removals : Removals) (chord command : String) : Removals :=
  ⟨removals.rows.update chord fun row => row.getD [] ++ [command]⟩

/-- **Registers a removal.** Registering it a second time changes nothing. -/
def register (removals : Removals) (chord command : String) : Progress Removals :=
  if chord = "" then .stopped removals .emptyRemovalChord
  else if command = "" then .stopped removals (.emptyRemoval chord)
  else if mark.toList <+: command.toList then .stopped removals (.markedRemoval chord command)
  else if command ∈ removals.commands chord then .done removals []
  else
    .done (removals.add chord command)
      [Category.removal.event 2 (some chord)
        ("key=" ++ quoted chord ++ " retracts " ++ quoted command)]

end Removals

end KeyChords
