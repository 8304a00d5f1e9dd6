import KeyChords.Removals
import KeyChords.Proofs.Dict

/-! # Registered removals

Removals are registered one call after the other, and a call that is refused leaves them as they are
(`KeyChords.Removals.registered`). No row is ever empty, so the chords of the removals are those
that lose a command. Whether a call is accepted does not depend on the calls before it, so a chord
loses the commands of the accepted calls for it (`KeyChords.Removals.mem_commands_registered`).
-/

namespace KeyChords

namespace Removals

/-- The removals after calls were made one after the other, refused ones included. -/
def registered (removals : Removals) (calls : List (String × String)) : Removals :=
  calls.foldl (fun removals call => (removals.register call.1 call.2).state) removals

/-- Every chord that has a row loses a command. -/
def Filled (removals : Removals) : Prop :=
  ∀ row ∈ removals.rows, row.2 ≠ []

theorem filled_empty : Filled ∅ :=
  fun _ member => absurd member List.not_mem_nil

/-- A further command fills its row. -/
theorem Filled.add {removals : Removals} (filled : removals.Filled) (chord command : String) :
    (removals.add chord command).Filled := by
  intro row member
  rcases Dict.mem_update member with rfl | old
  · simp
  · exact filled row old

/-- Registering a removal adds a command to those of its chord, or changes nothing. -/
theorem state_register_cases (removals : Removals) (chord command : String) :
    (removals.register chord command).state = removals ∨
      (removals.register chord command).state = removals.add chord command := by
  unfold register
  repeat' split
  all_goals simp [Progress.stopped, Progress.done]

theorem Filled.register {removals : Removals} (filled : removals.Filled) (chord command : String) :
    (removals.register chord command).state.Filled := by
  rcases state_register_cases removals chord command with same | changed
  · rwa [same]
  · rw [changed]
    exact filled.add chord command

/-- Every registration leaves each row with a command. -/
theorem Filled.registered {removals : Removals} (filled : removals.Filled)
    (calls : List (String × String)) : (removals.registered calls).Filled := by
  induction calls generalizing removals with
  | nil => exact filled
  | cons call rest ih => exact ih (filled.register call.1 call.2)

private theorem commands_add (removals : Removals) (chord command asked : String) :
    (removals.add chord command).commands asked =
      removals.commands asked ++ if asked = chord then [command] else [] := by
  rw [commands, add, Dict.get?_update]
  by_cases same : asked = chord
  · rw [if_pos same, if_pos same, same]
    rfl
  · rw [if_neg same, if_neg same, List.append_nil]
    rfl

/-- The calls that register a removal or find it registered. -/
def accepted (calls : List (String × String)) : List (String × String) :=
  calls.filter fun call => (register ∅ call.1 call.2).fault.isNone

/-- Whether a call is refused, and for which fault, does not depend on the removals before it. -/
theorem fault_register_congr (removals others : Removals) (chord command : String) :
    (removals.register chord command).fault = (others.register chord command).fault := by
  unfold register
  by_cases blank : chord = ""
  · simp only [blank, ↓reduceIte, Progress.stopped]
  by_cases nameless : command = ""
  · simp only [blank, nameless, ↓reduceIte, Progress.stopped]
  by_cases marked : mark.toList <+: command.toList
  · simp only [blank, nameless, marked, ↓reduceIte, Progress.stopped]
  · simp only [blank, nameless, marked, ↓reduceIte]
    split <;> split <;> rfl

/-- **What registering a removal adds**: the command to those of its chord, if it is accepted. -/
theorem mem_commands_register {removals : Removals} {chord command asked lost : String} :
    lost ∈ (removals.register chord command).state.commands asked ↔
      lost ∈ removals.commands asked ∨
        (removals.register chord command).fault = none ∧ asked = chord ∧ lost = command := by
  unfold register
  by_cases blank : chord = ""
  · simp [blank, Progress.stopped]
  by_cases nameless : command = ""
  · simp [blank, nameless, Progress.stopped]
  by_cases marked : mark.toList <+: command.toList
  · simp [blank, nameless, marked, Progress.stopped]
  by_cases known : command ∈ removals.commands chord
  · simp only [blank, nameless, marked, known, ↓reduceIte, Progress.done, true_and]
    constructor
    · exact Or.inl
    · rintro (old | ⟨rfl, rfl⟩)
      · exact old
      · exact known
  · simp only [blank, nameless, marked, known, ↓reduceIte, Progress.done, true_and,
      commands_add, List.mem_append]
    by_cases same : asked = chord <;> simp [same]

/-- **What a chord loses** are the commands of the accepted calls for it. -/
theorem mem_commands_registered {removals : Removals} {calls : List (String × String)}
    {chord command : String} :
    command ∈ (removals.registered calls).commands chord ↔
      command ∈ removals.commands chord ∨ (chord, command) ∈ accepted calls := by
  induction calls generalizing removals with
  | nil => simp [registered, accepted]
  | cons call rest ih =>
      have first : (chord, command) ∈ accepted (call :: rest) ↔
          (removals.register call.1 call.2).fault = none ∧ chord = call.1 ∧ command = call.2 ∨
            (chord, command) ∈ accepted rest := by
        rw [fault_register_congr removals ∅, ← Option.isNone_iff_eq_none, accepted, accepted,
          List.filter_cons]
        by_cases fine : (register ∅ call.1 call.2).fault.isNone = true
        · simp only [fine, ↓reduceIte, List.mem_cons, true_and]
          rw [← Prod.mk.injEq]
        · simp [fine]
      rw [registered, List.foldl_cons, ← registered, ih, mem_commands_register, first, or_assoc]

/-- The commands under a chord are those of its accepted calls. -/
theorem mem_commands_registered_empty {calls : List (String × String)} {chord command : String} :
    command ∈ (registered ∅ calls).commands chord ↔ (chord, command) ∈ accepted calls := by
  rw [mem_commands_registered, or_iff_right]
  exact List.not_mem_nil

/-- **The chords of registered removals** are those that lose a command. -/
theorem Filled.mem_chords_iff {removals : Removals} (filled : removals.Filled) {chord : String} :
    chord ∈ removals.chords ↔ removals.commands chord ≠ [] := by
  rw [chords, commands, ← Dict.isSome_get?_iff]
  cases row : removals.rows.get? chord with
  | none => simp
  | some held =>
      have some : held ≠ [] := filled _ (Dict.mem_of_get? row)
      simp [some]

end Removals

end KeyChords
