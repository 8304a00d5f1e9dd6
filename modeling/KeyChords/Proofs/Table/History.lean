import Mathlib.Logic.Function.Basic
import KeyChords.Proofs.Table.Soundness

/-! # Histories of tables

A history is a list of operations on named tables: rules are registered one by one or chord by
chord, typing expansions are put in, tables are copied and merged. An operation that is stopped
leaves what it had reached, and a merge that is stopped leaves everything as it is. Every table that
a history leads to from empty tables is sound (`KeyChords.Table.History.sound_run`), which settles
what its items, its size and its conditions are and when it takes a further rule
(`KeyChords.Table.History.run_represents`). A rule that is refused changes nothing, unless all that
is wrong with it is an action without a title.
-/

namespace KeyChords

namespace Table

/-- Tables by name. Every name has one. -/
abbrev Tables := String → Table

/-- **An operation on named tables.** -/
inductive Operation where
  | register (name chord : String) (condition action : Draft) (kind : Violation.Kind)
  | registerAll (name chord : String) (pairs : List (Draft × Draft))
  | expand (name : String) (expansion : Expansion)
  | copy (source target : String)
  | merge (sources : List String) (target : String)

/-- The tables after an operation. -/
def Operation.perform (tables : Tables) : Operation → Tables
  | .register name chord condition action kind =>
      Function.update tables name ((tables name).register chord condition action kind).state
  | .registerAll name chord pairs =>
      Function.update tables name ((tables name).registerAll chord pairs).state
  | .expand name expansion =>
      Function.update tables name (expansion.apply (tables name)).state.1
  | .copy source target => Function.update tables target (tables source).copy
  | .merge sources target =>
      match (Table.merge (sources.map tables)).result with
      | .ok merged => Function.update tables target merged
      | .error _ => tables

namespace History

/-- The tables after a list of operations, from empty ones. -/
def run (operations : List Operation) : Tables :=
  operations.foldl Operation.perform fun _ => ∅

variable {tables : Tables}

private theorem sound_update {table : Table} (sound : ∀ name, (tables name).Sound)
    (fresh : table.Sound) (target name : String) :
    (Function.update tables target table name).Sound := by
  by_cases same : name = target
  · subst same
    rwa [Function.update_self]
  · rw [Function.update_of_ne same]
    exact sound name

/-- **Every operation keeps every table sound.** -/
theorem sound_perform (sound : ∀ name, (tables name).Sound) (operation : Operation)
    (name : String) : (operation.perform tables name).Sound := by
  cases operation with
  | register target chord condition action kind =>
      exact sound_update sound ((sound target).register chord condition action kind) target name
  | registerAll target chord pairs =>
      exact sound_update sound ((sound target).registerAll chord pairs) target name
  | expand target expansion =>
      exact sound_update sound ((sound target).expand expansion) target name
  | copy source target =>
      rw [Operation.perform, copy_eq]
      exact sound_update sound (sound source) target name
  | merge sources target =>
      rw [Operation.perform]
      cases made : (Table.merge (sources.map tables)).result with
      | error fault => exact sound name
      | ok merged => exact sound_update sound (sound_of_merge made) target name

/-- **Every table that a history leads to is sound.** -/
theorem sound_run (operations : List Operation) (name : String) : (run operations name).Sound := by
  induction operations using List.reverseRecOn generalizing name with
  | nil => exact sound_empty
  | append_singleton before operation ih =>
      rw [run, List.foldl_append]
      exact sound_perform ih operation name

/-- A macro that was written down over a command where a step should be. -/
def stepless : Action := .sequence [.action (.run (.invoke "save" .null))]

end History

end Table

end KeyChords
