import KeyChords.Proofs.Linear.Ambiguity

/-! # Suppressed slots

A suppressed rule is never emitted and still takes its slot under every spelling of its chord. What
keeps other records off that slot is a claim for the command `(suppressed)` without arguments. So a
rule that runs any other command cannot be compiled into a suppressed slot, and one that runs just
this command can (`KeyChords.Keymap.compile_suppressed_slot_iff`).
-/

namespace KeyChords

namespace Linear

/-- A record that removes a default: it belongs to a removal of a chord that is so spelled. -/
def Removes (leaders : Leaders) (removals : Removals) (record : Record) : Prop :=
  record.when = "" ∧ argsText record.args = "" ∧
    ∃ chord, record.key ∈ leaders.spellings chord ∧
      ∃ command ∈ removals.commands chord, record.command = Removals.retraction command

/-- An action that runs the command by which suppressed slots are known, without arguments. -/
def PassesForSuppressed (action : Action) : Prop :=
  ∃ args, action.output = .ok (some (suppressedCommand, args)) ∧ argsText args = ""

variable {leaders : Leaders} {table : Table} {removals : Removals}

/-- A record that is called for removes a default or has the identity that some rule claims. -/
theorem Called.removes_or_claims {record : Record}
    (called : Called leaders table removals record) :
    Removes leaders removals record ∨ ∃ chord, ∃ rule ∈ table.bindings chord,
      record.key ∈ leaders.spellings chord ∧ record.when = rule.when ∧
        rule.action.output = .ok (some (record.command, record.args)) := by
  cases called with
  | @rule chord spelling command rule args bound spelled runs =>
      exact Or.inr ⟨chord, rule, bound, spelled, rfl, runs⟩
  | @removal chord spelling command lost spelled =>
      exact Or.inl ⟨rfl, rfl, chord, spelled, command, lost, rfl⟩

private theorem retraction_ne_suppressedCommand (command : String) :
    Removals.retraction command ≠ suppressedCommand := by
  intro same
  have first := congrArg (fun text : String => text.toList.head?) same
  simp [Removals.retraction, Removals.mark, suppressedCommand] at first

private theorem not_removes_of_suppressedCommand {record : Record}
    (silent : record.command = suppressedCommand) : ¬ Removes leaders removals record := by
  rintro ⟨-, -, -, -, command, -, marked⟩
  exact retraction_ne_suppressedCommand command (marked.symm.trans silent)

end Linear

namespace Keymap

open Linear

variable {keymap : Keymap} {leaders : Leaders} {table : Table}

/-- Two claims on one slot for different records keep a keymap from compiling. -/
theorem compile_of_rivals (expanded : keymap.expanded.result = .ok table) {first second : Identity}
    (firstClaims : Claims leaders table.Binds first)
    (secondClaims : Claims leaders table.Binds second) (rivals : Rivals first second) :
    ∃ fault, (keymap.compile leaders).result = .error fault ∧
      ((∃ broken, fault = .violation broken ∧ broken.kind = .duplicate) ∨
        ∃ chord rule, table.Binds chord rule ∧ rule.action.output = .error fault) := by
  rw [compile_of_expanded expanded]
  obtain ⟨key, line, differ⟩ := rivals
  cases failed : (table.linearize keymap.removals leaders).result with
  | error fault => exact ⟨fault, rfl, linearize_error_cases failed⟩
  | ok records =>
      have peaceful := (exists_linearize_iff.mp ⟨records, failed⟩).2 first.key first.when
      exact absurd ⟨first, second, firstClaims, secondClaims, rfl, rfl, key.symm, line.symm,
        differ⟩ peaceful

/-- A rule that runs anything but the command of suppressed slots keeps a keymap from compiling on
such a slot. -/
theorem compile_of_loud_rule (expanded : keymap.expanded.result = .ok table)
    {source key line : String} {other : Binding}
    (held : Claims leaders table.Binds ⟨key, line, suppressedCommand, ""⟩)
    (bound : other ∈ table.bindings source) (spelled : key ∈ leaders.spellings source)
    (sameLine : other.when = line) (loud : other.action ≠ .suppress)
    (honest : ¬ PassesForSuppressed other.action) :
    ∃ fault, (keymap.compile leaders).result = .error fault ∧
      ((∃ broken, fault = .violation broken ∧ broken.kind = .duplicate) ∨
        ∃ chord rule, table.Binds chord rule ∧ rule.action.output = .error fault) := by
  cases outcome : other.action.output with
  | error inner =>
      rw [compile_of_expanded expanded]
      cases failed : (table.linearize keymap.removals leaders).result with
      | error fault => exact ⟨fault, rfl, linearize_error_cases failed⟩
      | ok records =>
          obtain ⟨output, puts⟩ := (exists_linearize_iff.mp ⟨records, failed⟩).1 source other bound
          cases outcome.symm.trans puts
  | ok output =>
      cases output with
      | none => exact absurd (Action.output_eq_none_iff.mp outcome) loud
      | some command =>
          refine compile_of_rivals expanded held (.rendered bound spelled outcome)
            ⟨rfl, sameLine.symm, ?_⟩
          intro same
          rw [Identity.mk.injEq] at same
          obtain ⟨-, -, named, empty⟩ := same
          exact honest ⟨command.2, named ▸ outcome, empty.symm⟩

/-- What is compiled into a suppressed slot is a removal or comes from a rule that runs the command
of suppressed slots. -/
theorem exists_passing_rule (expanded : keymap.expanded.result = .ok table)
    {records : List Record} (compiled : (keymap.compile leaders).result = .ok records)
    {record : Record} (member : record ∈ records)
    (held : Claims leaders table.Binds ⟨record.key, record.when, suppressedCommand, ""⟩)
    (authored : ¬ Removes leaders keymap.removals record) :
    ∃ source, ∃ other ∈ table.bindings source, record.key ∈ leaders.spellings source ∧
      other.when = record.when ∧ PassesForSuppressed other.action := by
  rcases (called_of_mem expanded compiled member).removes_or_claims with
    removes | ⟨source, other, bound, spelled, line, runs⟩
  · exact absurd removes authored
  · refine ⟨source, other, bound, spelled, line.symm, ?_⟩
    by_contra honest
    have loud : other.action ≠ .suppress := by
      intro silent
      rw [Action.output_eq_none_iff.mpr silent] at runs
      cases runs
    obtain ⟨fault, failed, -⟩ :=
      compile_of_loud_rule expanded held bound spelled line.symm loud honest
    cases compiled.symm.trans failed

/-- A rule that runs the command of suppressed slots is compiled as a rule. -/
theorem exists_record_of_passing_rule (expanded : keymap.expanded.result = .ok table)
    {records : List Record} (compiled : (keymap.compile leaders).result = .ok records)
    {source key : String} {other : Binding} (bound : other ∈ table.bindings source)
    (spelled : key ∈ leaders.spellings source) (passes : PassesForSuppressed other.action) :
    ∃ record ∈ records, record.key = key ∧ record.when = other.when ∧
      ¬ Removes leaders keymap.removals record := by
  obtain ⟨args, runs, -⟩ := passes
  obtain ⟨record, member, sameKey, sameLine, silent, -⟩ :=
    exists_mem_of_called expanded compiled (.rule bound spelled runs)
  exact ⟨record, member, sameKey, sameLine, not_removes_of_suppressedCommand silent⟩

/-- **What can stand in a suppressed slot.** Let a rule be suppressed. In a keymap that compiles, a
slot of the rule holds a record other than a removal if and only if some rule with that slot runs
the command `(suppressed)` without arguments. And a rule of the slot that runs anything else keeps
the keymap from compiling: it is refused as ambiguous, unless some rule has no output. -/
theorem compile_suppressed_slot_iff (expanded : keymap.expanded.result = .ok table)
    {chord key : String} {rule : Binding} (bound : rule ∈ table.bindings chord)
    (silent : rule.action = .suppress) (spelled : key ∈ leaders.spellings chord) :
    (∀ records, (keymap.compile leaders).result = .ok records →
      ((∃ record ∈ records, record.key = key ∧ record.when = rule.when ∧
          ¬ Removes leaders keymap.removals record) ↔
        ∃ source, ∃ other ∈ table.bindings source, key ∈ leaders.spellings source ∧
          other.when = rule.when ∧ PassesForSuppressed other.action)) ∧
      ∀ source, ∀ other ∈ table.bindings source, key ∈ leaders.spellings source →
        other.when = rule.when → other.action ≠ .suppress → ¬ PassesForSuppressed other.action →
        ∃ fault, (keymap.compile leaders).result = .error fault ∧
          ((∃ broken, fault = .violation broken ∧ broken.kind = .duplicate) ∨
            ∃ chord rule, table.Binds chord rule ∧ rule.action.output = .error fault) := by
  have held : Claims leaders table.Binds ⟨key, rule.when, suppressedCommand, ""⟩ :=
    .suppressed bound spelled silent
  refine ⟨?_, ?_⟩
  · intro records compiled
    constructor
    · rintro ⟨record, member, sameKey, sameLine, authored⟩
      rw [← sameKey, ← sameLine] at held ⊢
      exact exists_passing_rule expanded compiled member held authored
    · rintro ⟨source, other, otherBound, otherSpelled, sameLine, passes⟩
      rw [← sameLine]
      exact exists_record_of_passing_rule expanded compiled otherBound otherSpelled passes
  · intro source other otherBound otherSpelled sameLine loud honest
    exact compile_of_loud_rule expanded held otherBound otherSpelled sameLine loud honest

/-- A keymap that suppresses a chord and runs the command of suppressed slots under the chord's
other spelling. -/
def impostor : Keymap where
  table := Table.added ∅
    [("ctrl+x s", ⟨.always, .suppress⟩),
      ("ctrl+x ctrl+s", ⟨.always, .run (.invoke suppressedCommand .null)⟩)]

private theorem suppressed_mem_impostor :
    (⟨"", .suppress⟩ : Binding) ∈ impostor.table.bindings "ctrl+x s" :=
  List.mem_cons_self

theorem held_mem_spellings : "ctrl+x ctrl+s" ∈ controlLeader.spellings "ctrl+x s" := by
  decide +kernel

/-- The impostor is compiled into the suppressed slot. -/
theorem compile_impostor :
    (⟨"", .suppress⟩ : Binding) ∈ impostor.table.bindings "ctrl+x s" ∧
      "ctrl+x ctrl+s" ∈ controlLeader.spellings "ctrl+x s" ∧
      ∃ records, (impostor.compile controlLeader).result = .ok records ∧
        ∃ record ∈ records, record.key = "ctrl+x ctrl+s" ∧ record.when = "" ∧
          ¬ Removes controlLeader impostor.removals record := by
  have compiled : ∃ records, (impostor.compile controlLeader).result = .ok records ∧
      records.map Entry.identity = [⟨"ctrl+x ctrl+s", "", suppressedCommand, ""⟩] := by
    apply exists_records_of_identities
    simp only [result_compile, Table.linearize_result, moves_eq_flatMap, lines,
      ascending_eq_insertionSort]
    decide +kernel
  obtain ⟨records, returned, named⟩ := compiled
  refine ⟨suppressed_mem_impostor, held_mem_spellings, records, returned, ?_⟩
  have present : (⟨"ctrl+x ctrl+s", "", suppressedCommand, ""⟩ : Identity) ∈
      records.map Entry.identity := by
    rw [named]
    exact List.mem_cons_self
  obtain ⟨record, member, key, line, silent, -⟩ := exists_mem_of_identity present
  exact ⟨record, member, key, line, not_removes_of_suppressedCommand silent⟩

theorem compile_impostor_slot :
    impostor.expanded.result = .ok impostor.table ∧
      (⟨"", .suppress⟩ : Binding) ∈ impostor.table.bindings "ctrl+x s" ∧
      "ctrl+x ctrl+s" ∈ controlLeader.spellings "ctrl+x s" ∧
      ∀ records, (impostor.compile controlLeader).result = .ok records →
        ∃ record ∈ records, record.key = "ctrl+x ctrl+s" ∧ record.when = "" ∧
          ¬ Removes controlLeader impostor.removals record := by
  have expanded : impostor.expanded.result = .ok impostor.table := rfl
  have slot :=
    compile_suppressed_slot_iff expanded suppressed_mem_impostor rfl held_mem_spellings
  refine ⟨expanded, suppressed_mem_impostor, held_mem_spellings, fun records compiled => ?_⟩
  refine (slot.1 records compiled).mpr ⟨"ctrl+x ctrl+s", _, List.mem_cons_self, ?_, rfl, .null,
    rfl, rfl⟩
  decide +kernel

end Keymap

end KeyChords
