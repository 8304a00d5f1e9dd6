import KeyChords.Proofs.Linear.Ambiguity
import KeyChords.Proofs.Removals.Registration

/-! # Removals beside rules

Removals take no part in what can go wrong. The fault of a linearization is that of its checks alone
(`KeyChords.Linear.fault_each_checks`), and removals make none, so a keymap is refused with removals
exactly when it is refused without them, and for the same fault. What they add to the list is one
record for each accepted removal and each spelling of its chord, even where a rule already runs a
command that reads like the removal (`KeyChords.Keymap.compile_registered_removals`).
-/

namespace KeyChords

namespace Linear

variable (leaders : Leaders) (table : Table) (removals : Removals)

/-- **A linearization is refused with removals as it is without them.** -/
theorem linearize_error_iff {fault : Fault} :
    (table.linearize removals leaders).result = .error fault ↔
      (table.linearize ∅ leaders).result = .error fault := by
  rw [Table.linearize_result, Table.linearize_result,
    fault_each_checks rfl (moves leaders table removals),
    fault_each_checks rfl (moves leaders table ∅), checks_moves, checks_moves]
  cases (Progress.each State.step {} ((placed table).flatMap (ruleChecks leaders))).fault with
  | none => simp
  | some held => exact Iff.rfl

/-! ## What removals add -/

variable {leaders table removals}

/-- The identity that a removal has under a spelling of its chord. -/
def removalIdentity (spelling command : String) : Identity :=
  ⟨spelling, "", Removals.retraction command, ""⟩

/-- With removals a keymap calls for what it calls for without them, and for the removals. -/
theorem called_iff {record : Record} :
    Called leaders table removals record ↔
      Called leaders table ∅ record ∨ ∃ chord, ∃ command ∈ removals.commands chord,
        ∃ spelling ∈ leaders.spellings chord,
          record = ⟨spelling, Removals.retraction command, "", .null⟩ := by
  constructor
  · intro called
    cases called with
    | rule bound spelled runs => exact Or.inl (.rule bound spelled runs)
    | removal lost spelled => exact Or.inr ⟨_, _, lost, _, spelled, rfl⟩
  · intro either
    rcases either with called | ⟨chord, command, lost, spelling, spelled, rfl⟩
    · cases called with
      | rule bound spelled runs => exact .rule bound spelled runs
      | removal lost spelled => exact absurd lost List.not_mem_nil
    · exact .removal lost spelled

/-- The identities of the output are those of the records that are called for. -/
theorem mem_identities_iff {records : List Record}
    (linearized : (table.linearize removals leaders).result = .ok records) {identity : Identity} :
    identity ∈ records.map Entry.identity ↔
      ∃ record, Called leaders table removals record ∧ record.identity = identity := by
  rw [records_of_linearize linearized, mem_map_firstsBy, List.mem_map]
  simp only [mem_reference]

/-- **What removals add to a list** is their own identities, and nothing is lost. -/
theorem mem_identities_removals_iff {records others : List Record}
    (linearized : (table.linearize removals leaders).result = .ok records)
    (without : (table.linearize ∅ leaders).result = .ok others) {identity : Identity} :
    identity ∈ records.map Entry.identity ↔
      identity ∈ others.map Entry.identity ∨ ∃ chord, ∃ command ∈ removals.commands chord,
        ∃ spelling ∈ leaders.spellings chord, identity = removalIdentity spelling command := by
  rw [mem_identities_iff linearized, mem_identities_iff without]
  constructor
  · rintro ⟨record, called, rfl⟩
    rcases called_iff.mp called with old | ⟨chord, command, lost, spelling, spelled, rfl⟩
    · exact Or.inl ⟨record, old, rfl⟩
    · exact Or.inr ⟨chord, command, lost, spelling, spelled, rfl⟩
  · intro either
    rcases either with ⟨record, called, rfl⟩ | ⟨chord, command, lost, spelling, spelled, rfl⟩
    · exact ⟨record, called_iff.mpr (Or.inl called), rfl⟩
    · exact ⟨_, .removal lost spelled, rfl⟩

/-- What is linearized with removals is linearized without them. -/
theorem exists_linearized_without {records : List Record}
    (linearized : (table.linearize removals leaders).result = .ok records) :
    ∃ others, (table.linearize ∅ leaders).result = .ok others := by
  cases without : (table.linearize ∅ leaders).result with
  | ok others => exact ⟨others, rfl⟩
  | error fault =>
      have refused := (linearize_error_iff leaders table removals).mpr without
      exact absurd (linearized.symm.trans refused) (by simp)

/-- A removal is listed once under each spelling of its chord. -/
theorem count_removalIdentity {records : List Record}
    (linearized : (table.linearize removals leaders).result = .ok records)
    {chord command spelling : String} (lost : command ∈ removals.commands chord)
    (spelled : spelling ∈ leaders.spellings chord) :
    (records.map Entry.identity).count (removalIdentity spelling command) = 1 := by
  have present : removalIdentity spelling command ∈ records.map Entry.identity :=
    (mem_identities_iff linearized).mpr ⟨_, .removal lost spelled, rfl⟩
  have distinct : (records.map Entry.identity).Nodup := by
    rw [records_of_linearize linearized]
    exact nodup_map_firstsBy _ _
  exact List.count_eq_one_of_mem distinct present

end Linear

namespace Keymap

open Linear

/-- **Removals never interfere with rules.** Let removals be registered by any calls, accepted or
refused. A keymap is refused with them for a fault exactly when it is refused for that fault without
them. When it compiles, its identities are those without them and, for each accepted call and each
spelling of its chord, that of the removal, which is listed exactly once. -/
theorem compile_registered_removals (table : Table) (calls : List (String × String))
    (expansion : Option Expansion) (leaders : Leaders) :
    (∀ fault,
        (compile ⟨table, Removals.registered ∅ calls, expansion⟩ leaders).result = .error fault ↔
          (compile ⟨table, ∅, expansion⟩ leaders).result = .error fault) ∧
      ∀ records,
        (compile ⟨table, Removals.registered ∅ calls, expansion⟩ leaders).result = .ok records →
        ∃ others, (compile ⟨table, ∅, expansion⟩ leaders).result = .ok others ∧
          (∀ identity, identity ∈ records.map Entry.identity ↔
            identity ∈ others.map Entry.identity ∨ ∃ call ∈ Removals.accepted calls,
              ∃ spelling ∈ leaders.spellings call.1,
                identity = removalIdentity spelling call.2) ∧
          ∀ call ∈ Removals.accepted calls, ∀ spelling ∈ leaders.spellings call.1,
            (records.map Entry.identity).count (removalIdentity spelling call.2) = 1 := by
  have same : (⟨table, Removals.registered ∅ calls, expansion⟩ : Keymap).expanded =
      (⟨table, ∅, expansion⟩ : Keymap).expanded := rfl
  rw [result_compile, result_compile, same]
  cases expanded : (⟨table, ∅, expansion⟩ : Keymap).expanded.result with
  | error refused =>
      refine ⟨fun fault => Iff.rfl, fun records compiled => ?_⟩
      exact absurd compiled (by simp [Bind.bind, Except.bind])
  | ok working =>
      simp only [Bind.bind, Except.bind]
      refine ⟨fun fault => linearize_error_iff leaders working _, fun records linearized => ?_⟩
      obtain ⟨others, without⟩ := exists_linearized_without linearized
      refine ⟨others, without, fun identity => ?_, fun call member spelling spelled => ?_⟩
      · rw [mem_identities_removals_iff linearized without]
        simp only [Removals.mem_commands_registered_empty, Prod.exists]
      · have lost := Removals.mem_commands_registered_empty.mpr member
        exact count_removalIdentity linearized lost spelled

end Keymap

end KeyChords
