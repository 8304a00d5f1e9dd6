import KeyChords.Proofs.Chord.Spelling
import KeyChords.Proofs.Linear.Reference

/-! # Complete spellings

What is compiled for one spelling of a chord is compiled for all of them. A record has the key it
was emitted under, which may be a chord of the keymap or its second spelling; in the latter case
there is no further spelling, and in the former the record was emitted under the second one as well
(`KeyChords.Keymap.compile_complete`).
-/

namespace KeyChords

namespace Linear

variable {leaders : Leaders} {table : Table} {removals : Removals}

/-- A record that is called for is called for under each spelling of its key. -/
theorem Called.respelled {record : Record} (called : Called leaders table removals record)
    {spelling : String} (spelled : spelling ∈ leaders.spellings record.key) :
    Called leaders table removals { record with key := spelling } := by
  cases called with
  | rule bound original runs =>
      exact .rule bound (Leaders.mem_spellings_of_mem_spellings original spelled) runs
  | removal lost original =>
      exact .removal lost (Leaders.mem_spellings_of_mem_spellings original spelled)

end Linear

/-- **A keymap compiles to all spellings.** With each record there is, for every spelling of its
key, a record that differs from it in the key only. -/
theorem Keymap.compile_complete {keymap : Keymap} {leaders : Leaders} {records : List Record}
    (compiled : (keymap.compile leaders).result = .ok records) {record : Record}
    (member : record ∈ records) {spelling : String}
    (spelled : spelling ∈ leaders.spellings record.key) :
    ∃ twin ∈ records, twin.key = spelling ∧ twin.when = record.when ∧
      twin.command = record.command ∧ argsText twin.args = argsText record.args := by
  obtain ⟨table, expanded, -⟩ := expanded_of_compile compiled
  have called := (called_of_mem expanded compiled member).respelled spelled
  exact exists_mem_of_called expanded compiled called

namespace Keymap

/-- A keymap whose one chord has two blanks between its presses and a plus as its second press. -/
def spacious : Keymap where
  table := Table.added ∅ [("ctrl+x  +", ⟨.always, .run (.invoke "zoomIn" .null)⟩)]
  removals := ⟨[("ctrl+x  +", ["open"])]⟩

theorem compile_spacious :
    ∃ records, (spacious.compile controlLeader).result = .ok records ∧
      records.map Entry.identity =
        [⟨"ctrl+x  +", "", "zoomIn", ""⟩, ⟨"ctrl+x ctrl++", "", "zoomIn", ""⟩,
          ⟨"ctrl+x  +", "", "-open", ""⟩, ⟨"ctrl+x ctrl++", "", "-open", ""⟩] := by
  apply exists_records_of_identities
  simp only [result_compile, Table.linearize_result, Linear.moves_eq_flatMap, Linear.lines,
    ascending_eq_insertionSort]
  decide +kernel

theorem compile_spacious_complete :
    ∃ records, (spacious.compile controlLeader).result = .ok records ∧
      ∃ record ∈ records, record.key = "ctrl+x  +" ∧
        "ctrl+x ctrl++" ∈ controlLeader.spellings record.key ∧
        ∃ twin ∈ records, twin.key = "ctrl+x ctrl++" ∧ twin.when = record.when ∧
          twin.command = record.command ∧ argsText twin.args = argsText record.args := by
  obtain ⟨records, compiled, named⟩ := compile_spacious
  have present : (⟨"ctrl+x  +", "", "zoomIn", ""⟩ : Identity) ∈ records.map Entry.identity := by
    rw [named]
    exact List.mem_cons_self
  obtain ⟨record, member, key, -⟩ := exists_mem_of_identity present
  have spelled : "ctrl+x ctrl++" ∈ controlLeader.spellings record.key := by
    rw [key]
    decide +kernel
  exact ⟨records, compiled, record, member, key, spelled,
    compile_complete compiled member spelled⟩

end Keymap

end KeyChords
