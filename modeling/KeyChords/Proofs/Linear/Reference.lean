import KeyChords.Proofs.Dict
import KeyChords.Proofs.Linear.Run
import KeyChords.Proofs.Order.Ascending
import KeyChords.Proofs.Table.Registration

/-! # The records a keymap calls for

The records of a keymap can be listed without claims and without a list of the records that were
already seen: chord after chord, under each chord line after line, and each rule and each removal
under every spelling of its chord (`KeyChords.Linear.reference`). What a keymap compiles to is this
list without the records that repeat an earlier one
(`KeyChords.Keymap.compile_eq_firstsBy_reference`).
-/

namespace KeyChords

/-- Among records with an identity among theirs there is a record with its fields. -/
theorem exists_mem_of_identity {records : List Record} {identity : Identity}
    (present : identity ∈ records.map Entry.identity) :
    ∃ record ∈ records, record.key = identity.key ∧ record.when = identity.when ∧
      record.command = identity.command ∧ argsText record.args = identity.args := by
  obtain ⟨record, member, rfl⟩ := List.mem_map.mp present
  exact ⟨record, member, rfl, rfl, rfl, rfl⟩

namespace Linear

/-- The records of a rule under the spellings of its chord. A suppressed rule has none. -/
def ruleRecords (spellings : List String) (rule : Binding) : List Record :=
  match rule.action.output with
  | .ok (some (command, args)) =>
    spellings.map fun spelling => ⟨spelling, command, rule.when, args⟩
  | _ => []

/-- The records of a removal under the spellings of its chord. -/
def removalRecords (spellings : List String) (command : String) : List Record :=
  spellings.map fun spelling => ⟨spelling, Removals.retraction command, "", .null⟩

variable (leaders : Leaders) (table : Table) (removals : Removals)

/-- The lines of the conditions under which a chord is bound, in order. -/
def lines (chord : String) : List String :=
  ascending ((table.bindings chord).map Binding.when)

/-- The rules of a chord under a line. -/
def rulesUnder (chord line : String) : List Binding :=
  (table.bindings chord).filter fun rule => rule.when = line

/-- The records of a chord: those of its rules, line after line, and then those of its removals. -/
def chordRecords (chord : String) : List Record :=
  let spellings := leaders.spellings chord
  ((lines table chord).flatMap fun line =>
      (rulesUnder table chord line).flatMap (ruleRecords spellings)) ++
    (removals.commands chord).flatMap (removalRecords spellings)

/-- **The records that a keymap calls for**, repeated ones included. -/
def reference : List Record :=
  (ascending (table.chords ++ removals.chords)).flatMap (chordRecords leaders table removals)

/-- The chords are visited in ascending order, each once. -/
theorem sortedChords_eq_ascending :
    sortedChords table removals = ascending (table.chords ++ removals.chords) := by
  rw [← ascending_congr fun _ => mem_firsts]
  exact mergeSort_of_nodup (nodup_firsts _)

private theorem sortedBindings_eq_flatMap (chord : String) :
    sortedBindings table chord = (lines table chord).flatMap (rulesUnder table chord) :=
  mergeSort_key Binding.when (table.bindings chord)

private theorem emitted_bindingMoves (chord : String) (spellings : List String) (rule : Binding) :
    emitted (bindingMoves chord spellings rule) = ruleRecords spellings rule := by
  cases outcome : rule.action.output with
  | error fault => simp [bindingMoves, ruleRecords, outcome, emitted, Move.emission?]
  | ok output =>
    cases output with
    | none => simp [bindingMoves, ruleRecords, outcome, emitted, Move.emission?]
    | some command =>
      simp only [bindingMoves, ruleRecords, outcome, emitted, List.filterMap_flatMap]
      induction spellings with
      | nil => rfl
      | cons spelling rest ih =>
          rw [List.flatMap_cons, ih]
          rfl

private theorem emitted_removalMoves (spellings : List String) (command : String) :
    emitted (removalMoves spellings command) = removalRecords spellings command := by
  simp [emitted, removalMoves, removalRecords, List.filterMap_map, Function.comp_def,
    Move.emission?]

/-- Sorting the rules of a chord neither adds nor loses one. -/
theorem mem_sortedBindings {table : Table} {chord : String} {rule : Binding} :
    rule ∈ sortedBindings table chord ↔ rule ∈ table.bindings chord :=
  List.mem_mergeSort

/-- A chord that binds something is one of the chords of its table. -/
theorem mem_chords_of_mem_bindings {table : Table} {chord : String} {rule : Binding}
    (bound : rule ∈ table.bindings chord) : chord ∈ table.chords := by
  obtain ⟨⟨line, action⟩, held, -⟩ := List.mem_map.mp bound
  obtain ⟨row, found, -⟩ := Dict.exists_row_of_mem held
  exact Dict.isSome_get?_iff.mp (by rw [found]; rfl)

theorem mem_chords_of_mem_commands {removals : Removals} {chord command : String}
    (lost : command ∈ removals.commands chord) : chord ∈ removals.chords := by
  obtain ⟨row, found, -⟩ := Dict.exists_row_of_mem lost
  exact Dict.isSome_get?_iff.mp (by rw [found]; rfl)

private theorem mem_ascending_of_mem_bindings {table : Table} {removals : Removals} {chord : String}
    {rule : Binding} (bound : rule ∈ table.bindings chord) :
    chord ∈ ascending (table.chords ++ removals.chords) :=
  mem_ascending.mpr (List.mem_append_left _ (mem_chords_of_mem_bindings bound))

private theorem mem_ascending_of_mem_commands {table : Table} {removals : Removals} {chord : String}
    {command : String} (lost : command ∈ removals.commands chord) :
    chord ∈ ascending (table.chords ++ removals.chords) :=
  mem_ascending.mpr (List.mem_append_right _ (mem_chords_of_mem_commands lost))

/-- **What a keymap calls for**: the record of each rule and of each removal under each spelling of
its chord. -/
inductive Called (leaders : Leaders) (table : Table) (removals : Removals) : Record → Prop
  | rule {chord spelling command : String} {rule : Binding} {args : Json.Value}
      (bound : rule ∈ table.bindings chord) (spelled : spelling ∈ leaders.spellings chord)
      (runs : rule.action.output = .ok (some (command, args))) :
      Called leaders table removals ⟨spelling, command, rule.when, args⟩
  | removal {chord spelling command : String} (lost : command ∈ removals.commands chord)
      (spelled : spelling ∈ leaders.spellings chord) :
      Called leaders table removals ⟨spelling, Removals.retraction command, "", .null⟩

/-- A rule asks for one record on each spelling of its chord, if it has an output. -/
theorem mem_ruleRecords {spellings : List String} {rule : Binding} {record : Record} :
    record ∈ ruleRecords spellings rule ↔ ∃ spelling ∈ spellings, ∃ command args,
      rule.action.output = .ok (some (command, args)) ∧
        record = ⟨spelling, command, rule.when, args⟩ := by
  rw [ruleRecords]
  cases rule.action.output with
  | error fault => simp
  | ok output =>
    cases output with
    | none => simp
    | some rendering =>
      obtain ⟨command, args⟩ := rendering
      simp only [List.mem_map, Except.ok.injEq, Option.some.injEq, Prod.mk.injEq]
      constructor
      · rintro ⟨spelling, member, rfl⟩
        exact ⟨spelling, member, command, args, ⟨rfl, rfl⟩, rfl⟩
      · rintro ⟨spelling, member, _, _, ⟨rfl, rfl⟩, rfl⟩
        exact ⟨spelling, member, rfl⟩

/-- The reference lists exactly the records that are called for. -/
theorem mem_reference {record : Record} :
    record ∈ reference leaders table removals ↔ Called leaders table removals record := by
  simp only [reference, chordRecords, ← List.flatMap_assoc, ← sortedBindings_eq_flatMap,
    List.mem_flatMap, List.mem_append, mem_sortedBindings, mem_ruleRecords, removalRecords,
    List.mem_map]
  constructor
  · rintro ⟨chord, -, ⟨rule, bound, spelling, spelled, command, args, runs, rfl⟩ |
      ⟨command, lost, spelling, spelled, rfl⟩⟩
    · exact .rule bound spelled runs
    · exact .removal lost spelled
  · intro called
    cases called with
    | rule bound spelled runs =>
        exact ⟨_, mem_ascending_of_mem_bindings bound,
          Or.inl ⟨_, bound, _, spelled, _, _, runs, rfl⟩⟩
    | removal lost spelled =>
        exact ⟨_, mem_ascending_of_mem_commands lost, Or.inr ⟨_, lost, _, spelled, rfl⟩⟩

private theorem chordMoves_eq_append (chord : String) :
    chordMoves leaders table removals chord =
      (leaders.spellingEvents chord).map .tell ++
        ((lines table chord).flatMap (rulesUnder table chord)).flatMap
          (bindingMoves chord (leaders.spellings chord)) ++
        (removals.commands chord).flatMap (removalMoves (leaders.spellings chord)) := by
  rw [chordMoves, sortedBindings_eq_flatMap]

/-- The moves of a run, chord by chord: what is told of its spellings, its rules in order, and then
its removals. -/
theorem moves_eq_flatMap :
    moves leaders table removals =
      (ascending (table.chords ++ removals.chords)).flatMap fun chord =>
        (leaders.spellingEvents chord).map .tell ++
          ((lines table chord).flatMap (rulesUnder table chord)).flatMap
            (bindingMoves chord (leaders.spellings chord)) ++
          (removals.commands chord).flatMap (removalMoves (leaders.spellings chord)) := by
  rw [moves, sortedChords_eq_ascending]
  exact List.flatMap_congr fun chord _ => chordMoves_eq_append leaders table removals chord

private theorem emitted_chordMoves (chord : String) :
    emitted (chordMoves leaders table removals chord) =
      chordRecords leaders table removals chord := by
  have told : emitted ((leaders.spellingEvents chord).map .tell) = [] := by
    simp [emitted, List.filterMap_map, Function.comp_def, Move.emission?]
  have ruled (rules : List Binding) :
      emitted (rules.flatMap (bindingMoves chord (leaders.spellings chord))) =
        rules.flatMap (ruleRecords (leaders.spellings chord)) := by
    rw [emitted, List.filterMap_flatMap]
    exact List.flatMap_congr fun rule _ => emitted_bindingMoves chord _ rule
  have removed : emitted ((removals.commands chord).flatMap
      (removalMoves (leaders.spellings chord))) =
      (removals.commands chord).flatMap (removalRecords (leaders.spellings chord)) := by
    rw [emitted, List.filterMap_flatMap]
    exact List.flatMap_congr fun command _ => emitted_removalMoves _ command
  rw [chordMoves_eq_append, emitted_append, emitted_append, told, ruled, removed,
    List.nil_append, List.flatMap_assoc, chordRecords]

/-- The moves of a run ask for the records of the reference. -/
theorem emitted_moves :
    emitted (moves leaders table removals) = reference leaders table removals := by
  rw [moves, emitted, List.filterMap_flatMap, sortedChords_eq_ascending, reference]
  exact List.flatMap_congr fun chord _ => emitted_chordMoves leaders table removals chord

end Linear

namespace Keymap

variable {keymap : Keymap} {leaders : Leaders}

/-- A compile expands the keymap and then linearizes its table. -/
theorem result_compile (keymap : Keymap) (leaders : Leaders) :
    (keymap.compile leaders).result =
      keymap.expanded.result >>= fun table => (table.linearize keymap.removals leaders).result :=
  Report.result_bind _ _

/-- Without an expansion the table is taken as it is. -/
theorem expanded_without_typing (table : Table) (removals : Removals) :
    (expanded ⟨table, removals, none⟩).result = .ok table :=
  congrArg Except.ok table.copy_eq

/-- A keymap with an expansion is compiled from the table that the expansion went into. -/
theorem expanded_of_applied {table : Table} {removals : Removals} {expansion : Expansion}
    (ended : (expansion.apply table).fault = none) :
    (expanded ⟨table, removals, some expansion⟩).result = .ok (expansion.apply table).state.1 := by
  simp only [expanded, Table.copy_eq, Report.result_map, Progress.result_toReport, ended]
  rfl

/-- An expansion that is refused refuses the keymap. -/
theorem expanded_of_refused {table : Table} {removals : Removals} {expansion : Expansion}
    {fault : Fault} (stopped : (expansion.apply table).fault = some fault) :
    (expanded ⟨table, removals, some expansion⟩).result = .error fault := by
  simp only [expanded, Table.copy_eq, Report.result_map, Progress.result_toReport, stopped]
  rfl

/-- A compile that returns has expanded the keymap and linearized its table. -/
theorem expanded_of_compile {records : List Record}
    (compiled : (keymap.compile leaders).result = .ok records) :
    ∃ table, keymap.expanded.result = .ok table ∧
      (table.linearize keymap.removals leaders).result = .ok records := by
  rw [result_compile] at compiled
  cases expanded : keymap.expanded.result with
  | error fault =>
      rw [expanded] at compiled
      exact absurd compiled (by simp [Bind.bind, Except.bind])
  | ok table =>
      rw [expanded] at compiled
      exact ⟨table, rfl, compiled⟩

/-- Once the keymap is expanded, its compile is that of the table. -/
theorem compile_of_expanded {table : Table} (expanded : keymap.expanded.result = .ok table) :
    (keymap.compile leaders).result = (table.linearize keymap.removals leaders).result := by
  rw [result_compile, expanded]
  rfl

end Keymap

namespace Linear

/-- The output is the reference without its later repetitions. -/
theorem records_of_linearize {leaders : Leaders} {table : Table} {removals : Removals}
    {records : List Record}
    (linearized : (table.linearize removals leaders).result = .ok records) :
    records = firstsBy Entry.identity (reference leaders table removals) := by
  rw [records_of_linearize_moves linearized, emitted_moves]

end Linear

namespace Keymap

open Linear

variable {keymap : Keymap} {leaders : Leaders} {table : Table} {records : List Record}

/-- The output of a compile is the reference of the expanded table without its later repetitions. -/
theorem records_of_compile (expanded : keymap.expanded.result = .ok table)
    (compiled : (keymap.compile leaders).result = .ok records) :
    records = firstsBy Entry.identity (reference leaders table keymap.removals) :=
  records_of_linearize (compile_of_expanded expanded ▸ compiled)

/-- Every compiled record is called for. -/
theorem called_of_mem (expanded : keymap.expanded.result = .ok table)
    (compiled : (keymap.compile leaders).result = .ok records) {record : Record}
    (member : record ∈ records) : Called leaders table keymap.removals record := by
  rw [records_of_compile expanded compiled] at member
  exact (mem_reference _ _ _).mp ((firstsBy_sublist _ _).subset member)

/-- Every record that is called for is compiled, or one with its identity is. -/
theorem exists_mem_of_called (expanded : keymap.expanded.result = .ok table)
    (compiled : (keymap.compile leaders).result = .ok records) {record : Record}
    (called : Called leaders table keymap.removals record) :
    ∃ kept ∈ records, kept.key = record.key ∧ kept.when = record.when ∧
      kept.command = record.command ∧ argsText kept.args = argsText record.args := by
  have present : record.identity ∈ records.map Entry.identity := by
    rw [records_of_compile expanded compiled, mem_map_firstsBy]
    exact List.mem_map_of_mem ((mem_reference _ _ _).mpr called)
  exact exists_mem_of_identity present

end Keymap

open Linear in
/-- **A keymap compiles to the records it calls for.** What is returned is the list of the records
that the keymap calls for, without those that repeat an earlier one: every record that is called for
is there, none is there that is not called for, and none is there twice. -/
theorem Keymap.compile_eq_firstsBy_reference {keymap : Keymap} {leaders : Leaders}
    {records : List Record} (compiled : (keymap.compile leaders).result = .ok records) :
    ∃ table, keymap.expanded.result = .ok table ∧
      records = firstsBy Entry.identity (reference leaders table keymap.removals) ∧
      records.Sublist (reference leaders table keymap.removals) ∧
      (∀ record ∈ reference leaders table keymap.removals,
        record.identity ∈ records.map Entry.identity) ∧
      (records.map Entry.identity).Nodup := by
  obtain ⟨table, expanded, -⟩ := expanded_of_compile compiled
  have listed := records_of_compile expanded compiled
  refine ⟨table, expanded, listed, ?_, ?_, ?_⟩
  · rw [listed]
    exact firstsBy_sublist _ _
  · intro record member
    rw [listed, mem_map_firstsBy]
    exact List.mem_map_of_mem member
  · rw [listed]
    exact nodup_map_firstsBy _ _

namespace Keymap

/-- The identities of compiled records show that there are such records. -/
theorem exists_records_of_identities {keymap : Keymap} {leaders : Leaders}
    {identities : List Identity}
    (shown : (keymap.compile leaders).result.toOption.map (List.map Entry.identity) =
      some identities) :
    ∃ records, (keymap.compile leaders).result = .ok records ∧
      records.map Entry.identity = identities := by
  obtain ⟨records, returned, named⟩ := Option.map_eq_some_iff.mp shown
  cases outcome : (keymap.compile leaders).result with
  | error fault =>
      rw [outcome] at returned
      exact absurd returned (by simp [Except.toOption])
  | ok compiled =>
      rw [outcome, Except.toOption, Option.some.injEq] at returned
      exact ⟨compiled, rfl, returned ▸ named⟩

/-- The leaders that are there unless others are named. -/
def controlLeader : Leaders :=
  ⟨Leaders.stock, by decide, by decide⟩

/-- A keymap in which a rule is written under both spellings of a chord, whose default is removed as
well; in one context the chord is suppressed, and in another the key `a` types. -/
def doubled : Keymap where
  table := Table.added ∅
    [("ctrl+x s", ⟨.atom "panel", .suppress⟩),
      ("ctrl+x s", ⟨.always, .run (.invoke "save" .null)⟩),
      ("ctrl+x ctrl+s", ⟨.always, .run (.invoke "save" .null)⟩)]
  removals := ⟨[("ctrl+x s", ["open"])]⟩
  expansion := some ⟨.ofCondition (.atom "typing"), "type", "a", "A", "shift"⟩

theorem compile_doubled :
    ∃ records, (doubled.compile controlLeader).result = .ok records ∧
      records.map Entry.identity =
        [⟨"a", "typing", "type", "\x7b\"text\": \"a\"\x7d"⟩,
          ⟨"ctrl+x ctrl+s", "", "save", ""⟩, ⟨"ctrl+x s", "", "save", ""⟩,
          ⟨"ctrl+x s", "", "-open", ""⟩, ⟨"ctrl+x ctrl+s", "", "-open", ""⟩,
          ⟨"shift+a", "typing", "type", "\x7b\"text\": \"A\"\x7d"⟩] := by
  apply exists_records_of_identities
  simp only [result_compile, Table.linearize_result, Linear.moves_eq_flatMap, Linear.lines,
    ascending_eq_insertionSort]
  decide +kernel

open Linear in
theorem compile_doubled_eq_firstsBy_reference :
    ∃ records table, (doubled.compile controlLeader).result = .ok records ∧
      doubled.expanded.result = .ok table ∧
      records = firstsBy Entry.identity (reference controlLeader table doubled.removals) := by
  obtain ⟨records, compiled, -⟩ := compile_doubled
  obtain ⟨table, expanded, listed, -⟩ := compile_eq_firstsBy_reference compiled
  exact ⟨records, table, compiled, expanded, listed⟩

end Keymap

end KeyChords
