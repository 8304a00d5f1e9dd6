import KeyChords.Proofs.Expansion.Generated
import KeyChords.Proofs.Linear.Completeness
import KeyChords.Proofs.Linear.Extension

/-! # Keymaps with a typing expansion

A typing expansion adds its own records to those of a keymap and changes nothing else. Its chords
are single presses, which are never spelled like another chord, and its commands have arguments,
which removals have not. So a keymap compiles with an expansion exactly when it compiles without it,
the expansion is valid, and none of the generated slots is taken; and deleting the generated records
from the list leaves the list without the expansion (`KeyChords.Keymap.compile_typing`).
-/

namespace KeyChords

open Json Linear Table Text

private theorem write_object_ne_nil (layout : Layout) (depth : Nat) (fields : Fields String) :
    (Datum.object fields : Value).write layout depth ≠ [] := by
  cases fields with
  | nil => simp [Datum.write]
  | cons field rest => simp [Datum.write]

private theorem argsText_object_ne_empty {fields : Fields String} (filled : fields ≠ []) :
    argsText (.object fields) ≠ "" := by
  have some : (Datum.object fields : Value).isEmpty = false := by
    simpa [Datum.isEmpty] using filled
  intro empty
  have letters := congrArg String.toList empty
  simp only [argsText, some, Bool.false_eq_true, ↓reduceIte, Datum.sortedText,
    String.toList_ofList, Letter.written_chars, Datum.sortedLetters, Datum.sortKeys] at letters
  exact write_object_ne_nil _ _ _ letters

namespace Expansion

variable {expansion : Expansion} {condition : Condition}

/-- **The records that an expansion adds** under a line: for each key, the one that types its
character and the one that types its shifted form. -/
def typedRecords (expansion : Expansion) (line : String) : List Record :=
  (expansion.plain.toList.zip expansion.shifted.toList).flatMap fun (plain, shifted) =>
    let key := String.singleton plain
    [⟨key, expansion.command, line, .object [("text", .str key)]⟩,
      ⟨Chord.modified expansion.modifier key, expansion.command, line,
        .object [("text", .str (String.singleton shifted))]⟩]

private theorem ownRecords_typingRules (expansion : Expansion) (condition : Condition) :
    ownRecords (expansion.typingRules condition) = expansion.typedRecords condition.text := by
  rw [ownRecords, typingRules, List.flatMap_map, List.flatMap_assoc]
  rfl

private theorem map_key_typedRecords (expansion : Expansion) (condition : Condition) :
    (expansion.typedRecords condition.text).map Entry.key =
      (expansion.typingRules condition).map Prod.fst := by
  rw [typedRecords, typingRules, List.map_flatMap, List.map_map, List.map_flatMap]
  rfl

private theorem Valid.length_typedRecords (valid : expansion.Valid) (condition : Condition) :
    (expansion.typedRecords condition.text).length = 2 * expansion.plain.length := by
  rw [← List.length_map (f := Entry.key), map_key_typedRecords, List.length_map,
    valid.length_typingRules]

/-- The bindings of a valid expansion stand apart from a table in which their slots are free. -/
theorem Valid.standApart (valid : expansion.Valid) {table : Table}
    (whole : ' ' ∉ expansion.modifier.toList)
    (free : ∀ rule ∈ expansion.typingRules condition, table.find? rule.1 condition.text = none) :
    StandApart table (expansion.typingRules condition) where
  admits := valid.admits free
  single := by
    intro rule member
    have chord := List.mem_map_of_mem (f := Prod.fst) member
    rw [map_fst_typingRules] at chord
    obtain ⟨c, -, inside⟩ := List.mem_flatMap.mp chord
    exact single_of_mem_keyChords whole inside
  supplied := by
    intro rule member
    obtain ⟨action, listed, rfl⟩ := List.mem_map.mp member
    obtain ⟨⟨plain, shifted⟩, -, either⟩ := List.mem_flatMap.mp listed
    rcases List.mem_pair.mp either with rfl | rfl
    · exact ⟨_, _, rfl, argsText_object_ne_empty (List.cons_ne_nil _ _)⟩
    · exact ⟨_, _, rfl, argsText_object_ne_empty (List.cons_ne_nil _ _)⟩

/-- The slots of an expansion are free when those of its records are. -/
theorem free_iff {table : Table} :
    (∀ rule ∈ expansion.typingRules condition, table.find? rule.1 condition.text = none) ↔
      ∀ typed ∈ expansion.typedRecords condition.text,
        table.find? typed.key condition.text = none := by
  have chords := map_key_typedRecords expansion condition
  constructor
  · intro free typed member
    have key := List.mem_map_of_mem (f := Entry.key) member
    rw [chords] at key
    obtain ⟨rule, inside, same⟩ := List.mem_map.mp key
    rw [← same]
    exact free rule inside
  · intro free rule member
    have chord := List.mem_map_of_mem (f := Prod.fst) member
    rw [← chords] at chord
    obtain ⟨typed, inside, same⟩ := List.mem_map.mp chord
    rw [← same]
    exact free typed inside

end Expansion

namespace Keymap

/-- **A typing expansion is a conservative extension.** Let the condition of an expansion be well
formed and its modifier hold no blank. A keymap compiles with the expansion if and only if it
compiles without it, the expansion is valid, and no generated slot is taken in the table. The list
then holds exactly one record for each generated binding, two for each character, and is the list
without the expansion when these are deleted. -/
theorem compile_typing {expansion : Expansion} {condition : Condition}
    (formed : expansion.condition.toCondition = .ok condition)
    (whole : ' ' ∉ expansion.modifier.toList) (table : Table) (removals : Removals)
    (leaders : Leaders) :
    ((∃ records, (compile ⟨table, removals, some expansion⟩ leaders).result = .ok records) ↔
        (∃ others, (compile ⟨table, removals, none⟩ leaders).result = .ok others) ∧
          expansion.Valid ∧ ∀ typed ∈ expansion.typedRecords condition.text,
            table.find? typed.key condition.text = none) ∧
      ∀ records, (compile ⟨table, removals, some expansion⟩ leaders).result = .ok records →
        let typed := expansion.typedRecords condition.text
        typed.length = 2 * expansion.plain.length ∧ (typed.map Entry.key).Nodup ∧
          (∀ own ∈ typed, records.filter (fun record => record.identity = own.identity) = [own]) ∧
          (compile ⟨table, removals, none⟩ leaders).result =
            .ok (records.filter fun record => record.identity ∉ typed.map Entry.identity) := by
  have plain : (compile ⟨table, removals, none⟩ leaders).result =
      (table.linearize removals leaders).result :=
    compile_of_expanded (expanded_without_typing table removals)
  rw [plain, ← Expansion.free_iff]
  rcases Expansion.apply_cases formed table with
    ⟨valid, free, sound, state⟩ | ⟨unfit, fault, stopped⟩
  · have expands : (expanded ⟨table, removals, some expansion⟩).result =
        .ok (table.added (expansion.typingRules condition)) :=
      state ▸ expanded_of_applied sound
    have extended := linearize_added (valid.standApart whole free) removals leaders
    simp only [kept, Expansion.ownRecords_typingRules] at extended
    rw [compile_of_expanded expands, extended.1]
    refine ⟨⟨fun compiled => ⟨compiled, valid, free⟩, And.left⟩, fun records compiled => ?_⟩
    refine ⟨valid.length_typedRecords condition, ?_, extended.2 records compiled⟩
    rw [Expansion.map_key_typedRecords]
    exact valid.nodup_chords condition
  · have refused : (compile ⟨table, removals, some expansion⟩ leaders).result = .error fault := by
      rw [result_compile, expanded_of_refused stopped]
      rfl
    rw [refused]
    refine ⟨⟨?_, fun fit => absurd fit.2 unfit⟩, ?_⟩
    · rintro ⟨records, compiled⟩
      exact absurd compiled (by simp)
    · intro records compiled
      exact absurd compiled (by simp)

/-- An expansion whose keys are a plus sign and a blank. -/
def plusAndBlank : Expansion where
  condition := .ofCondition (.atom "typing")
  command := "type"
  plain := "+ "
  shifted := "=_"
  modifier := "shift"

/-- Beside a chord that is a leader and a plus sign, the plus sign and the blank are typed without
meeting it under any spelling. -/
theorem compile_typing_spacious :
    plusAndBlank.condition.toCondition = .ok (.atom "typing") ∧
      ' ' ∉ plusAndBlank.modifier.toList ∧
      ∃ records, (compile ⟨spacious.table, spacious.removals, some plusAndBlank⟩
          controlLeader).result = .ok records ∧
        (plusAndBlank.typedRecords "typing").length = 4 ∧
        (∀ own ∈ plusAndBlank.typedRecords "typing",
          records.filter (fun record => record.identity = own.identity) = [own]) ∧
        (spacious.compile controlLeader).result =
          .ok (records.filter fun record =>
            record.identity ∉ (plusAndBlank.typedRecords "typing").map Entry.identity) := by
  have formed : plusAndBlank.condition.toCondition = .ok (.atom "typing") :=
    Draft.toCondition_ofCondition _
  have whole : ' ' ∉ plusAndBlank.modifier.toList := by decide
  have valid : plusAndBlank.Valid := ⟨by decide, by decide, by decide⟩
  have free : ∀ typed ∈ plusAndBlank.typedRecords "typing",
      spacious.table.find? typed.key "typing" = none := by
    intro typed member
    have vacant : ∀ typed ∈ plusAndBlank.typedRecords "typing",
        (spacious.table.find? typed.key "typing").isNone = true := by decide +kernel
    exact Option.isNone_iff_eq_none.mp (vacant typed member)
  obtain ⟨succeeds, lists⟩ :=
    compile_typing formed whole spacious.table spacious.removals controlLeader
  obtain ⟨others, compiled, -⟩ := compile_spacious
  obtain ⟨records, extended⟩ := succeeds.mpr ⟨⟨others, compiled⟩, valid, free⟩
  obtain ⟨count, -, once, rest⟩ := lists records extended
  exact ⟨formed, whole, records, extended, count, once, rest⟩

end Keymap

end KeyChords
