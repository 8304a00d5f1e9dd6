import KeyChords.Proofs.Drift.RoundTrip
import KeyChords.Proofs.Json.Alike

/-! # What makes two records the same

The identity of a record and its line in a report keep the same of it: its key, its command, its
condition, and its arguments up to the order of fields, where empty arguments count as none
(`KeyChords.Entry.canonical`). So a compiled list drops as a repetition what a report could not tell
apart (`KeyChords.Entry.identity_eq_iff_line`).
-/

namespace KeyChords

open Json Text

namespace Json.Datum

variable {left right : Value}

private theorem isEmpty_sortKeys (value : Value) : value.sortKeys.isEmpty = value.isEmpty := by
  cases value with
  | list items => cases items <;> rfl
  | object fields =>
      rw [Bool.eq_iff_iff]
      simp only [sortKeys, isEmpty, List.isEmpty_iff_length_eq_zero, List.length_mergeSort,
        sortKeysFields_eq_map, List.length_map]
  | _ => rfl

private theorem orNull_sortKeys (value : Value) :
    value.sortKeys.orNull = value.orNull.sortKeys := by
  rw [orNull, orNull, isEmpty_sortKeys, apply_ite sortKeys]
  rfl

private theorem sortedText_eq_iff :
    left.sortedText = right.sortedText ↔ left.sortKeys = right.sortKeys := by
  rw [← sortedLetters_eq_iff]
  exact ⟨String.ofList_injective, congrArg String.ofList⟩

theorem sortedText_ne_empty (value : Value) : value.sortedText ≠ "" := by
  obtain ⟨c, more, written, -⟩ := exists_write_eq_cons (κ := Char) value.sortKeys .inline 0
  intro empty
  have letters : (value.sortedLetters : List Char) = [] := String.ofList_injective empty
  rw [sortedLetters, written] at letters
  cases letters

private theorem str_eq_of_orNull {one other : String}
    (same : (Datum.str one).orNull = (Datum.str other).orNull) : one = other := by
  have kept (text : String) : (Datum.str text).orNull = if text = "" then .null else .str text := by
    simp only [orNull, isEmpty, Spelling.letters_string, List.isEmpty_iff,
      String.toList_eq_nil_iff]
  rw [kept, kept] at same
  split at same
  · next none =>
      split at same
      · next otherNone => exact none.trans otherNone.symm
      · cases same
  · split at same
    · cases same
    · exact Datum.str.inj same

end Json.Datum

/-- **Arguments have one text when they are the same up to the order of fields**, and all empty
arguments have one. -/
theorem argsText_eq_iff {left right : Value} :
    argsText left = argsText right ↔ left.orNull.sortKeys = right.orNull.sortKeys := by
  have full {value : Value} (full : ¬ value.isEmpty = true) : value.sortKeys ≠ .null := by
    intro null
    rw [← Datum.isEmpty_sortKeys, null] at full
    exact full rfl
  rw [argsText, argsText, Datum.orNull, Datum.orNull]
  split
  · next empty =>
      split
      · exact iff_of_true rfl rfl
      · next other =>
          exact iff_of_false (Datum.sortedText_ne_empty right).symm (full other).symm
  · next held =>
      split
      · exact iff_of_false (Datum.sortedText_ne_empty left) (full held)
      · exact Datum.sortedText_eq_iff

namespace Entry

/-- **What is kept of a record** when it is compared: its arguments have their keys sorted, and
empty ones count as none. -/
def canonical (record : Record) : Record :=
  { record with args := record.args.orNull.sortKeys }

variable {left right : Record}

private theorem identity_eq_iff_canonical :
    left.identity = right.identity ↔ left.canonical = right.canonical := by
  obtain ⟨key, command, line, args⟩ := left
  obtain ⟨otherKey, otherCommand, otherLine, otherArgs⟩ := right
  simp only [identity, canonical, Identity.mk.injEq, Entry.mk.injEq, argsText_eq_iff]
  tauto

/-! ## Lines -/

private theorem sortKeysFields_field (name : String) (value : Value) :
    Datum.sortKeysFields (field name value : Fields String) = field name value.sortKeys := by
  rw [field, field, Datum.isEmpty_sortKeys]
  split <;> rfl

/-- Sorting the keys inside the fields of a record sorts those inside its arguments. -/
theorem sortKeysFields_fields (record : Record) :
    Datum.sortKeysFields record.fields = record.canonical.fields := by
  have sorted : record.canonical = normalized { record with args := record.args.sortKeys } := by
    rw [canonical, normalized, Datum.orNull_sortKeys]
  rw [sorted, fields_normalized]
  simp only [fields, Datum.sortKeysFields_eq_map, List.map_append]
  simp only [← Datum.sortKeysFields_eq_map, sortKeysFields_field]
  rfl

private theorem fieldValue_fields {name : String} {value : Value}
    (listed : (name, value) ∈ left.rows) :
    fieldValue name left.fields = value.orNull := by
  rw [fields_eq_filter]
  exact fieldValue_filter (left.nodup_keys_rows Function.injective_id) listed

/-- Records with the same fields, in whatever order, are the same up to empty arguments. -/
theorem normalized_eq_of_perm (perm : left.fields.Perm right.fields) :
    left.normalized = right.normalized := by
  have value (name : String) {one other : Value} (listed : (name, one) ∈ left.rows)
      (otherListed : (name, other) ∈ right.rows) : one.orNull = other.orNull := by
    rw [← fieldValue_fields listed, ← fieldValue_fields otherListed, fieldValue, fieldValue]
    refine congrArg (Option.getD · Datum.null) (Option.ext fun held => ?_)
    have here : left.fields.get? name = some held ↔ (name, held) ∈ left.fields :=
      Dict.get?_eq_some_iff left.nodup_keys_fields
    have there : right.fields.get? name = some held ↔ (name, held) ∈ right.fields :=
      Dict.get?_eq_some_iff right.nodup_keys_fields
    exact here.trans (perm.mem_iff.trans there.symm)
  obtain ⟨key, command, line, args⟩ := left
  obtain ⟨otherKey, otherCommand, otherLine, otherArgs⟩ := right
  have keys : key = otherKey :=
    Datum.str_eq_of_orNull (value "key" (by simp [rows]) (by simp [rows]))
  have commands : command = otherCommand :=
    Datum.str_eq_of_orNull (value "command" (by simp [rows]) (by simp [rows]))
  have conditions : line = otherLine :=
    Datum.str_eq_of_orNull (value "when" (by simp [rows]) (by simp [rows]))
  have arguments : args.orNull = otherArgs.orNull :=
    value "args" (by simp [rows]) (by simp [rows])
  rw [normalized, normalized, Entry.mk.injEq]
  exact ⟨keys, commands, conditions, arguments⟩

private theorem line_eq_iff_canonical :
    (Drift.line left : List Char) = Drift.line right ↔ left.canonical = right.canonical := by
  have sorted (record : Record) : record.toValue.sortKeys =
      .object (record.canonical.fields.mergeSort fun left right => decide (left.1 ≤ right.1)) := by
    rw [← sortKeysFields_fields]
    rfl
  have kept (record : Record) : record.canonical.normalized = record.canonical := by
    rw [canonical, normalized, ← Datum.orNull_sortKeys, Datum.orNull_orNull]
  rw [Drift.line, Drift.line, Datum.sortedLetters_eq_iff]
  constructor
  · intro same
    have perm := Datum.perm_sortKeysFields same
    rw [sortKeysFields_fields, sortKeysFields_fields] at perm
    rw [← kept left, ← kept right]
    exact normalized_eq_of_perm perm
  · intro same
    rw [sorted, sorted, same]

/-- **Records of one identity have one line**, and no others have it. -/
theorem identity_eq_iff_line :
    left.identity = right.identity ↔ (Drift.line left : List Char) = Drift.line right :=
  identity_eq_iff_canonical.trans line_eq_iff_canonical.symm

/-- **Records of one identity are alike.** They have the same key, command and condition, and
arguments that are equal up to the order of fields once empty ones are none. The keys of an object
are distinct at every level. -/
theorem identity_eq_iff_alike (distinct : left.args.hasDistinctKeys = true) :
    left.identity = right.identity ↔ left.key = right.key ∧ left.command = right.command ∧
      left.when = right.when ∧ left.args.orNull.Alike right.args.orNull := by
  have kept : left.args.orNull.hasDistinctKeys = true := by
    rw [Datum.orNull]
    split
    · rfl
    · exact distinct
  rw [identity_eq_iff_canonical, canonical, canonical, Entry.mk.injEq,
    Datum.sortKeys_eq_iff_alike kept]

end Entry

end KeyChords
