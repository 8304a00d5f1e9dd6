import KeyChords.Proofs.Json.Capitals
import KeyChords.Proofs.Record.FileText

/-! # The file as a standard JSON document

The text of the file is a document of the JSON grammar, a list of objects, as long as the arguments
of its records hold no number that is not finite; whatever else they hold, and whatever the texts of
the records, cannot break it. Records with an integer that is too long have no file at all. A number
that is not finite is written as a word that the grammar does not have, and no file with one is a
document (`KeyChords.fileText_strict_iff`).
-/

namespace KeyChords

open Json Json.Grammar Text

namespace Json.Datum

private theorem isFinite_of_isEmpty {value : Value} (empty : value.isEmpty = true) :
    value.isFinite = true := by
  cases value with
  | float number => cases number <;> first | rfl | cases empty
  | list items =>
      obtain rfl := List.isEmpty_iff.mp empty
      rfl
  | object fields =>
      obtain rfl := List.isEmpty_iff.mp empty
      rfl
  | _ => rfl

private theorem haveFinite_append (fields more : Fields String) :
    haveFinite (fields ++ more) = (haveFinite fields && haveFinite more) := by
  rw [Bool.eq_iff_iff, Bool.and_eq_true]
  simp only [haveFinite_iff, List.forall_mem_append]

end Json.Datum

open Datum

namespace Entry

/-- Leaving out an empty value leaves out no number that is not finite. -/
theorem haveFinite_field (name : String) (value : Value) :
    haveFinite (field name value : Fields String) = value.isFinite := by
  rw [field]
  split
  · next empty => rw [isFinite_of_isEmpty empty, haveFinite]
  · rw [haveFinite, haveFinite, Bool.and_true]

/-- What is not finite in a record is in its arguments. -/
theorem isFinite_toValue (record : Record) : record.toValue.isFinite = record.args.isFinite := by
  simp [toValue, isFinite, fields, haveFinite_append, haveFinite_field]

private theorem isObject_write_toValue (layout : Layout) (depth : Nat) {record : Record}
    (finite : record.args.isFinite = true) : IsObject (record.toValue.write layout depth) := by
  rw [← isFinite_toValue, toValue, isFinite] at finite
  exact isObject_write (isValue_write_field layout (depth + 1) record.fields finite)

end Entry

variable {records : List Record} {text : String}

private theorem toList_of_fileText (written : fileText records = .ok text) :
    text.toList = (fileValue records).write .indented 0 ++ ['\n'] := by
  rw [(fileText_eq_ok_iff.mp written).2]
  simp [indentedText]

private theorem isFinite_fileValue_iff :
    (fileValue records).isFinite = true ↔ ∀ record ∈ records, record.args.isFinite = true := by
  simp [fileValue, isFinite, areFinite_iff, Entry.isFinite_toValue]

private theorem isSpace_lineFeed : IsSpace ['\n'] := by
  simp [IsSpace]

private theorem isObjectList_of_fileText (written : fileText records = .ok text)
    (finite : ∀ record ∈ records, record.args.isFinite = true) : IsObjectList text.toList := by
  rw [toList_of_fileText written]
  refine ⟨[], (records.map Entry.toValue).map (write .indented 1), _, ['\n'], isSpace_nil,
    isSpace_lineFeed, ?_, isEnclosed_write_list .indented 0 (records.map Entry.toValue), rfl⟩
  intro object listed
  rw [List.map_map] at listed
  obtain ⟨record, inside, rfl⟩ := List.mem_map.mp listed
  exact record.isObject_write_toValue .indented 1 (finite record inside)

private theorem isText_of_fileText_iff (written : fileText records = .ok text) :
    IsText text.toList ↔ ∀ record ∈ records, record.args.isFinite = true := by
  rw [toList_of_fileText written, isText_write_iff isSpace_lineFeed, isFinite_fileValue_iff]

/-- **The file is a document of the JSON grammar exactly when all numbers in it are finite**, and
then it is a list of objects. Only records with an integer that is too long have no file. -/
theorem fileText_strict_iff (records : List Record) :
    (∃ text, fileText records = .ok text ∧
        (IsText text.toList ↔ ∀ record ∈ records, record.args.isFinite = true) ∧
        (IsObjectList text.toList ↔ ∀ record ∈ records, record.args.isFinite = true)) ∨
      (∃ record ∈ records, record.args.isWritable = false) ∧
        fileText records = .error .integerLength := by
  cases written : fileText records with
  | error fault =>
    obtain ⟨long, rfl⟩ := fileText_eq_error_iff.mp written
    exact Or.inr ⟨long, rfl⟩
  | ok text =>
    refine Or.inl ⟨text, rfl, isText_of_fileText_iff written, ?_⟩
    exact ⟨fun list => (isText_of_fileText_iff written).mp list.isText,
      isObjectList_of_fileText written⟩

/-- A record whose arguments hold the value that is not a number makes no standard document. -/
theorem fileText_notNumber :
    ∃ text, fileText [⟨"a", "b", "", .object [("x", .float .nan)]⟩] = .ok text ∧
      ¬ IsText text.toList := by
  let record : Record := ⟨"a", "b", "", .object [("x", .float .nan)]⟩
  have written := fileText_eq_ok_iff.mpr
    ⟨(by decide : ∀ other ∈ [record], other.args.isWritable = true), rfl⟩
  refine ⟨_, written, ?_⟩
  rw [isText_of_fileText_iff written]
  decide

end KeyChords
