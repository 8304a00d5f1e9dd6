import KeyChords.Proofs.Json.Mapped
import KeyChords.Record

/-! # The text of a keybindings file

Records have a file exactly when the integers in their arguments are short enough to be written
(`KeyChords.fileText_eq_ok_iff`); otherwise writing them is a fault
(`KeyChords.fileText_eq_error_iff`). Nothing else in a record can keep it from being written.
-/

namespace KeyChords

open Json Text

namespace Json.Datum

/-- An empty value holds no integer that is too long. -/
theorem isWritable_of_isEmpty {κ τ : Type} [Spelling τ κ] {value : Datum τ}
    (empty : value.isEmpty = true) : value.isWritable = true := by
  cases value with
  | int value =>
    obtain rfl := of_decide_eq_true empty
    have positive (limit : Nat) : (0 : Int).natAbs < Nat.pow 10 limit := Nat.pow_pos (by decide)
    rw [isWritable]
    exact decide_eq_true (positive _)
  | list items =>
    obtain rfl := List.isEmpty_iff.mp empty
    rfl
  | object fields =>
    obtain rfl := List.isEmpty_iff.mp empty
    rfl
  | _ => rfl

private theorem haveWritable_append {τ : Type} (fields more : Fields τ) :
    haveWritable (fields ++ more) = (haveWritable fields && haveWritable more) := by
  rw [Bool.eq_iff_iff, Bool.and_eq_true]
  simp only [haveWritable_iff, List.forall_mem_append]

end Json.Datum

open Datum

namespace Entry

variable {κ τ : Type} [Spelling τ κ]

/-- Leaving out an empty value leaves out no integer that is too long. -/
theorem haveWritable_field (name : String) (value : Datum τ) :
    haveWritable (field name value : Fields τ) = value.isWritable := by
  rw [field]
  split
  · next empty => rw [isWritable_of_isEmpty empty, haveWritable]
  · rw [haveWritable, haveWritable, Bool.and_true]

/-- What cannot be written of an entry is in its arguments. -/
theorem isWritable_toValue (entry : Entry τ) :
    entry.toValue.isWritable = entry.args.isWritable := by
  simp [toValue, isWritable, fields, haveWritable_append, haveWritable_field]

end Entry

variable {records : List Record}

/-- A file can be written when the arguments of each of its records can. -/
theorem isWritable_fileValue_iff :
    (fileValue records).isWritable = true ↔ ∀ record ∈ records, record.args.isWritable = true := by
  simp [fileValue, isWritable, areWritable_iff, Entry.isWritable_toValue]

/-- **Records whose integers are short enough have a file.** -/
theorem fileText_eq_ok_iff {text : String} :
    fileText records = .ok text ↔
      (∀ record ∈ records, record.args.isWritable = true) ∧
        text = (fileValue records).indentedText ++ "\n" := by
  rw [← isWritable_fileValue_iff, ← requireWritable_eq_ok_iff, fileText]
  cases (fileValue records).requireWritable with
  | error fault => exact ⟨nofun, fun ok => nomatch ok.1⟩
  | ok =>
    exact ⟨fun same => ⟨rfl, (Except.ok.inj same).symm⟩, fun ok => congrArg Except.ok ok.2.symm⟩

/-- **Records with an integer that is too long have no file**, and nothing else stands in its way.
-/
theorem fileText_eq_error_iff {fault : Fault} :
    fileText records = .error fault ↔
      (∃ record ∈ records, record.args.isWritable = false) ∧ fault = .integerLength := by
  have long : (∃ record ∈ records, record.args.isWritable = false) ↔
      (fileValue records).isWritable = false := by
    rw [← Bool.not_eq_true, isWritable_fileValue_iff]
    simp
  rw [long, ← requireWritable_eq_error_iff, fileText]
  cases (fileValue records).requireWritable with
  | error inner =>
    exact ⟨fun same => congrArg Except.error (Except.error.inj same),
      fun same => congrArg Except.error (Except.error.inj same)⟩
  | ok => exact ⟨nofun, nofun⟩

end KeyChords
