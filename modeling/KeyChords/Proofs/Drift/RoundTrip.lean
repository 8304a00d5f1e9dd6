import KeyChords.Drift
import KeyChords.Proofs.Json.RoundTrip
import KeyChords.Proofs.Progress
import KeyChords.Proofs.Record.FileText

/-! # Reading the keybindings file back

A file that was written for records is loaded as those records, in their order, and shows no drift
from them. Only one thing is lost: arguments that are empty are left out of the file, so they come
back as none. Records with an integer of more digits than are ever written have no file that could
be read (`KeyChords.Drift.fileText_round_trip`).
-/

namespace KeyChords

open Json Text

namespace Entry

/-! ## The fields of an entry -/

section Fields

variable {κ τ : Type} [Spelling τ κ]

/-- **The entry that is left of one in a file**: empty arguments count as none. -/
def normalized (entry : Entry τ) : Entry τ :=
  { entry with args := entry.args.orNull }

/-- Empty arguments are left out of the fields in any case. -/
theorem fields_normalized (entry : Entry τ) : entry.normalized.fields = entry.fields := by
  have args : field "args" entry.args.orNull = field "args" entry.args := by
    by_cases empty : entry.args.isEmpty = true
    · rw [Datum.orNull, if_pos empty, field, field, if_pos empty]
      rfl
    · rw [Datum.orNull, if_neg empty]
  simp only [fields, normalized, args]

/-- What each field of an entry would hold. -/
def rows (entry : Entry τ) : Fields τ :=
  [(Spelling.ofString "key", .str entry.key), (Spelling.ofString "command", .str entry.command),
    (Spelling.ofString "when", .str entry.when), (Spelling.ofString "args", entry.args)]

/-- The members that an entry is written with have different names. -/
theorem nodup_keys_rows (injective : Function.Injective (Spelling.ofString : String → τ))
    (entry : Entry τ) : (entry.rows.map Prod.fst).Nodup := by
  have names : ["key", "command", "when", "args"].Nodup := by decide
  exact List.Nodup.map (f := Spelling.ofString) injective names

/-- The fields of an entry are those that hold something. -/
theorem fields_eq_filter (entry : Entry τ) :
    entry.fields = entry.rows.filter fun row => !row.2.isEmpty := by
  have field_eq (name : String) (value : Datum τ) :
      field name value = [(Spelling.ofString name, value)].filter fun row => !row.2.isEmpty := by
    by_cases empty : value.isEmpty = true
    · simp [field, empty]
    · simp [field, empty]
  simp only [fields, field_eq, ← List.filter_append]
  rfl

end Fields

/-! ## What is read from the fields of a record -/

/-- The fields that a record is written with have different names. -/
theorem nodup_keys_fields (record : Record) : (record.fields.map Prod.fst).Nodup := by
  rw [fields_eq_filter]
  exact (List.filter_sublist.map _).nodup (record.nodup_keys_rows Function.injective_id)

/-- Each field holds one of the parts of the record. -/
theorem mem_fields {record : Record} {field : String × Value} (member : field ∈ record.fields) :
    (∃ text, field.2 = .str text) ∨ field.2 = record.args := by
  rw [fields_eq_filter] at member
  have listed := (List.mem_filter.mp member).1
  simp only [rows, List.mem_cons, List.not_mem_nil, or_false] at listed
  rcases listed with rfl | rfl | rfl | rfl
  · exact .inl ⟨_, rfl⟩
  · exact .inl ⟨_, rfl⟩
  · exact .inl ⟨_, rfl⟩
  · exact .inr rfl

/-- Where no key comes twice, the fields that hold something give each key its value, `null` in the
place of an empty one. -/
theorem fieldValue_filter {rows : Fields String} (distinct : (rows.map Prod.fst).Nodup)
    {name : String} {value : Value} (listed : (name, value) ∈ rows) :
    fieldValue name (rows.filter fun row => !row.2.isEmpty) = value.orNull := by
  have kept : ((rows.filter fun row => !row.2.isEmpty).map Prod.fst).Nodup :=
    (List.filter_sublist.map Prod.fst).nodup distinct
  by_cases empty : value.isEmpty = true
  · cases found : Dict.get? name (rows.filter fun row => !row.2.isEmpty) with
    | none =>
      rw [fieldValue, Spelling.ofString_string, found, Datum.orNull, if_pos empty]
      rfl
    | some other =>
      obtain ⟨member, full⟩ := List.mem_filter.mp (Dict.mem_of_get? found)
      have held := (Dict.get?_eq_some_iff distinct).mpr listed
      rw [(Dict.get?_eq_some_iff distinct).mpr member] at held
      rw [Option.some.inj held, empty] at full
      cases full
  · have member : (name, value) ∈ rows.filter fun row => !row.2.isEmpty :=
      List.mem_filter.mpr ⟨listed, by simpa using empty⟩
    have found : Dict.get? name (rows.filter fun row => !row.2.isEmpty) = some value :=
      (Dict.get?_eq_some_iff kept).mpr member
    rw [fieldValue, Spelling.ofString_string, found, Datum.orNull, if_neg empty]
    rfl

/-- The fields are found under their names in a text of code points as well. -/
theorem fieldValue_mapFields {record : Record} {name : String} {value : Value}
    (listed : (name, value) ∈ record.rows) :
    fieldValue name (Datum.mapFields (Spelling.ofString : String → List CodePoint)
      record.fields) = value.orNull.map Spelling.ofString := by
  have found := Datum.get?_mapFields ofString_injective name record.fields
  have distinct := record.nodup_keys_rows Function.injective_id
  rw [← fieldValue_filter distinct listed, ← fields_eq_filter, fieldValue, found, fieldValue,
    Spelling.ofString_string]
  cases Dict.get? name record.fields <;> rfl

private theorem fieldValue_key (record : Record) :
    fieldValue "key" (Datum.mapFields (Spelling.ofString : String → List CodePoint)
      record.fields) = (Datum.str record.key).orNull.map Spelling.ofString :=
  fieldValue_mapFields (by simp [rows])

private theorem fieldValue_command (record : Record) :
    fieldValue "command" (Datum.mapFields (Spelling.ofString : String → List CodePoint)
      record.fields) = (Datum.str record.command).orNull.map Spelling.ofString :=
  fieldValue_mapFields (by simp [rows])

private theorem fieldValue_when (record : Record) :
    fieldValue "when" (Datum.mapFields (Spelling.ofString : String → List CodePoint)
      record.fields) = (Datum.str record.when).orNull.map Spelling.ofString :=
  fieldValue_mapFields (by simp [rows])

private theorem textField_of_fieldValue {name text : String} {fields : Fields (List CodePoint)}
    (value : fieldValue name fields = (Datum.str text).orNull.map Spelling.ofString) :
    textField name fields = Spelling.ofString text := by
  rw [textField, value]
  by_cases empty : text = ""
  · rw [empty]
    rfl
  · have full : (Datum.str text).isEmpty = false := by
      simpa [Datum.isEmpty] using empty
    have kept : (Datum.str text).orNull = .str text := by
      rw [Datum.orNull, full, if_neg Bool.false_ne_true]
    rw [kept, Datum.isEmpty_map_ofString, full]
    rfl

/-- **What is read from the fields of a record is the record**, its empty arguments as none. -/
theorem ofFields_mapFields (record : Record) :
    ofFields (Datum.mapFields (Spelling.ofString : String → List CodePoint) record.fields) =
      record.normalized.map Spelling.ofString := by
  have args : fieldValue "args" (Datum.mapFields (Spelling.ofString : String → List CodePoint)
      record.fields) = record.args.orNull.map Spelling.ofString :=
    fieldValue_mapFields (by simp [rows])
  simp only [ofFields, textField_of_fieldValue record.fieldValue_key,
    textField_of_fieldValue record.fieldValue_command,
    textField_of_fieldValue record.fieldValue_when, args, Datum.orNull_map_ofString,
    Datum.orNull_orNull]
  rfl

end Entry

/-! ## The file -/

section File

variable {records : List Record}

private theorem hasDistinctKeys_fileValue
    (distinct : ∀ record ∈ records, record.args.hasDistinctKeys = true) :
    (fileValue records).hasDistinctKeys = true := by
  refine Datum.haveDistinctKeys_iff.mpr ?_
  intro item member
  obtain ⟨record, inside, rfl⟩ := List.mem_map.mp member
  refine (Bool.and_eq_true _ _).mpr ⟨decide_eq_true ?_, Datum.holdDistinctKeys_iff.mpr ?_⟩
  · exact record.nodup_keys_fields
  · intro field held
    rcases Entry.mem_fields held with ⟨text, same⟩ | same
    · rw [same]
      rfl
    · rw [same]
      exact distinct record inside

namespace Drift

private theorem readEntry_mapFields (record : Record) :
    readEntry (Datum.mapFields Spelling.ofString record.fields) =
      .ok (asLoaded record.normalized) := by
  have texts (text : String) :
      ((Datum.str text).orNull.map (Spelling.ofString : String → List CodePoint)).requireWritable =
        .ok () := by
    rw [Datum.requireWritable_eq_ok_iff, Datum.isWritable_map, Datum.isWritable_orNull rfl]
  simp only [readEntry, List.forM_eq_forM, List.forM_cons, List.forM_nil, Entry.fieldValue_key,
    Entry.fieldValue_command, Entry.fieldValue_when, texts, Entry.ofFields_mapFields]
  rfl

private theorem recordsFrom_fileValue (index : Nat) (records : List Record) :
    recordsFrom index (Datum.mapItems Spelling.ofString (records.map Entry.toValue)) =
      .ok (records.map fun record => asLoaded record.normalized) := by
  induction records generalizing index with
  | nil => rfl
  | cons record rest hyp =>
    change (do
      let entry ← readEntry (Datum.mapFields Spelling.ofString record.fields)
      let others ← recordsFrom (index + 1)
        (Datum.mapItems Spelling.ofString (rest.map Entry.toValue))
      return entry :: others : Except Fault (List Loaded)) = _
    rw [readEntry_mapFields, hyp]
    rfl

/-- What is read from a text is what is loaded from it. -/
theorem result_load_of_readRecords {text : String} {entries : List Loaded}
    (read : readRecords text = .ok entries) : (load text).result = .ok entries := by
  simp only [load, Report.result_bind, Report.result_ofExcept, read, Report.result_say]
  rfl

private theorem result_load_fileText {text : String}
    (distinct : ∀ record ∈ records, record.args.hasDistinctKeys = true)
    (written : fileText records = .ok text) :
    (load text).result = .ok (records.map fun record => asLoaded record.normalized) := by
  obtain ⟨writable, rfl⟩ := fileText_eq_ok_iff.mp written
  have read := Document.read_indentedText (hasDistinctKeys_fileValue distinct)
    (isWritable_fileValue_iff.mpr writable)
  refine result_load_of_readRecords ?_
  rw [readRecords, read]
  exact recordsFrom_fileValue 0 records

/-- A record has one line, with its empty arguments and without them. -/
theorem line_normalized (record : Record) :
    line (asLoaded record.normalized) = line (asLoaded record) := by
  have same : asLoaded record.normalized = (asLoaded record).normalized := by
    simp only [asLoaded, Entry.map, Entry.normalized, Datum.orNull_map_ofString]
  rw [same, line, line, Entry.toValue, Entry.toValue, Entry.fields_normalized]

private theorem compare_normalized (records : List Record) :
    compare (records.map asLoaded) (records.map fun record => asLoaded record.normalized) = [] := by
  have lines : (records.map fun record => asLoaded record.normalized).map line =
      (records.map asLoaded).map line := by
    simp only [List.map_map, Function.comp_def, line_normalized]
  rw [compare, lines, compareLines, if_pos rfl]

/-- Entries have lines when their arguments can be written. -/
theorem requireLines_eq_ok_iff {κ τ : Type} [Letter κ] [Spelling τ κ] {entries : List (Entry τ)} :
    requireLines entries = .ok () ↔ ∀ entry ∈ entries, entry.args.isWritable = true := by
  simp only [requireLines, forM_eq_ok_iff, Datum.requireWritable_eq_ok_iff]

/-- A record can be written just when its loaded form can. -/
theorem isWritable_asLoaded (record : Record) :
    (asLoaded record).args.isWritable = record.args.isWritable :=
  Datum.isWritable_map Spelling.ofString record.args

/-- A file that is loaded is compared with the records, if the arguments of both can be written. -/
theorem result_check_of_load {text : String} {entries : List Loaded}
    (loaded : (load text).result = .ok entries)
    (writable : ∀ record ∈ records, record.args.isWritable = true)
    (writableEntries : ∀ entry ∈ entries, entry.args.isWritable = true) :
    (check text records).result = .ok (compare (records.map asLoaded) entries) := by
  have expected : requireLines (records.map asLoaded) = .ok () := by
    refine requireLines_eq_ok_iff.mpr ?_
    simpa only [List.forall_mem_map, isWritable_asLoaded] using writable
  have actual := requireLines_eq_ok_iff.mpr writableEntries
  simp only [check, report, Report.result_bind, loaded, Report.result_liftM]
  change (requireLines (records.map asLoaded) >>= fun _ => requireLines entries >>= fun _ =>
    Except.ok (compare (records.map asLoaded) entries)) = _
  rw [expected, actual]
  rfl

/-- Records agree with the file that is written from them. -/
theorem result_check_fileText {text : String}
    (distinct : ∀ record ∈ records, record.args.hasDistinctKeys = true)
    (written : fileText records = .ok text) : (check text records).result = .ok [] := by
  have writable := (fileText_eq_ok_iff.mp written).1
  rw [result_check_of_load (result_load_fileText distinct written) writable, compare_normalized]
  intro entry member
  obtain ⟨record, inside, rfl⟩ := List.mem_map.mp member
  rw [isWritable_asLoaded]
  exact Datum.isWritable_orNull (writable record inside)

/-- **A keybindings file is read back as what was written.** The entries come back in their order,
each as it was but for empty arguments, and a check against the records finds no drift. The keys of
an object are distinct at every level. Only records with an integer of more than `digitLimit` digits
have no file: writing them is a fault. -/
theorem fileText_round_trip
    (distinct : ∀ record ∈ records, record.args.hasDistinctKeys = true) :
    ((∀ record ∈ records, record.args.isWritable = true) →
        ∃ text, fileText records = .ok text ∧
          (load text).result = .ok (records.map fun record => asLoaded record.normalized) ∧
          (check text records).result = .ok []) ∧
      ((∃ record ∈ records, record.args.isWritable = false) →
        fileText records = .error .integerLength) := by
  refine ⟨fun writable => ?_, fun long => fileText_eq_error_iff.mpr ⟨long, rfl⟩⟩
  have written := fileText_eq_ok_iff.mpr ⟨writable, rfl⟩
  exact ⟨_, written, result_load_fileText distinct written, result_check_fileText distinct written⟩

/-- Records with escaped and unescaped characters, every kind of value and empty fields. -/
def assortedRecords : List Record := [
  ⟨"ctrl+x \u2028", "say \"\\\"", "mode == 'a\tb'", .object [
    ("", .str "\x00\x1f\x7f\u2029\n"),
    ("quote\"", .list [.null, .bool true, .int (-12345678901234567890), .list [], .object []]),
    ("numbers", .list [
      .float .nan, .float (.infinite true), .float (.finite true ⟨0, by decide⟩),
      .float (.finite false ⟨1, by decide⟩),
      .float (.finite true ⟨4611686018427387904, by decide⟩)]),
    ("nested", .object [("", .object [("\r", .str "")])])]⟩,
  ⟨"", "", "", .float (.finite true ⟨0, by decide⟩)⟩,
  ⟨"escape", "-quit", "", .object []⟩]

theorem assortedRecords_round_trip :
    (∀ record ∈ assortedRecords, record.args.hasDistinctKeys = true) ∧
      (∃ text, fileText assortedRecords = .ok text ∧
        (load text).result = .ok (assortedRecords.map fun record => asLoaded record.normalized) ∧
        (check text assortedRecords).result = .ok []) ∧
      (assortedRecords.map fun record => record.normalized.args.isNull) = [false, true, true] := by
  have distinct : ∀ record ∈ assortedRecords, record.args.hasDistinctKeys = true := by
    decide +kernel
  have writable : ∀ record ∈ assortedRecords, record.args.isWritable = true := by
    decide +kernel
  exact ⟨distinct, (fileText_round_trip distinct).1 writable, by decide +kernel⟩

/-- A record whose arguments hold an integer of 5001 digits. -/
def longRecord : Record := ⟨"a", "b", "", .object [("n", .int (10 ^ 5000))]⟩

/-- **A record with an integer that is too long has no file**, though its keys are distinct. -/
theorem fileText_longRecord :
    longRecord.args.hasDistinctKeys = true ∧ ¬ ∃ text, fileText [longRecord] = .ok text := by
  have distinct : longRecord.args.hasDistinctKeys = true := by decide +kernel
  have long : longRecord.args.isWritable = false := by decide +kernel
  refine ⟨distinct, ?_⟩
  rintro ⟨text, written⟩
  rw [fileText_eq_error_iff.mpr ⟨⟨longRecord, List.mem_singleton_self _, long⟩, rfl⟩] at written
  cases written

end Drift

end File

end KeyChords
