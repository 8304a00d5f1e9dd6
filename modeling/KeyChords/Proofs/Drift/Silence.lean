import KeyChords.Proofs.Drift.EditScript
import KeyChords.Proofs.Drift.Places
import KeyChords.Proofs.Drift.RoundTrip
import KeyChords.Proofs.Json.Alike
import KeyChords.Proofs.Json.DistinctKeys

/-! # What an empty report says

A check reports nothing exactly when the lines of the file and of the compiled records are the same.
A line is that of the entry which an object of the file stands for: other fields are ignored, and a
value in the place of a text counts as the text that a message would show. So an empty report says
that the entries are alike, and that an object itself is alike to the record exactly when it is
plain (`KeyChords.Drift.check_silent`).
-/

namespace KeyChords

open Json Text

namespace Drift

/-! ## Lines -/

section Lines

variable {κ : Type} [Letter κ]

private theorem changeLines_ne_nil {change : Change (List κ)}
    (real : ¬(change.dropped = [] ∧ change.added = [])) : changeLines change ≠ [] := by
  intro none
  obtain ⟨dropped, added⟩ := List.append_eq_nil_iff.mp none
  exact real ⟨List.map_eq_nil_iff.mp dropped, List.map_eq_nil_iff.mp added⟩

variable [DecidableEq κ]

private theorem eq_of_reordered {index : Nat} {expected actual : List (List κ)}
    (lengths : expected.length = actual.length) (silent : reordered index expected actual = []) :
    expected = actual := by
  rw [reordered_eq_map index lengths, List.map_eq_nil_iff] at silent
  exact eq_of_differing lengths silent

variable [LT κ] [DecidableLT κ]

/-- **Nothing is reported exactly when the lines are the same**, in the same order. -/
theorem compareLines_eq_nil_iff {expected actual : List (List κ)} :
    compareLines expected actual = [] ↔ expected = actual := by
  constructor
  · intro silent
    by_contra differ
    rw [compareLines, if_neg differ] at silent
    split at silent
    · next sorted =>
        have lengths := congrArg List.length sorted
        simp only [sortedLines, List.length_mergeSort] at lengths
        exact differ (eq_of_reordered lengths silent)
    · have script := editScript_changes actual expected
      cases made : changes actual expected with
      | nil =>
          rw [made] at script
          exact differ script.eq_of_nil.symm
      | cons change more =>
          rw [made] at script silent
          rw [List.flatMap_cons, List.append_eq_nil_iff] at silent
          exact changeLines_ne_nil (script.real_of_mem List.mem_cons_self) silent.1
  · intro same
    rw [compareLines, if_pos same]

end Lines

/-! ## The entries of a file -/

variable {text : String} {records : List Record} {document : Document} {items : List Document}
  {entries : List Loaded}

/-- A check that reports has read the entries of the file and compared them. -/
theorem exists_entries_of_check {lines : List String}
    (checked : (check text records).result = .ok lines) :
    ∃ entries, readRecords text = .ok entries ∧ compare (records.map asLoaded) entries = lines := by
  simp only [check, report, load, Report.result_bind, Report.result_ofExcept, Report.result_say,
    Report.result_liftM] at checked
  obtain ⟨entries, loaded, compared⟩ := exists_of_bind_eq_ok checked
  obtain ⟨held, read, told⟩ := exists_of_bind_eq_ok loaded
  obtain ⟨_, -, same⟩ := exists_of_bind_eq_ok told
  obtain ⟨_, -, others⟩ := exists_of_bind_eq_ok compared
  obtain ⟨_, -, reported⟩ := exists_of_bind_eq_ok others
  obtain rfl : held = entries := Except.ok.inj same
  exact ⟨held, read, Except.ok.inj reported⟩

private theorem eq_of_readEntry {fields : Members} {entry : Loaded}
    (read : readEntry fields = .ok entry) : entry = Entry.ofFields fields := by
  obtain ⟨_, -, same⟩ := exists_of_bind_eq_ok read
  exact (Except.ok.inj same).symm

/-- Every item that was loaded is an object, and its entry is the one that the object stands for. -/
theorem forall₂_of_recordsFrom {index : Nat} (loaded : recordsFrom index items = .ok entries) :
    List.Forall₂ (fun item entry => ∃ fields, item = .object fields ∧ entry = Entry.ofFields fields)
      items entries := by
  induction items generalizing index entries with
  | nil =>
      cases loaded
      exact .nil
  | cons item items ih =>
      cases item with
      | object fields =>
          obtain ⟨entry, read, later⟩ := exists_of_bind_eq_ok loaded
          obtain ⟨others, behind, same⟩ := exists_of_bind_eq_ok later
          obtain rfl := Except.ok.inj same
          exact .cons ⟨fields, rfl, eq_of_readEntry read⟩ (ih behind)
      | _ =>
          obtain ⟨_, -, refused⟩ := exists_of_bind_eq_ok loaded
          cases refused

private theorem exists_items_of_readRecords (read : readRecords text = .ok entries) :
    ∃ document items, Document.read text = .ok document ∧ recordList document = .ok items ∧
      recordsFrom 0 items = .ok entries := by
  unfold readRecords at read
  cases spelled : Document.read text with
  | error fault =>
      rw [spelled] at read
      cases read
  | ok document =>
      rw [spelled] at read
      obtain ⟨items, listed, loaded⟩ := exists_of_bind_eq_ok read
      exact ⟨document, items, rfl, listed, loaded⟩

/-! ## Distinct keys -/

private theorem hasDistinctKeys_fieldValue {fields : Members}
    (distinct : Datum.holdDistinctKeys fields = true) (name : String) :
    (Entry.fieldValue name fields).hasDistinctKeys = true := by
  unfold Entry.fieldValue
  cases found : Dict.get? (Spelling.ofString name) fields with
  | none => rfl
  | some value => exact Datum.holdDistinctKeys_iff.mp distinct _ (Dict.mem_of_get? found)

private theorem hasDistinctKeys_of_requireList (distinct : document.hasDistinctKeys = true)
    (listed : requireList document = .ok items) : ∀ item ∈ items, item.hasDistinctKeys = true := by
  cases document with
  | list held =>
      cases listed
      exact Datum.haveDistinctKeys_iff.mp distinct
  | _ => cases listed

/-- The objects of a document have distinct keys, whether or not they stand in a manifest. -/
theorem hasDistinctKeys_of_recordList (distinct : document.hasDistinctKeys = true)
    (listed : recordList document = .ok items) : ∀ item ∈ items, item.hasDistinctKeys = true := by
  cases document with
  | object manifest =>
      obtain ⟨list, found, listed⟩ := exists_of_bind_eq_ok listed
      refine hasDistinctKeys_of_requireList ?_ listed
      have inner := hasDistinctKeys_fieldValue ((Bool.and_eq_true _ _).mp distinct).2 "contributes"
      unfold contributed at found
      split at found
      · next fields held =>
          rw [held] at inner
          cases found
          exact hasDistinctKeys_fieldValue ((Bool.and_eq_true _ _).mp inner).2 "keybindings"
      · split at found
        · cases found
          rfl
        · cases found
  | _ => exact hasDistinctKeys_of_requireList distinct listed

/-! ## Plain objects -/

variable {fields : Members} {name : String}

/-- The fields of an object that hold something. -/
def filled (fields : Members) : Members :=
  fields.filter fun field => !field.2.isEmpty

/-- The names of the fields that hold a text in every entry. -/
def textNames : List String := ["key", "command", "when"]

/-- **A plain object**: its fields that hold something are fields of an entry, and those that hold a
text in every entry hold one here. -/
def IsPlain (fields : Members) : Prop :=
  ∀ field ∈ filled fields, field.1 = Spelling.ofString "args" ∨
    field.1 ∈ textNames.map Spelling.ofString ∧ ∃ text, field.2 = .str text

private theorem fieldValue_of_mem (distinct : (fields.map Prod.fst).Nodup) {value : Document}
    (member : (Spelling.ofString name, value) ∈ fields) : Entry.fieldValue name fields = value := by
  rw [Entry.fieldValue, (Dict.get?_eq_some_iff distinct).mpr member, Option.getD_some]

private theorem mem_filled_of_fieldValue (full : (Entry.fieldValue name fields).isEmpty = false) :
    (Spelling.ofString name, Entry.fieldValue name fields) ∈ filled fields := by
  refine List.mem_filter.mpr ⟨?_, by rw [full]; rfl⟩
  unfold Entry.fieldValue at full ⊢
  cases found : Dict.get? (Spelling.ofString name) fields with
  | none =>
      rw [found] at full
      cases full
  | some value => exact Dict.mem_of_get? found

/-- The text of a field that is not left out is that of a value that is not empty. -/
theorem fieldValue_full_of_textField
    (full : (Datum.str (Entry.textField name fields)).isEmpty = false) :
    (Entry.fieldValue name fields).isEmpty = false := by
  rw [Bool.eq_false_iff]
  intro empty
  rw [Entry.textField, if_pos empty] at full
  cases full

private theorem textField_of_str {text : List CodePoint}
    (value : Entry.fieldValue name fields = .str text)
    (full : (Datum.str text : Document).isEmpty = false) : Entry.textField name fields = text := by
  rw [Entry.textField, value, full]
  rfl

private theorem mem_rows_iff {entry : Loaded} {row : List CodePoint × Document} :
    row ∈ entry.rows ↔ row = (Spelling.ofString "key", .str entry.key) ∨
      row = (Spelling.ofString "command", .str entry.command) ∨
      row = (Spelling.ofString "when", .str entry.when) ∨
      row = (Spelling.ofString "args", entry.args) := by
  simp only [Entry.rows, List.mem_cons, List.not_mem_nil, or_false]

/-- The fields of an entry are its arguments and texts under their names. -/
theorem named_of_mem_rows {entry : Loaded} {row : List CodePoint × Document}
    (listed : row ∈ entry.rows) : row.1 = Spelling.ofString "args" ∨
      row.1 ∈ textNames.map Spelling.ofString ∧ ∃ text, row.2 = .str text := by
  have named {name : String} (known : name ∈ textNames) :
      (Spelling.ofString name : List CodePoint) ∈ textNames.map Spelling.ofString :=
    List.mem_map_of_mem known
  rcases mem_rows_iff.mp listed with rfl | rfl | rfl | rfl
  · exact Or.inr ⟨named (by decide), entry.key, rfl⟩
  · exact Or.inr ⟨named (by decide), entry.command, rfl⟩
  · exact Or.inr ⟨named (by decide), entry.when, rfl⟩
  · exact Or.inl rfl

/-- What the entry of an object holds under a name is what the object holds there, once it is a text
where the entry has a text. -/
theorem mem_rows_ofFields_iff {row : List CodePoint × Document} :
    row ∈ (Entry.ofFields fields).rows ↔
      (∃ name ∈ textNames, row = (Spelling.ofString name, .str (Entry.textField name fields))) ∨
        row = (Spelling.ofString "args", (Entry.fieldValue "args" fields).orNull) := by
  simp only [mem_rows_iff, Entry.ofFields, textNames, List.mem_cons, List.not_mem_nil, or_false,
    exists_eq_or_imp, exists_eq_left, or_assoc]

/-- **A plain object has the fields of its entry**, up to their order. -/
theorem perm_fields_of_isPlain (distinct : (fields.map Prod.fst).Nodup) (plain : IsPlain fields) :
    (filled fields).Perm (Entry.ofFields fields).fields := by
  have apart : (filled fields).Nodup :=
    ((List.filter_sublist.map Prod.fst).nodup distinct).of_map Prod.fst
  have entryApart : (Entry.ofFields fields).fields.Nodup := by
    rw [Entry.fields_eq_filter]
    exact ((Entry.nodup_keys_rows ofString_injective _).of_map Prod.fst).sublist List.filter_sublist
  refine (List.perm_ext_iff_of_nodup apart entryApart).mpr fun field => ?_
  rw [Entry.fields_eq_filter, List.mem_filter, mem_rows_ofFields_iff]
  obtain ⟨key, value⟩ := field
  constructor
  · intro kept
    obtain ⟨member, full⟩ := List.mem_filter.mp kept
    refine ⟨?_, full⟩
    rw [Bool.not_eq_true'] at full
    rcases plain _ kept with args | ⟨known, text, same⟩
    · right
      change key = _ at args
      subst args
      rw [fieldValue_of_mem distinct member, Datum.orNull, full]
      rfl
    · left
      obtain ⟨name, listed, rfl⟩ := List.mem_map.mp known
      change value = _ at same
      subst same
      exact ⟨name, listed, by rw [textField_of_str (fieldValue_of_mem distinct member) full]⟩
  · rintro ⟨held, full⟩
    rw [Bool.not_eq_true'] at full
    rcases held with ⟨name, listed, same⟩ | same
    · obtain ⟨rfl, rfl⟩ := Prod.mk.inj same
      have valueFull := fieldValue_full_of_textField full
      have stored := mem_filled_of_fieldValue valueFull
      rcases plain _ stored with args | ⟨-, text, spelled⟩
      · rw [ofString_injective args] at listed
        exact absurd listed (by decide)
      · change Entry.fieldValue name fields = _ at spelled
        rw [spelled] at stored valueFull
        rw [textField_of_str spelled valueFull]
        exact stored
    · obtain ⟨rfl, rfl⟩ := Prod.mk.inj same
      by_cases empty : (Entry.fieldValue "args" fields).isEmpty = true
      · rw [Datum.orNull, if_pos empty] at full
        cases full
      · rw [Datum.orNull, if_neg empty]
        exact mem_filled_of_fieldValue (Bool.eq_false_iff.mpr empty)

/-- **An object is alike to what its entry is compared with exactly when it is plain.** -/
theorem alike_filled_iff (distinct : (fields.map Prod.fst).Nodup) {entry : Loaded}
    (same : (Entry.ofFields fields).toValue.sortKeys = entry.toValue.sortKeys) :
    (Datum.object (filled fields)).Alike entry.toValue ↔ IsPlain fields := by
  constructor
  · intro alike field member
    cases alike with
    | object alike =>
        obtain ⟨other, present, like⟩ := alike.exists_of_mem member
        rw [Entry.fields_eq_filter] at present
        refine (named_of_mem_rows (List.mem_filter.mp present).1).imp_right (And.imp_right ?_)
        rintro ⟨text, spelled⟩
        change other = _ at spelled
        subst spelled
        exact ⟨text, like.eq_str⟩
  · intro plain
    exact Datum.alike_object_of_perm (perm_fields_of_isPlain distinct plain) same

/-! ## The check -/

/-- What an empty report says of an object of the file and a compiled record. -/
def Accounted (item : Document) (record : Record) : Prop :=
  ∃ fields, item = .object fields ∧
    (Entry.ofFields fields).toValue.Alike (asLoaded record).toValue ∧
    ((Datum.object (filled fields)).Alike (asLoaded record).toValue ↔ IsPlain fields)

private theorem accounted_of_line {record : Record}
    (distinct : (Datum.object fields).hasDistinctKeys = true)
    (same : line (Entry.ofFields fields) = line (asLoaded record)) :
    Accounted (.object fields) record := by
  have sorted : (Entry.ofFields fields).toValue.sortKeys = (asLoaded record).toValue.sortKeys :=
    Datum.sortKeys_eq_of_sortedLetters same
  have keys : (fields.map Prod.fst).Nodup :=
    of_decide_eq_true ((Bool.and_eq_true _ _).mp distinct).1
  exact ⟨fields, rfl, Datum.alike_of_sortKeys _ _ sorted, alike_filled_iff keys sorted⟩

/-- Objects whose entries have the lines of the records are accounted for, one by one. -/
theorem forall₂_accounted (distinct : ∀ item ∈ items, item.hasDistinctKeys = true)
    (loaded : List.Forall₂ (fun item entry => ∃ fields, item = .object fields ∧
      entry = Entry.ofFields fields) items entries)
    (lines : entries.map line = records.map fun record => line (asLoaded record)) :
    List.Forall₂ Accounted items records := by
  induction loaded generalizing records with
  | nil =>
      rw [List.map_nil, eq_comm, List.map_eq_nil_iff] at lines
      rw [lines]
      exact .nil
  | @cons item entry items entries first _ ih =>
      cases records with
      | nil => cases lines
      | cons record records =>
          obtain ⟨fields, rfl, rfl⟩ := first
          obtain ⟨same, others⟩ := List.cons.inj lines
          obtain ⟨head, tail⟩ := List.forall_mem_cons.mp distinct
          exact .cons (accounted_of_line head same) (ih tail others)

/-- **What an empty report says.** The file holds as many objects as there are compiled records, in
a list of its own or as what a manifest contributes. Place by place, the entry that an object stands
for is alike to the record, and the object itself, without its empty fields, is alike to the record
if and only if it is plain. -/
theorem check_silent (silent : (check text records).result = .ok []) :
    ∃ document items, Document.read text = .ok document ∧ recordList document = .ok items ∧
      items.length = records.length ∧ List.Forall₂ Accounted items records := by
  obtain ⟨entries, read, same⟩ := exists_entries_of_check silent
  obtain ⟨document, items, spelled, listed, loaded⟩ := exists_items_of_readRecords read
  have lines : (records.map asLoaded).map line = entries.map line :=
    compareLines_eq_nil_iff.mp same
  rw [List.map_map] at lines
  have distinct := hasDistinctKeys_of_recordList (Document.hasDistinctKeys_of_read spelled) listed
  have accounted : List.Forall₂ Accounted items records :=
    forall₂_accounted distinct (forall₂_of_recordsFrom loaded) lines.symm
  exact ⟨document, items, spelled, listed, accounted.length_eq, accounted⟩

/-- A file whose entries are the records shows no drift. -/
theorem silent_of_readRecords (read : readRecords text = .ok (records.map asLoaded))
    (writable : ∀ record ∈ records, record.args.isWritable = true) :
    (check text records).result = .ok [] := by
  have same : compare (records.map asLoaded) (records.map asLoaded) = [] :=
    compareLines_eq_nil_iff.mpr rfl
  rw [result_check_of_load (result_load_of_readRecords read) writable, same]
  intro entry member
  obtain ⟨record, inside, rfl⟩ := List.mem_map.mp member
  rw [isWritable_asLoaded]
  exact writable record inside

/-- A record with a key and a command only. -/
def bareRecord : Record := ⟨"a", "b", "", .null⟩

/-- A manifest that contributes the record, with its fields in another order and an empty one. -/
def manifest : Value :=
  .object [("contributes", .object [("keybindings",
    .list [.object [("when", .str ""), ("command", .str "b"), ("key", .str "a")]])])]

theorem check_manifest_silent :
    (check (manifest.indentedText ++ "\n") [bareRecord]).result = .ok [] ∧
      ∃ document items, Document.read (manifest.indentedText ++ "\n") = .ok document ∧
        recordList document = .ok items ∧ items.length = [bareRecord].length ∧
        List.Forall₂ Accounted items [bareRecord] := by
  have read : Document.read (manifest.indentedText ++ "\n") =
      .ok (manifest.map Spelling.ofString) :=
    Document.read_indentedText (by decide) (by decide)
  have entries : readRecords (manifest.indentedText ++ "\n") = .ok ([bareRecord].map asLoaded) := by
    rw [readRecords, read]
    rfl
  have silent := silent_of_readRecords entries (by decide)
  exact ⟨silent, check_silent silent⟩

/-- The record with one field that no entry has. -/
def surplusFields : Fields String :=
  [("key", .str "a"), ("command", .str "b"), ("mac", .str "cmd+a")]

/-- A file with the record and a field that no record has. -/
def surplusText : String :=
  "[\n  \x7b\n    \"key\": \"a\",\n    \"command\": \"b\",\n    \"mac\": \"cmd+a\"\n  \x7d\n]\n"

/-- **A field that no entry has is not reported**, though the object of the file is not alike to the
record. -/
theorem check_surplus_silent :
    (check surplusText [bareRecord]).result = .ok [] ∧
      ∃ document fields, Document.read surplusText = .ok document ∧
        recordList document = .ok [.object fields] ∧
        ¬(Datum.object (filled fields)).Alike (asLoaded bareRecord).toValue := by
  have text : surplusText = (Datum.list [.object surplusFields] : Value).indentedText ++ "\n" := by
    decide
  have read : Document.read surplusText =
      .ok (.list [.object (Datum.mapFields Spelling.ofString surplusFields)]) := by
    rw [text]
    exact Document.read_indentedText (by decide) (by decide)
  have entries : readRecords surplusText = .ok ([bareRecord].map asLoaded) := by
    rw [readRecords, read]
    rfl
  refine ⟨silent_of_readRecords entries (by decide), _, _, read, rfl, ?_⟩
  intro alike
  cases alike with
  | object alike =>
      have surplus : (Spelling.ofString "mac", .str (Spelling.ofString "cmd+a")) ∈
          filled (Datum.mapFields Spelling.ofString surplusFields) :=
        List.mem_of_getElem? (i := 2) rfl
      obtain ⟨other, present, -⟩ := alike.exists_of_mem surplus
      have name : (Spelling.ofString "mac" : List CodePoint) ∈
          (asLoaded bareRecord).fields.map Prod.fst := List.mem_map_of_mem present
      exact absurd name (by decide)

end Drift

end KeyChords
