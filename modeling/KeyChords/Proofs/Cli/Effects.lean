import KeyChords.Files.Disk
import KeyChords.Proofs.Cli.Stages
import KeyChords.Proofs.Drift.RoundTrip
import KeyChords.Proofs.Linear.Reference

/-! # What a run leaves

A run that ends has written nothing unless its keymap was compiled. Then the file that was named for
the records holds their text, or the output does if no file was to be written or checked; and the
status tells what a check reports of the file that was to be checked, as it stands after the write
(`KeyChords.Cli.effects_of_runOn`). This is so on every file system that keeps what it is given.
-/

namespace KeyChords.Cli

open Debug Files Text

section Stages

variable {σ : Type} [FileSystem σ] {options : Options} {settings : Settings} {terminal : Bool}
  {said output text : String} {records : List Record} {system left : σ} {outcome : Outcome}
  {file : Given} {path : Path}

private theorem tells_of_checked (named : options.check = some file)
    (located : file.path? = some path)
    (returned : (checked options settings terminal said output records).runOn system =
      (.ok outcome, left)) :
    left = system ∧ outcome.output = "" ∧ Tells outcome.status (reportAt system path records) := by
  rcases runOn_checked_cases options settings terminal said output records system named located with
    ⟨malformed, found, ran⟩ | ⟨reached, ran, silent, tells⟩
  · rw [ran] at returned
    cases returned
  · rw [ran] at returned
    cases returned
    exact ⟨rfl, silent, tells⟩

/-- The file that was written to holds the records. -/
theorem read_of_writes [LawfulFileSystem σ] {kept : σ} (writes : options.Writes text system kept)
    (named : options.out = some file) (located : file.path? = some path) :
    FileSystem.read kept path = .ok (Utf8.encode text) := by
  cases writes with
  | nowhere unasked =>
      rw [unasked] at named
      cases named
  | file other place written =>
      obtain rfl := Option.some.inj (named.symm.trans other)
      obtain rfl := Option.some.inj (located.symm.trans place)
      exact LawfulFileSystem.read_write written

/-- **What a run leaves when the records are written**: the files are those that writing leaves, and
a file that was named holds the records. The output is empty unless they belong there, and the
status tells the report of a check, if one was asked for. -/
structure Leaves (options : Options) (records : List Record) (text : String) (kept left : σ)
    (outcome : Outcome) : Prop where
  files : left = kept
  written : ∀ file path, options.out = some file → file.path? = some path →
    FileSystem.read left path = .ok (Utf8.encode text)
  output : outcome.output = options.printed text
  unchecked : options.check = none → outcome.status = .success
  checked : ∀ file path, options.check = some file → file.path? = some path →
    Tells outcome.status (reportAt left path records)

/-- **What a run leaves when the records cannot be written**: a failure, no output, and whatever a
write that fails may leave. -/
structure GivesUp (options : Options) (text : String) (system left : σ) (outcome : Outcome) :
    Prop where
  status : outcome.status = .failure
  output : outcome.output = ""
  files : ∃ file path, options.out = some file ∧ file.path? = some path ∧
    left = (FileSystem.write system path (Utf8.encode text)).2

private theorem leaves_of_writes [LawfulFileSystem σ] {kept : σ}
    (rendered : fileText records = .ok text)
    (writes : options.Writes text system kept)
    (returned : (emitted options settings terminal said records).runOn system =
      (.ok outcome, left)) :
    Leaves options records text kept left outcome ∧ outcome.status ≠ .usage := by
  rw [runOn_emitted rendered writes] at returned
  cases asked : options.check with
  | none =>
      rw [runOn_checked_of_none asked] at returned
      cases returned
      refine ⟨⟨rfl, fun _ _ => read_of_writes writes, rfl, fun _ => rfl, ?_⟩, nofun⟩
      intro file path named
      cases asked.symm.trans named
  | some file =>
      cases located : file.path? with
      | none =>
          rw [runOn_checked_of_nameless asked located] at returned
          cases returned
      | some path =>
          obtain ⟨rfl, silent, tells⟩ := tells_of_checked asked located returned
          have printed : options.printed text = "" := by
            simp only [Options.printed, asked, reduceCtorEq, and_false, if_false]
          refine ⟨⟨rfl, fun _ _ => read_of_writes writes, silent.trans printed.symm, ?_, ?_⟩,
            tells.ne_usage⟩
          · intro unasked
            cases asked.symm.trans unasked
          · intro other place named found
            obtain rfl := Option.some.inj (asked.symm.trans named)
            obtain rfl := Option.some.inj (located.symm.trans found)
            exact tells

private theorem givesUp_of_blocked (rendered : fileText records = .ok text)
    (blocked : ¬ ∃ kept, options.Writes text system kept)
    (returned : (emitted options settings terminal said records).runOn system =
      (.ok outcome, left)) :
    GivesUp options text system left outcome := by
  rcases writes_cases options text system with
    writes | ⟨file, named, nameless | ⟨path, obstacle, located, refused⟩⟩
  · exact absurd writes blocked
  · rw [runOn_emitted_of_nameless rendered named nameless] at returned
    cases returned
  · rw [runOn_emitted_of_blocked rendered named located refused] at returned
    cases returned
    exact ⟨rfl, rfl, file, path, named, located, rfl⟩

end Stages

/-- **The effects of a run are those that its status tells.** Let a run with some options return, on
a file system that keeps what it is given. If the options are refused, or the keymap cannot be
loaded or compiled, nothing is written, neither to a file nor to the output. If records are
compiled, they have a text. When the file that is named for them cannot be written, the run gives
up; otherwise it leaves what it has to. -/
theorem effects_of_runOn {σ : Type} [FileSystem σ] [LawfulFileSystem σ] {options : Options}
    {catalog : Catalog} {terminal : Bool} {system left : σ} {outcome : Outcome}
    (returned : (options.job catalog terminal).runOn system = (.ok outcome, left)) :
    (outcome.status = .usage → left = system ∧ outcome.output = "") ∧
      (∀ fault, options.CompilesTo catalog (.error fault) →
        left = system ∧ outcome.output = "" ∧ outcome.status = .failure) ∧
      ∀ records, options.CompilesTo catalog (.ok records) →
        ∃ text, fileText records = .ok text ∧
          ((¬ ∃ kept, options.Writes text system kept) →
            GivesUp options text system left outcome) ∧
          ∀ kept, options.Writes text system kept →
            Leaves options records text kept left outcome := by
  have ofFault {fault : Fault} (compiles : options.CompilesTo catalog (.error fault)) :
      left = system ∧ outcome.output = "" ∧ outcome.status = .failure := by
    obtain ⟨said, job⟩ := job_of_fault compiles
    rw [job] at returned
    cases returned
    exact ⟨rfl, rfl, rfl⟩
  refine ⟨?_, fun fault => ofFault, ?_⟩
  · intro usage
    rcases job_cases options catalog terminal with
      ⟨message, job⟩ | ⟨settings, set, empty⟩ | ⟨fault | records, compiles⟩
    · rw [job] at returned
      cases returned
      exact ⟨rfl, rfl⟩
    · rw [job_of_emptied set empty] at returned
      cases returned
    · obtain ⟨untouched, silent, -⟩ := ofFault compiles
      exact ⟨untouched, silent⟩
    · obtain ⟨text, rendered⟩ := exists_fileText compiles
      obtain ⟨settings, said, job⟩ := job_of_records compiles
      rw [job] at returned
      by_cases writes : ∃ kept, options.Writes text system kept
      · obtain ⟨kept, writes⟩ := writes
        exact absurd usage (leaves_of_writes rendered writes returned).2
      · cases (givesUp_of_blocked rendered writes returned).status.symm.trans usage
  · intro records compiles
    obtain ⟨text, rendered⟩ := exists_fileText compiles
    obtain ⟨settings, said, job⟩ := job_of_records compiles
    rw [job] at returned
    exact ⟨text, rendered, fun blocked => givesUp_of_blocked rendered blocked returned,
      fun kept writes => (leaves_of_writes rendered writes returned).1⟩

/-- A keymap with one rule. -/
def indenting : Keymap where
  table := Table.added ∅ [("tab", ⟨.always, .run (.invoke "indent" .null)⟩)]

/-- A catalog whose one module builds the keymap. -/
def indentingCatalog : Catalog := [⟨"fixture", [("build", pure (.keymap indenting))]⟩]

/-- The record of the keymap's one rule. -/
def indentingRecord : Record := ⟨"tab", "indent", "", .null⟩

/-- The text of the keymap's file. -/
def indentingText : String := (fileValue [indentingRecord]).indentedText ++ "\n"

private theorem fileText_indentingRecord : fileText [indentingRecord] = .ok indentingText :=
  fileText_eq_ok_iff.mpr ⟨by decide, rfl⟩

/-- The options of a command line that names one file to write and to check: from the root, and from
the folder where one stands. -/
def writtenAndChecked : Options where
  keymap := .text "fixture:build"
  out := some (.text "/etc/keys")
  check := some (.text "../etc/keys")

/-- A disk with two folders, in one of which one stands. -/
def twoFolders : Disk where
  folders := [["etc"]]
  here := ["home"]

private theorem writtenAndChecked_compilesTo :
    writtenAndChecked.CompilesTo indentingCatalog (.ok [indentingRecord]) := by
  let leaders : Leaders := ⟨["ctrl+x"], by decide, by decide +kernel⟩
  have compiled : (indenting.compile leaders).result = .ok [indentingRecord] := by
    simp only [Keymap.result_compile, Table.linearize_result, Linear.moves_eq_flatMap,
      Linear.lines, ascending_eq_insertionSort]
    rfl
  have loaded : (writtenAndChecked.load indentingCatalog).result = .ok indenting := rfl
  refine ⟨{}, leaders, rfl, rfl, ?_⟩
  rw [Options.compile, Report.result_bind, loaded]
  exact compiled

/-- The disk with the records. -/
def indentedDisk : Disk :=
  twoFolders.put ["etc", "keys"] (Utf8.encode indentingText)

private theorem writtenAndChecked_writes :
    writtenAndChecked.Writes indentingText twoFolders indentedDisk :=
  .file rfl (show (Given.text "/etc/keys").path? = some (Path.ofText "/etc/keys") from rfl) rfl

private theorem findingAt_indentedDisk :
    findingAt indentedDisk (Path.ofText "../etc/keys") = .text indentingText :=
  findingAt_of_read rfl (by decide +kernel)

/-- The file is checked as it stands after it was written, by whatever path it is named. -/
theorem effects_of_writtenAndChecked :
    ∃ outcome, (writtenAndChecked.job indentingCatalog true).runOn twoFolders =
        (.ok outcome, indentedDisk) ∧
      outcome.status = .success ∧ outcome.output = "" ∧
      FileSystem.read indentedDisk (Path.ofText "/etc/keys") =
        .ok (Utf8.encode indentingText) := by
  have compiles := writtenAndChecked_compilesTo
  have writes := writtenAndChecked_writes
  have located : (Given.text "../etc/keys").path? = some (Path.ofText "../etc/keys") := rfl
  have matching : (Drift.check indentingText [indentingRecord]).result = .ok [] :=
    Drift.result_check_fileText (by decide) fileText_indentingRecord
  obtain ⟨settings, said, job⟩ := job_of_records compiles
  obtain ⟨outcome, ran, -, -⟩ := runOn_compared_of_report matching settings true said
    (Path.ofText "../etc/keys") indentedDisk
  have returned : (writtenAndChecked.job indentingCatalog true).runOn twoFolders =
      (.ok outcome, indentedDisk) := by
    rw [job, runOn_emitted fileText_indentingRecord writes, runOn_checked rfl located,
      findingAt_indentedDisk]
    exact ran
  obtain ⟨text, rendered, -, leavesAll⟩ := (effects_of_runOn returned).2.2 _ compiles
  obtain rfl : indentingText = text :=
    Except.ok.inj (fileText_indentingRecord.symm.trans rendered)
  have leaves := leavesAll _ writes
  have report : reportAt indentedDisk (Path.ofText "../etc/keys") [indentingRecord] = some [] := by
    simp only [reportAt, findingAt_indentedDisk, matching, Except.toOption]
  exact ⟨outcome, returned, (leaves.checked _ _ rfl located).success.mpr report, leaves.output,
    leaves.written _ _ rfl rfl⟩

end KeyChords.Cli
