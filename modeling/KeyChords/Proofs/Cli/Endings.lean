import KeyChords.Files.Disk
import KeyChords.Proofs.Cli.Stages
import KeyChords.Proofs.Drift.RoundTrip
import KeyChords.Proofs.Linear.Reference

/-! # How a run ends

A run ends with one of the documented codes, or it breaks off. It breaks off where an option was
given nothing, or a name with a null character, in the place of a text that is needed, and where the
file to be checked is no UTF-8 (`KeyChords.Cli.runOn_job_breaks_iff`). A file that cannot be read,
or whose text is no list of records, is a failure with a message.
-/

namespace KeyChords.Cli

open Debug Files Text

/-- **How a run breaks off.** A leader was given no text; or the file to write, or the one to check,
has no name; or the bytes of the file to check are no UTF-8. The check is made after the write. -/
inductive Options.Breaks {σ : Type} [FileSystem σ] (options : Options) (catalog : Catalog)
    (system : σ) : Fault → Prop
  | leader {settings : Settings} (set : options.settings = .ok settings)
      (empty : .emptied ∈ options.leaders) :
      options.Breaks catalog system (.unhashable Given.emptyKind)
  | out {records : List Record} (compiles : options.CompilesTo catalog (.ok records))
      {file : Given} (named : options.out = some file) (nameless : file.path? = none) :
      options.Breaks catalog system (file.nameless "write_text")
  | check {records : List Record} (compiles : options.CompilesTo catalog (.ok records))
      {text : String} (rendered : fileText records = .ok text)
      {kept : σ} (writes : options.Writes text system kept) {file : Given}
      (named : options.check = some file) (nameless : file.path? = none) :
      options.Breaks catalog system (file.nameless "read_text")
  | malformed {records : List Record} (compiles : options.CompilesTo catalog (.ok records))
      {text : String} (rendered : fileText records = .ok text)
      {kept : σ} (writes : options.Writes text system kept) {file : Given}
      (named : options.check = some file) {path : Path} (located : file.path? = some path)
      {fault : Utf8.Malformed} (found : findingAt kept path = .malformed fault) :
      options.Breaks catalog system (.undecodable fault)

/-- The outcome of a run that fails with a message, after something that was told. -/
def failureOf (told message : String) : Outcome where
  status := .failure
  errors := told ++ lines ["error: " ++ message]

section Breaks

variable {σ : Type} [FileSystem σ] {options : Options} {catalog : Catalog} {settings : Settings}
  {terminal : Bool} {said output : String} {records : List Record} {system kept : σ}
  {fault : Fault} {file : Given} {path : Path}

/-- A check of a named file breaks off only on bytes that are no text. -/
theorem malformed_of_checked (named : options.check = some file) (located : file.path? = some path)
    (broke : ((checked options settings terminal said output records).runOn system).1 =
      .error fault) :
    ∃ malformed, findingAt system path = .malformed malformed ∧ fault = .undecodable malformed := by
  rcases runOn_checked_cases options settings terminal said output records system named located with
    ⟨malformed, found, ran⟩ | ⟨outcome, ran, -⟩
  · rw [ran] at broke
    cases broke
    exact ⟨malformed, found, rfl⟩
  · rw [ran] at broke
    cases broke

private theorem breaks_of_emitted (compiles : options.CompilesTo catalog (.ok records))
    (broke : ((emitted options settings terminal said records).runOn system).1 = .error fault) :
    options.Breaks catalog system fault := by
  obtain ⟨text, rendered⟩ := exists_fileText compiles
  rcases writes_cases options text system with
    ⟨kept, writes⟩ | ⟨file, named, nameless | ⟨path, obstacle, located, refused⟩⟩
  · rw [runOn_emitted rendered writes] at broke
    cases asked : options.check with
    | none =>
        rw [runOn_checked_of_none asked] at broke
        cases broke
    | some file =>
        cases located : file.path? with
        | none =>
            rw [runOn_checked_of_nameless asked located] at broke
            cases broke
            exact .check compiles rendered writes asked located
        | some path =>
            obtain ⟨malformed, found, rfl⟩ := malformed_of_checked asked located broke
            exact .malformed compiles rendered writes asked located found
  · rw [runOn_emitted_of_nameless rendered named nameless] at broke
    cases broke
    exact .out compiles named nameless
  · rw [runOn_emitted_of_blocked rendered named located refused] at broke
    cases broke

private theorem breaks_of_runOn
    (broke : ((options.job catalog terminal).runOn system).1 = .error fault) :
    options.Breaks catalog system fault := by
  rcases job_cases options catalog terminal with
    ⟨message, job⟩ | ⟨settings, set, empty⟩ | ⟨refused | records, compiles⟩
  · rw [job] at broke
    cases broke
  · rw [job_of_emptied set empty] at broke
    cases broke
    exact .leader set empty
  · obtain ⟨said, job⟩ := job_of_fault compiles
    rw [job] at broke
    cases broke
  · obtain ⟨settings, said, job⟩ := job_of_records compiles
    rw [job] at broke
    exact breaks_of_emitted compiles broke

private theorem runOn_of_breaks (breaks : options.Breaks catalog system fault) (terminal : Bool) :
    ((options.job catalog terminal).runOn system).1 = .error fault := by
  cases breaks with
  | leader set empty =>
      rw [job_of_emptied set empty]
      rfl
  | out compiles named nameless =>
      obtain ⟨text, rendered⟩ := exists_fileText compiles
      obtain ⟨settings, said, job⟩ := job_of_records compiles
      rw [job, runOn_emitted_of_nameless rendered named nameless]
  | check compiles rendered writes named nameless =>
      obtain ⟨settings, said, job⟩ := job_of_records compiles
      rw [job, runOn_emitted rendered writes, runOn_checked_of_nameless named nameless]
  | malformed compiles rendered writes named located found =>
      obtain ⟨settings, said, job⟩ := job_of_records compiles
      rw [job, runOn_emitted rendered writes, runOn_checked named located, found]

end Breaks

/-- **A run breaks off in the stated cases only**, on whatever file system, and otherwise ends with
one of the documented codes. Let a check be reached, with a name for its file. If the file cannot be
read, or its text cannot be loaded, then the run is a failure and says so. -/
theorem runOn_job_breaks_iff {σ : Type} [FileSystem σ] (options : Options) (catalog : Catalog)
    (terminal : Bool) (system : σ) :
    (∀ fault, ((options.job catalog terminal).runOn system).1 = .error fault ↔
        options.Breaks catalog system fault) ∧
      ((¬ ∃ fault, options.Breaks catalog system fault) →
        ∃ outcome, ((options.job catalog terminal).runOn system).1 = .ok outcome ∧
          outcome.status.code ∈ [0, 1, 2, 99]) ∧
      ∀ records text kept file path, options.CompilesTo catalog (.ok records) →
        fileText records = .ok text → options.Writes text system kept →
        options.check = some file → file.path? = some path →
        (∀ obstacle, findingAt kept path = .blocked obstacle →
          ∃ told, ((options.job catalog terminal).runOn system).1 = .ok (failureOf told
            ("failed to read '" ++ path.shown ++ "': " ++ obstacle.message path))) ∧
        ∀ found fault, findingAt kept path = .text found →
          (Drift.check found records).result = .error fault →
          ∃ told, ((options.job catalog terminal).runOn system).1 =
            .ok (failureOf told (path.shown ++ ": " ++ fault.message)) := by
  refine ⟨fun fault => ⟨breaks_of_runOn, fun breaks => runOn_of_breaks breaks terminal⟩, ?_, ?_⟩
  · intro sound
    cases ran : ((options.job catalog terminal).runOn system).1 with
    | error fault => exact absurd ⟨fault, breaks_of_runOn ran⟩ sound
    | ok outcome =>
        refine ⟨outcome, rfl, ?_⟩
        cases outcome.status <;> decide
  · intro records text kept file path compiles rendered writes named located
    obtain ⟨settings, said, job⟩ := job_of_records compiles
    rw [job, runOn_emitted rendered writes, runOn_checked named located]
    refine ⟨?_, ?_⟩
    · intro obstacle found
      rw [found]
      exact ⟨said, rfl⟩
    · intro found fault read refused
      rw [read]
      obtain ⟨told, ran⟩ := runOn_compared_of_fault refused settings terminal said path kept
      exact ⟨told, congrArg Prod.fst ran⟩

/-- The options of a command line that names an empty keymap and a file to check. -/
def emptyChecked (file : String) : Options where
  keymap := .text "keybindings_compiler.table:BindingTable"
  check := some (.text file)

private theorem emptyChecked_compilesTo (file : String) :
    (emptyChecked file).CompilesTo Catalog.stock (.ok []) := by
  let leaders : Leaders := ⟨["ctrl+x"], by decide, by decide +kernel⟩
  obtain ⟨records, compiled, named⟩ :
      ∃ records, (({} : Keymap).compile leaders).result = .ok records ∧
        records.map Entry.identity = [] := by
    apply Keymap.exists_records_of_identities
    simp only [Keymap.result_compile, Table.linearize_result, Linear.moves_eq_flatMap,
      Linear.lines, ascending_eq_insertionSort]
    rfl
  rw [List.map_eq_nil_iff.mp named] at compiled
  have loaded : ((emptyChecked file).load Catalog.stock).result = .ok {} := rfl
  refine ⟨{}, leaders, rfl, rfl, ?_⟩
  rw [Options.compile, Report.result_bind, loaded]
  exact compiled

private theorem fileText_nil : fileText [] = .ok "[]\n" :=
  fileText_eq_ok_iff.mpr ⟨fun _ member => absurd member List.not_mem_nil, by decide +kernel⟩

/-- The contents of a file that is no list of records. -/
def strayText : String := "null\n"

private theorem result_check_strayText (records : List Record) :
    (Drift.check strayText records).result = .error .documentForm := by
  have written : strayText = (.null : Json.Value).indentedText ++ "\n" := by decide
  have read : Json.Document.read strayText = .ok .null := by
    rw [written]
    exact Json.Document.read_indentedText (by decide) (by decide)
  have unread : (Drift.load strayText).result = .error .documentForm := by
    simp only [Drift.load, Report.result_bind, Drift.readRecords, read]
    rfl
  rw [Drift.check, Report.result_bind, unread]
  rfl

/-- A disk with one file, where one stands in its folder. -/
def loneFile (bytes : List UInt8) : Disk where
  files := [(["tmp", "u"], bytes)]
  here := ["tmp"]

/-- A file to check that is missing, and one that is no list of records, both named from the
root. -/
theorem runOn_job_emptyChecked :
    (¬ ∃ fault, (emptyChecked "/u").Breaks Catalog.stock (loneFile []) fault) ∧
      (∃ told, (((emptyChecked "/u").job Catalog.stock false).runOn (loneFile [])).1 =
        .ok (failureOf told
          "failed to read '/u': [Errno 2] No such file or directory: '/u'")) ∧
      ∃ told, (((emptyChecked "/tmp/u").job Catalog.stock true).runOn
        (loneFile [0x6e, 0x75, 0x6c, 0x6c, 0x0a])).1 =
        .ok (failureOf told "/tmp/u: expected a top-level array of keybinding objects") := by
  have located (file : String) (sound : '\x00' ∉ file.toList) :
      (Given.text file).path? = some (Path.ofText file) := if_neg sound
  obtain ⟨told, missing⟩ :=
    ((runOn_job_breaks_iff (emptyChecked "/u") Catalog.stock false (loneFile [])).2.2
      [] _ _ _ _ (emptyChecked_compilesTo "/u") fileText_nil (.nowhere rfl) rfl
        (located "/u" (by decide))).1 .missing rfl
  have unread : "failed to read '" ++ (Path.ofText "/u").shown ++ "': " ++
      Obstacle.missing.message (Path.ofText "/u") =
        "failed to read '/u': [Errno 2] No such file or directory: '/u'" := by decide +kernel
  rw [unread] at missing
  have sound : ¬ ∃ fault, (emptyChecked "/u").Breaks Catalog.stock (loneFile []) fault := by
    rintro ⟨fault, breaks⟩
    rw [runOn_of_breaks breaks] at missing
    cases missing
  obtain ⟨spoken, refused⟩ :=
    ((runOn_job_breaks_iff (emptyChecked "/tmp/u") Catalog.stock true
      (loneFile [0x6e, 0x75, 0x6c, 0x6c, 0x0a])).2.2
        [] _ _ _ _ (emptyChecked_compilesTo "/tmp/u") fileText_nil (.nowhere rfl) rfl
          (located "/tmp/u" (by decide))).2 strayText .documentForm rfl
            (result_check_strayText [])
  have unfit : (Path.ofText "/tmp/u").shown ++ ": " ++ Fault.documentForm.message =
      "/tmp/u: expected a top-level array of keybinding objects" := by decide +kernel
  rw [unfit] at refused
  exact ⟨sound, ⟨told, missing⟩, spoken, refused⟩

/-- **A byte that starts no character ends the run without a code**, though the file that it stands
in was named and read. -/
theorem program_undecodable :
    ((program Catalog.stock false
        ["-k", "keybindings_compiler.table:BindingTable", "-c", "u"]).runOn
      (loneFile [0xff])).1 = .error (.undecodable ⟨0, 0xff, 1, .invalidStart⟩) := by
  have read : Options.read ["-k", "keybindings_compiler.table:BindingTable", "-c", "u"] =
      .ok (emptyChecked "u") := by cbv
  have located : (Given.text "u").path? = some (Path.ofText "u") := rfl
  rw [program, read]
  exact runOn_of_breaks (.malformed (emptyChecked_compilesTo "u") fileText_nil (.nowhere rfl)
    rfl located rfl) false

end KeyChords.Cli
