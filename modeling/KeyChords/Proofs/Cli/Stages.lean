import KeyChords.Cli.Program
import KeyChords.Proofs.Linear.Claims
import KeyChords.Proofs.Record.FileText

/-! # The stages of a run

A run compiles, then writes, then checks. What each stage does on a file system is described here
once, by what it finds there: the options may name no file, the file system may not take or give it,
its bytes may be no text, and the text may be no list of records. Nothing is assumed of the file
system.
-/

namespace KeyChords.Cli

open Debug Files Text

/-! ## Named files -/

/-- The path that an option names a file by. There is none when the option was given nothing, or a
name with a null character. -/
def Given.path? : Given → Option Path
  | .emptied => none
  | .text name => if '\x00' ∈ name.toList then none else some (Path.ofText name)

/-- The fault of an option that names no file where one is needed. -/
def Given.nameless (purpose : String) : Given → Fault
  | .emptied => .absentMember Given.emptyKind purpose
  | .text _ => .nullInName

section Files

variable {file : Given} {path : Path}

private theorem withFile_of_path? (named : file.path? = some path) (said purpose : String)
    (next : Path → Job) : withFile said purpose file next = next path := by
  cases file with
  | emptied => cases named
  | text name =>
      rw [Given.path?] at named
      split at named
      · cases named
      · next sound =>
          cases named
          exact if_neg sound

private theorem withFile_of_nameless (nameless : file.path? = none) (said purpose : String)
    (next : Path → Job) :
    withFile said purpose file next = .brokeOff said (file.nameless purpose) := by
  cases file with
  | emptied => rfl
  | text name =>
      rw [Given.path?] at nameless
      split at nameless
      · next null => exact if_pos null
      · cases nameless

end Files

/-! ## Checking -/

/-- **What a check finds** where a file should be. -/
inductive Finding where
  | blocked (obstacle : Obstacle)
  | malformed (fault : Utf8.Malformed)
  | text (text : String)

/-- What a check finds under a path. The text of a file is what its bytes encode, with line feeds at
the ends of its lines. -/
def findingAt {σ : Type} [FileSystem σ] (system : σ) (path : Path) : Finding :=
  match FileSystem.read system path with
  | .error obstacle => .blocked obstacle
  | .ok bytes =>
    match Utf8.decode bytes with
    | .error fault => .malformed fault
    | .ok text => .text (String.ofList (plainNewlines text.toList))

/-- A text without carriage returns is found in the bytes that encode it. -/
theorem findingAt_of_read {σ : Type} [FileSystem σ] {system : σ} {path : Path} {text : String}
    (read : FileSystem.read system path = .ok (Utf8.encode text)) (plain : '\r' ∉ text.toList) :
    findingAt system path = .text text := by
  simp only [findingAt, read, Utf8.decode_encode, plainNewlines_of_not_mem plain,
    String.ofList_toList]

/-- What a check reports of a file, if the file can be read, decoded and loaded. -/
def reportAt {σ : Type} [FileSystem σ] (system : σ) (path : Path) (records : List Record) :
    Option (List String) :=
  match findingAt system path with
  | .text text => (Drift.check text records).result.toOption
  | _ => none

/-- **What a status tells of a report**, if there is one. -/
structure Tells (status : Status) (report : Option (List String)) : Prop where
  drift : status = .drift ↔ ∃ lines, report = some lines ∧ lines ≠ []
  success : status = .success ↔ report = some []
  failure : status = .failure ↔ report = none

private theorem tells_none : Tells .failure none :=
  ⟨by simp, by simp, by simp⟩

private theorem tells_some (lines : List String) :
    Tells (if lines = [] then .success else .drift) (some lines) := by
  cases lines with
  | nil => exact ⟨by simp, by simp, by simp⟩
  | cons line lines => exact ⟨by simp, by simp, by simp⟩

/-- A status that tells of a report is not the one of misuse. -/
theorem Tells.ne_usage {status : Status} {report : Option (List String)}
    (tells : Tells status report) : status ≠ .usage := by
  rintro rfl
  cases report with
  | none => cases tells.failure.mpr rfl
  | some lines =>
      cases lines with
      | nil => cases tells.success.mpr rfl
      | cons line lines => cases tells.drift.mpr ⟨_, rfl, List.cons_ne_nil line lines⟩

section Checking

variable {σ : Type} [FileSystem σ] {options : Options} {settings : Settings} {terminal : Bool}
  {said output : String} {records : List Record} {system : σ} {file : Given} {path : Path}

/-- A file whose text does not load ends the comparison with a message, and writes nothing. -/
theorem runOn_compared_of_fault {text : String} {fault : Fault}
    (refused : (Drift.check text records).result = .error fault) (settings : Settings)
    (terminal : Bool) (said : String) (path : Path) (system : σ) :
    ∃ told, (compared settings terminal said path records text).runOn system =
      (failed .failure told (path.shown ++ ": " ++ fault.message)).runOn system := by
  simp only [compared, refused]
  exact ⟨_, rfl⟩

/-- A file whose text loads ends the comparison with a status that tells whether it has drifted. -/
theorem runOn_compared_of_report {text : String} {report : List String}
    (reported : (Drift.check text records).result = .ok report) (settings : Settings)
    (terminal : Bool) (said : String) (path : Path) (system : σ) :
    ∃ outcome,
      (compared settings terminal said path records text).runOn system = (.ok outcome, system) ∧
        outcome.output = "" ∧ outcome.status = if report = [] then .success else .drift := by
  cases report with
  | nil =>
      simp only [compared, reported]
      exact ⟨_, rfl, rfl, rfl⟩
  | cons line report =>
      simp only [compared, reported]
      exact ⟨_, rfl, rfl, rfl⟩

/-- Without a file to check, a run ends well. -/
theorem runOn_checked_of_none (unasked : options.check = none) :
    (checked options settings terminal said output records).runOn system =
      (.ok { status := .success, output, errors := said }, system) := by
  rw [checked, unasked]
  rfl

/-- A check of a name that no file can have breaks off. -/
theorem runOn_checked_of_nameless (named : options.check = some file)
    (nameless : file.path? = none) :
    (checked options settings terminal said output records).runOn system =
      (.error (file.nameless "read_text"), system) := by
  simp only [checked, named, withFile_of_nameless nameless, Job.runOn]

/-- A check is settled by what is found under the name of its file. -/
theorem runOn_checked (named : options.check = some file) (located : file.path? = some path) :
    (checked options settings terminal said output records).runOn system =
      match findingAt system path with
      | .blocked obstacle =>
        (failed .failure said
          ("failed to read '" ++ path.shown ++ "': " ++ obstacle.message path)).runOn system
      | .malformed fault => (.error (.undecodable fault), system)
      | .text text => (compared settings terminal said path records text).runOn system := by
  simp only [checked, named, withFile_of_path? located, Job.runOn, findingAt]
  cases FileSystem.read system path with
  | error obstacle => rfl
  | ok bytes =>
      dsimp only
      cases Utf8.decode bytes with
      | error fault => rfl
      | ok text => rfl

/-- **A check breaks off on bytes that are no text, or it ends.** It leaves all files as they are
and the output empty, and its status tells the report. -/
theorem runOn_checked_cases (options : Options) (settings : Settings) (terminal : Bool)
    (said output : String) (records : List Record) (system : σ) (named : options.check = some file)
    (located : file.path? = some path) :
    (∃ malformed, findingAt system path = .malformed malformed ∧
        (checked options settings terminal said output records).runOn system =
          (.error (.undecodable malformed), system)) ∨
      ∃ outcome, (checked options settings terminal said output records).runOn system =
          (.ok outcome, system) ∧
        outcome.output = "" ∧ Tells outcome.status (reportAt system path records) := by
  rw [runOn_checked named located]
  unfold reportAt
  cases findingAt system path with
  | blocked obstacle => exact Or.inr ⟨_, rfl, rfl, tells_none⟩
  | malformed malformed => exact Or.inl ⟨malformed, rfl, rfl⟩
  | text text =>
      dsimp only
      cases judged : (Drift.check text records).result with
      | error fault =>
          obtain ⟨told, ran⟩ := runOn_compared_of_fault judged settings terminal said path system
          exact Or.inr ⟨_, ran, rfl, tells_none⟩
      | ok report =>
          obtain ⟨outcome, ran, silent, status⟩ :=
            runOn_compared_of_report judged settings terminal said path system
          exact Or.inr ⟨outcome, ran, silent, status ▸ tells_some report⟩

end Checking

/-! ## Writing -/

/-- **The files that writing leaves**: as they were when no file is named for the records, else with
what a write that succeeds has changed. -/
inductive Options.Writes {σ : Type} [FileSystem σ] (options : Options) (text : String)
    (system : σ) : σ → Prop
  | nowhere (unasked : options.out = none) : options.Writes text system system
  | file {file : Given} {path : Path} (named : options.out = some file)
      (located : file.path? = some path)
      (written : (FileSystem.write system path (Utf8.encode text)).1 = none) :
      options.Writes text system (FileSystem.write system path (Utf8.encode text)).2

/-- What is written to the output: the records, if there is neither a file for them nor one to
check. -/
def Options.printed (options : Options) (text : String) : String :=
  if options.out = none ∧ options.check = none then text else ""

section Writing

variable {σ : Type} [FileSystem σ] {options : Options} {settings : Settings} {terminal : Bool}
  {said text : String} {records : List Record} {system left : σ} {file : Given} {path : Path}
  {obstacle : Obstacle}

/-- What is emitted is left where the options say, and the check runs on what is then there. -/
theorem runOn_emitted (written : fileText records = .ok text)
    (writes : options.Writes text system left) :
    (emitted options settings terminal said records).runOn system =
      (checked options settings terminal said (options.printed text) records).runOn left := by
  cases writes with
  | nowhere unasked =>
      have printed : options.printed text = if options.check.isNone then text else "" := by
        simp only [Options.printed, unasked, true_and, Option.isNone_iff_eq_none]
      rw [printed]
      simp only [emitted, written, unasked]
  | file named located taken =>
      have printed : options.printed text = "" := by
        simp only [Options.printed, named, reduceCtorEq, false_and, if_false]
      rw [printed]
      simp only [emitted, written, named, withFile_of_path? located, Job.runOn, taken]

/-- A file for the records whose name no file can have breaks the run off. -/
theorem runOn_emitted_of_nameless (written : fileText records = .ok text)
    (named : options.out = some file) (nameless : file.path? = none) :
    (emitted options settings terminal said records).runOn system =
      (.error (file.nameless "write_text"), system) := by
  simp only [emitted, written, named, withFile_of_nameless nameless, Job.runOn]

/-- A file for the records that cannot be written ends the run with a message. -/
theorem runOn_emitted_of_blocked (written : fileText records = .ok text)
    (named : options.out = some file) (located : file.path? = some path)
    (blocked : (FileSystem.write system path (Utf8.encode text)).1 = some obstacle) :
    (emitted options settings terminal said records).runOn system =
      (failed .failure said
        ("failed to write '" ++ path.shown ++ "': " ++ obstacle.message path)).runOn
          (FileSystem.write system path (Utf8.encode text)).2 := by
  simp only [emitted, written, named, withFile_of_path? located, Job.runOn, blocked]

/-- Writing succeeds, or the options name no file to write to, or the file system does not take
it. -/
theorem writes_cases (options : Options) (text : String) (system : σ) :
    (∃ left, options.Writes text system left) ∨
      ∃ file, options.out = some file ∧ (file.path? = none ∨ ∃ path obstacle,
        file.path? = some path ∧
          (FileSystem.write system path (Utf8.encode text)).1 = some obstacle) := by
  cases named : options.out with
  | none => exact Or.inl ⟨system, .nowhere named⟩
  | some file =>
      cases located : file.path? with
      | none => exact Or.inr ⟨file, rfl, Or.inl located⟩
      | some path =>
          cases taken : (FileSystem.write system path (Utf8.encode text)).1 with
          | some obstacle => exact Or.inr ⟨file, rfl, Or.inr ⟨path, obstacle, located, taken⟩⟩
          | none => exact Or.inl ⟨_, .file named located taken⟩

end Writing

/-! ## Compiling -/

/-- **What options come to** before anything is written: their debug settings and leaders are
accepted, and loading and compiling the keymap that they name has a result. -/
def Options.CompilesTo (options : Options) (catalog : Catalog)
    (result : Except Fault (List Record)) : Prop :=
  ∃ settings leaders, options.settings = .ok settings ∧ options.allLeaders = .ok leaders ∧
    (options.compile catalog leaders).result = result

section Compiling

variable {options : Options} {catalog : Catalog} {terminal : Bool} {records : List Record}
  {fault : Fault}

private theorem mapM_leaders (leaders : List Given) :
    (leaders.mapM fun
      | .emptied => .error (.unhashable Given.emptyKind)
      | .text leader => .ok leader : Except Fault (List String)) =
      if .emptied ∈ leaders then .error (.unhashable Given.emptyKind)
      else .ok (leaders.map Given.orEmpty) := by
  induction leaders with
  | nil => rfl
  | cons leader leaders ih =>
      rw [List.mapM_cons, ih]
      cases leader with
      | emptied => simp [bind, Except.bind]
      | text name =>
          by_cases empty : Given.emptied ∈ leaders
          · simp [empty]
            rfl
          · simp [empty, Given.orEmpty]
            rfl

private theorem allLeaders_eq (options : Options) :
    options.allLeaders =
      if .emptied ∈ options.leaders then .error (.unhashable Given.emptyKind)
      else Leaders.ofList (Leaders.stock ++ options.leaders.map Given.orEmpty) := by
  have named := congrArg (· >>= fun added => Leaders.ofList (Leaders.stock ++ added))
    (mapM_leaders options.leaders)
  refine Eq.trans named ?_
  split <;> rfl

/-- Only a leader that is no text cannot be looked up. -/
theorem emptied_of_allLeaders {kindName : String}
    (refused : options.allLeaders = .error (.unhashable kindName)) :
    .emptied ∈ options.leaders := by
  by_cases empty : .emptied ∈ options.leaders
  · exact empty
  · rw [allLeaders_eq, if_neg empty, Leaders.ofList] at refused
    split at refused <;> cases refused

/-- **Records that are compiled can be written**: an integer that is too long keeps a rule from
being compiled. -/
theorem exists_fileText (compiles : options.CompilesTo catalog (.ok records)) :
    ∃ text, fileText records = .ok text := by
  obtain ⟨settings, leaders, -, -, compiled⟩ := compiles
  rw [Options.compile, Report.result_bind] at compiled
  obtain ⟨keymap, -, returned⟩ := exists_of_bind_eq_ok compiled
  exact ⟨_, fileText_eq_ok_iff.mpr ⟨fun record => Keymap.isWritable_of_mem returned, rfl⟩⟩

/-- A job that compiles to records goes on to emit them. -/
theorem job_of_records (compiles : options.CompilesTo catalog (.ok records)) :
    ∃ settings said,
      options.job catalog terminal = emitted options settings terminal said records := by
  obtain ⟨settings, leaders, set, led, compiled⟩ := compiles
  refine ⟨settings, settings.output terminal (options.compile catalog leaders).log, ?_⟩
  simp only [Options.job, set, led, compiled]

/-- A job that does not compile ends with the fault. -/
theorem job_of_fault (compiles : options.CompilesTo catalog (.error fault)) :
    ∃ said, options.job catalog terminal =
      failed .failure said (buildMessage options.keymap fault) := by
  obtain ⟨settings, leaders, set, led, compiled⟩ := compiles
  refine ⟨settings.output terminal (options.compile catalog leaders).log, ?_⟩
  simp only [Options.job, set, led, compiled]

/-- A leader for which only the mark that ends the options was given breaks the job off. -/
theorem job_of_emptied {settings : Settings} (set : options.settings = .ok settings)
    (empty : .emptied ∈ options.leaders) :
    options.job catalog terminal = .brokeOff "" (.unhashable Given.emptyKind) := by
  simp only [Options.job, set, allLeaders_eq, if_pos empty]

/-- **Options are refused, or a leader is no text, or they come to a result.** -/
theorem job_cases (options : Options) (catalog : Catalog) (terminal : Bool) :
    (∃ message, options.job catalog terminal = failed .usage "" message) ∨
      (∃ settings, options.settings = .ok settings ∧ .emptied ∈ options.leaders) ∨
      ∃ result, options.CompilesTo catalog result := by
  cases set : options.settings with
  | error fault =>
      refine Or.inl ⟨fault.message, ?_⟩
      simp only [Options.job, set]
  | ok settings =>
      cases led : options.allLeaders with
      | ok leaders => exact Or.inr (Or.inr ⟨_, settings, leaders, set, led, rfl⟩)
      | error fault =>
          by_cases spoken : ∃ kindName, fault = .unhashable kindName
          · obtain ⟨kindName, rfl⟩ := spoken
            exact Or.inr (Or.inl ⟨settings, rfl, emptied_of_allLeaders led⟩)
          · refine Or.inl ⟨fault.message, ?_⟩
            cases fault with
            | unhashable kindName => exact absurd ⟨kindName, rfl⟩ spoken
            | _ => simp only [Options.job, set, led]

end Compiling

end KeyChords.Cli
