import KeyChords.Cli.Job
import KeyChords.Cli.Usage
import KeyChords.Drift
import KeyChords.Keymap.Catalog
import KeyChords.Text.Newline

/-! # The program

A command line is read into options, the options into debug settings and leaders, and the target
into a keymap. The keymap is compiled as a whole before anything is written, so whatever goes wrong
up to there leaves no trace but a message. Then the records are written to a file, or to the output
if no file is written or checked, and a checked file is compared with them.
-/

namespace KeyChords.Cli

open Debug Files Text

/-- The end of a run with a message. -/
def failed (status : Status) (said message : String) : Job :=
  .ended { status, errors := said ++ lines ["error: " ++ message] }

/-- Why a keymap was not compiled. The violations of the rules for keymaps speak for themselves. -/
def buildMessage (target : Given) : Fault → String
  | .violation broken => broken.message
  | fault =>
    "failed to build keymap " ++ target.shown ++ ": " ++ fault.className ++ ": " ++ fault.message

/-- Goes on with the path of a file, in whose name no null character may stand. An option without a
value has no path, so what the path is needed for cannot be done. -/
def withFile (said purpose : String) (file : Given) (next : Path → Job) : Job :=
  match file with
  | .emptied => .brokeOff said (.absentMember Given.emptyKind purpose)
  | .text name =>
    if '\x00' ∈ name.toList then .brokeOff said .nullInName else next (Path.ofText name)

/-- The end of a run that compared a file with compiled records. -/
def compared (settings : Settings) (terminal : Bool) (said : String) (path : Path)
    (records : List Record) (text : String) : Job :=
  let report := Drift.check text records
  let said := said ++ settings.output terminal report.log
  match report.result with
  | .error fault => failed .failure said (path.shown ++ ": " ++ fault.message)
  | .ok [] =>
    .ended {
      status := .success
      errors := said ++
        lines [path.shown ++ ": up to date (" ++ toString records.length ++ " keybindings)"] }
  | .ok drift =>
    .ended {
      status := .drift
      errors := said ++
        lines
          ((path.shown ++ ": " ++ toString drift.length ++
            " difference(s) from compiled keymap") :: drift) }

/-- Compares the file that is to be checked, if there is one, with compiled records. -/
def checked (options : Options) (settings : Settings) (terminal : Bool) (said output : String)
    (records : List Record) : Job :=
  match options.check with
  | none => .ended { status := .success, output, errors := said }
  | some file =>
    withFile said "read_text" file fun path =>
      .read path fun
        | .error obstacle =>
          failed .failure said
            ("failed to read '" ++ path.shown ++ "': " ++ obstacle.message path)
        | .ok bytes =>
          match Utf8.decode bytes with
          | .error malformed => .brokeOff said (.undecodable malformed)
          | .ok text =>
            compared settings terminal said path records (String.ofList (plainNewlines text.toList))

/-- Writes compiled records to the file that is named for them, or to the output if there is neither
such a file nor one to check. -/
def emitted (options : Options) (settings : Settings) (terminal : Bool) (said : String)
    (records : List Record) : Job :=
  match fileText records with
  | .error fault => .brokeOff said fault
  | .ok text =>
    match options.out with
    | none =>
      checked options settings terminal said (if options.check.isNone then text else "") records
    | some file =>
      withFile said "write_text" file fun path =>
        .write path text fun
          | some obstacle =>
            failed .failure said
              ("failed to write '" ++ path.shown ++ "': " ++ obstacle.message path)
          | none => checked options settings terminal said "" records

/-- The keymap that options name. -/
def Options.load (options : Options) (catalog : Catalog) : Report Keymap :=
  match options.keymap with
  | .emptied => .fail (.absentMember Given.emptyKind "partition")
  | .text target => catalog.load target

/-- The stock leaders and the added ones. -/
def Options.allLeaders (options : Options) : Except Fault Leaders := do
  let added ← options.leaders.mapM fun
    | .emptied => .error (.unhashable Given.emptyKind)
    | .text leader => .ok leader
  Leaders.ofList (Leaders.stock ++ added)

/-- The debug settings that options ask for. -/
def Options.settings (options : Options) : Except Fault Settings :=
  match options.color with
  | .emptied => .error (.colorMode options.color.shown)
  | .text mode =>
    match ({} : Settings).configure options.debug mode with
    | (_, some fault) => .error fault
    | (settings, none) => .ok settings

/-- The records of the keymap that options name. -/
def Options.compile (options : Options) (catalog : Catalog) (leaders : Leaders) :
    Report (List Record) := do
  let keymap ← options.load catalog
  (if options.noTyping then keymap.withoutTyping else keymap).compile leaders

/-- **The job that options ask for**, with messages that go to a terminal or elsewhere. A leader
that is no text is a fault without a message of its own. -/
def Options.job (options : Options) (catalog : Catalog) (terminal : Bool) : Job :=
  match options.settings with
  | .error fault => failed .usage "" fault.message
  | .ok settings =>
    match options.allLeaders with
    | .error (.unhashable kindName) => .brokeOff "" (.unhashable kindName)
    | .error fault => failed .usage "" fault.message
    | .ok leaders =>
      let report := options.compile catalog leaders
      let said := settings.output terminal report.log
      match report.result with
      | .error fault => failed .failure said (buildMessage options.keymap fault)
      | .ok records => emitted options settings terminal said records

/-- **The job that a command line asks for.** -/
def program (catalog : Catalog) (terminal : Bool) (argv : List String) : Job :=
  match Options.read argv with
  | .error .help => .ended { status := .usage, output := help }
  | .error (.refused fault) => .ended { status := .usage, errors := refusal fault }
  | .ok options => options.job catalog terminal

end KeyChords.Cli
