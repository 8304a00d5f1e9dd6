import KeyChords.Cli.Program

/-! # The command line

Does the job of a command line on the files of the machine.
-/

namespace KeyChords

open Cli Files

/-- The obstacle with a code. The machine may count codes below zero; a code that is not known keeps
the machine's words. -/
def Files.Obstacle.ofCode (code : UInt32) (details : String) : Obstacle :=
  let code := if 0x80000000 ≤ code then (0 - code).toNat else code.toNat
  let known : List Obstacle := [.missing, .notDirectory, .directory, .tooLong]
  (known.find? fun obstacle => obstacle.code = code).getD ⟨code, details⟩

/-- What kept a file from being read or written, as the machine tells it. -/
def Files.Obstacle.ofError : IO.Error → Obstacle
  | .noFileOrDirectory _ code details => .ofCode code details
  | .inappropriateType _ code details => .ofCode code details
  | .permissionDenied _ code details => .ofCode code details
  | .invalidArgument _ code details => .ofCode code details
  | .resourceExhausted _ code details => .ofCode code details
  | .noSuchThing _ code details => .ofCode code details
  | .otherError code details => .ofCode code details
  | other => ⟨0, toString other⟩

/-- Does a job and gives its exit code. A job that breaks off ends with code 1. -/
def Cli.Job.perform : Job → IO UInt32
  | .ended outcome => do
    IO.print outcome.output
    IO.eprint outcome.errors
    return outcome.status.code.toUInt32
  | .brokeOff errors fault => do
    IO.eprintln (errors ++ fault.className ++ ": " ++ fault.message)
    return 1
  | .write path text next => do
    let outcome ← (IO.FS.writeFile path.shown text).toBaseIO
    match outcome with
    | .ok _ => (next none).perform
    | .error failure => (next (some (Obstacle.ofError failure))).perform
  | .read path next => do
    let outcome ← (IO.FS.readBinFile path.shown).toBaseIO
    match outcome with
    | .ok bytes => (next (.ok bytes.toList)).perform
    | .error failure => (next (.error (Obstacle.ofError failure))).perform

end KeyChords

def main (argv : List String) : IO UInt32 := do
  let terminal ← (← IO.getStderr).isTty
  (KeyChords.Cli.program KeyChords.Catalog.stock terminal argv).perform
