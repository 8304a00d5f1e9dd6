import KeyChords.Fault
import KeyChords.Files.FileSystem
import KeyChords.Text.Utf8

/-! # Jobs

What a command line asks for is a job: it may write a file, it may read a file, and it ends in an
outcome. A job says nothing about where the files are. It can be done on any file system that is a
value, or on the files of a machine.
-/

namespace KeyChords.Cli

open Files Text

/-- **How a run of the program ended.** -/
inductive Status where
  | success
  | drift
  /-- The keymap cannot be compiled, or a file cannot be read or written. -/
  | failure
  /-- The help was shown, or the command line was refused. -/
  | usage
  deriving DecidableEq, Repr

/-- The exit code of a status. -/
def Status.code : Status → Nat
  | .success => 0
  | .drift => 1
  | .failure => 2
  | .usage => 99

/-- **What a run of the program leaves** besides files. -/
structure Outcome where
  status : Status
  output : String := ""
  errors : String := ""
  deriving DecidableEq, Repr

/-- **A job.** It may also break off with a fault that the program has no words for, after it has
said something. -/
inductive Job where
  | ended (outcome : Outcome)
  | brokeOff (errors : String) (fault : Fault)
  | write (path : Path) (text : String) (next : Option Obstacle → Job)
  | read (path : Path) (next : Except Obstacle (List UInt8) → Job)

/-- **Does a job on a file system.** -/
def Job.runOn {σ : Type} [FileSystem σ] (system : σ) : Job → Except Fault Outcome × σ
  | .ended outcome => (.ok outcome, system)
  | .brokeOff _ fault => (.error fault, system)
  | .write path text next =>
    let (obstacle, left) := FileSystem.write system path (Utf8.encode text)
    (next obstacle).runOn left
  | .read path next => (next (FileSystem.read system path)).runOn system

end KeyChords.Cli
