import KeyChords.Files.Path
import KeyChords.Text.Quoted

/-! # File systems

A file system is whatever files can be read from and written to. Nothing is said of how it finds the
file of a path: two paths may lead to one file, and what is written may have to fail. A write that
fails may leave something behind. The one law is that a file that was written is read back.
-/

namespace KeyChords.Files

open Text

/-- **Why a file cannot be read or written**: the number of the cause, and the cause in words. -/
structure Obstacle where
  code : Nat
  reason : String
  deriving DecidableEq, Repr

namespace Obstacle

/-- There is nothing under a path. -/
def missing : Obstacle := ⟨2, "No such file or directory"⟩

/-- A path leads through a file. -/
def notDirectory : Obstacle := ⟨20, "Not a directory"⟩

/-- There is a folder under a path. -/
def directory : Obstacle := ⟨21, "Is a directory"⟩

/-- A path, or one of its steps, is too long. -/
def tooLong : Obstacle := ⟨36, "File name too long"⟩

/-- The wording of what keeps a path from being read or written. -/
def message (obstacle : Obstacle) (path : Path) : String :=
  "[Errno " ++ toString obstacle.code ++ "] " ++ obstacle.reason ++ ": " ++ quoted path.shown

end Obstacle

/-- **A file system** whose states are of a type. Writing gives what was in the way, if something
was, and the state that it left. -/
class FileSystem (σ : Type) where
  read : σ → Path → Except Obstacle (List UInt8)
  write : σ → Path → List UInt8 → Option Obstacle × σ

/-- **A file system that keeps what it is given.** -/
class LawfulFileSystem (σ : Type) [FileSystem σ] : Prop where
  read_write {system : σ} {path : Path} {bytes : List UInt8}
    (written : (FileSystem.write system path bytes).1 = none) :
    FileSystem.read (FileSystem.write system path bytes).2 path = .ok bytes

end KeyChords.Files
