import KeyChords.Text.Pieces

/-! # Paths

A path is a row of steps from some start. Empty steps and steps that stay in place are dropped when
a path is read, so that different spellings of one path are shown alike.
-/

namespace KeyChords.Files

open Text

/-- **A path**, with the slashes that it starts with if it starts at the root. -/
structure Path where
  root : String
  steps : List String
  deriving DecidableEq, Repr

namespace Path

/-- The root of a path whose text starts with a number of slashes. Exactly two of them are a root of
their own. -/
def rootOf (slashes : Nat) : String :=
  if slashes = 0 then "" else if slashes = 2 then "//" else "/"

/-- Reads a path. -/
def ofText (text : String) : Path where
  root := rootOf (text.toList.takeWhile (· = '/')).length
  steps := ((pieces '/' text.toList).map String.ofList).filter fun step => step ≠ "" ∧ step ≠ "."

/-- The text of a path. A path without root and steps is the place itself. -/
def shown (path : Path) : String :=
  let text := path.root ++ "/".intercalate path.steps
  if text.isEmpty then "." else text

end Path

end KeyChords.Files
