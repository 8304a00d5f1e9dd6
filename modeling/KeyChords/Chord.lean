import KeyChords.Text.Pieces

/-! # Chords

A chord is a text: presses separated by blanks, each press its modifiers and a key joined by plus
signs. Chords are only ever built and taken apart; the modifiers are never reordered, so the
spelling that is built is the spelling that is bound.
-/

namespace KeyChords

open Text

namespace Chord

/-- A press with a modifier in front. -/
def modified (modifier press : String) : String :=
  modifier ++ "+" ++ press

/-- A press with the control key. -/
def ctrl (press : String) : String := modified "ctrl" press

/-- A press with the alternate key. -/
def alt (press : String) : String := modified "alt" press

/-- A press with the shift key. -/
def shift (press : String) : String := modified "shift" press

/-- The press that leads chords by default. -/
def ctrlX : String := ctrl "x"

/-- The chord of a leader and what follows it. -/
def led (leader follower : String) : String :=
  leader ++ " " ++ follower

/-- The characters of the presses of a chord. Blanks only separate. -/
def pressChars (chord : List Char) : List (List Char) :=
  (pieces ' ' chord).filter (· ≠ [])

/-- The presses of a chord: what stands between its blanks. -/
def presses (chord : String) : List String :=
  (pressChars chord.toList).map String.ofList

end Chord

/-- **A press taken apart.** -/
structure Press where
  modifiers : List String
  literal : String
  deriving DecidableEq, Repr

namespace Press

/-- The characters of the modifiers and of the key. The key may itself be a plus sign, so a press
that ends in two of them has its separator first and its key last. Empty modifiers count for
nothing. -/
def readChars (press : List Char) : List (List Char) × List Char :=
  if press = ['+'] then ([], ['+'])
  else if ['+', '+'] <:+ press then
    ((pieces '+' (press.take (press.length - 2))).filter (· ≠ []), ['+'])
  else
    let bits := pieces '+' press
    (bits.dropLast.filter (· ≠ []), bits.getLastD [])

/-- Reads a press: its modifiers, and the key behind the last separator. -/
def read (press : String) : Press :=
  let (modifiers, literal) := readChars press.toList
  ⟨modifiers.map String.ofList, String.ofList literal⟩

end Press

end KeyChords
