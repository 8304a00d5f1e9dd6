import KeyChords.Chord
import KeyChords.Order.FirstOccurrence
import KeyChords.Progress

/-! # Leaders and the second spelling of a chord

A chord that a leader opens can be typed in two ways: the leader's modifiers are released before the
second press or kept held through it. The two ways are different chords to the editor, so a rule for
the one has to be bound under the other as well.
-/

namespace KeyChords

open Chord Debug

/-- **A set of leaders**, in the order in which they were named. A leader has a modifier that can be
held. -/
structure Leaders where
  all : List String
  distinct : all.Nodup
  modified : ∀ leader ∈ all, (Press.read leader).modifiers ≠ []

namespace Leaders

/-- Whether a press has a modifier. Only such a press can lead. -/
def isModified (press : String) : Bool :=
  !(Press.read press).modifiers.isEmpty

private theorem isModified_iff {press : String} :
    isModified press = true ↔ (Press.read press).modifiers ≠ [] := by
  simp [isModified]

/-- The set of the leaders named in a list. The first one without a modifier is refused. -/
def ofList (leaders : List String) : Except Fault Leaders :=
  if modified : (firsts leaders).all isModified = true then
    .ok ⟨firsts leaders, nodup_firsts leaders,
      fun leader member => isModified_iff.mp (List.all_eq_true.mp modified leader member)⟩
  else .error (.bareLeader (((firsts leaders).find? (!isModified ·)).getD ""))

/-- The leaders that every compilation has. -/
def stock : List String := [ctrlX]

/-- The modifiers of a leader that its follower does not hold yet. -/
def missing (leader follower : String) : List String :=
  let held := (Press.read follower).modifiers
  (Press.read leader).modifiers.filter (· ∉ held)

/-- **The spelling of a chord with the leader's modifiers held** through the second press, when the
chord has one: it is a leader and one further press, which lacks a modifier of the leader. -/
def heldSpelling? (leaders : Leaders) (chord : String) : Option String :=
  match presses chord with
  | [leader, follower] =>
    if leader ∈ leaders.all then
      let added := missing leader follower
      if added = [] then none else some (led leader ("+".intercalate added ++ "+" ++ follower))
    else none
  | _ => none

/-- Every spelling of a chord, the chord itself first. -/
def spellings (leaders : Leaders) (chord : String) : List String :=
  chord :: (leaders.heldSpelling? chord).toList

/-- The event of a chord with a second spelling. -/
def spellingEvents (leaders : Leaders) (chord : String) : List Event :=
  match leaders.heldSpelling? chord with
  | none => []
  | some held =>
    [Category.alias.event 3 (some chord) (Text.quoted chord ++ " -> " ++ Text.quoted held)]

/-- Every spelling of a chord, as a report. -/
def spell (leaders : Leaders) (chord : String) : Report (List String) :=
  ⟨leaders.spellingEvents chord, .ok (leaders.spellings chord)⟩

end Leaders

end KeyChords
