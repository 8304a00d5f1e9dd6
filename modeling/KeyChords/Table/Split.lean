import KeyChords.Draft

/-! # Splits

A split binds one chord to one action while a context holds and to another while it does not. A side
without an action suppresses, so that its slot is taken all the same.
-/

namespace KeyChords

/-- The rules of one chord, as conditions with the drafts of their actions. -/
abbrev RulePairs := List (Condition × Draft)

namespace Split

/-- The context of a programmable keyboard. -/
def keyboardContext : String := "keynav.qmk"

/-- The context of an active panel. -/
def panelContext : String := "activePanel"

/-- The context of a running recording. -/
def recordingContext : String := "keynav.recording"

/-- A side of a split, which suppresses when it is left out. -/
def side : Draft → Draft
  | .value .null => .action .suppress
  | draft => draft

/-- **Splits a chord by a context key.** -/
def contextual (context : String) (held otherwise : Draft) : Except Fault RulePairs := do
  let key ← Condition.requireContextKey context
  let condition := Condition.atom key
  return [(condition, side held), (← condition.negate, side otherwise)]

/-- Splits a chord by the keyboard: the plain one first, the programmable one second. -/
def keyboard (plain programmable : Draft) : Except Fault RulePairs :=
  contextual keyboardContext programmable plain

/-- Splits a chord by the panel. -/
def panel (active otherwise : Draft) : Except Fault RulePairs :=
  contextual panelContext active otherwise

/-- Splits a chord by the recording. -/
def recording (running otherwise : Draft) : Except Fault RulePairs :=
  contextual recordingContext running otherwise

/-- Binds a chord without a condition. A text is the name of a command. -/
def only : Draft → Except Fault RulePairs
  | .value (.str name) => do
    let command ← Command.named name .null
    return [(.always, .action (.run command))]
  | draft => .ok [(.always, draft)]

end Split

/-- The rules as an author would write them down. -/
def RulePairs.drafts (pairs : RulePairs) : List (Draft × Draft) :=
  pairs.map fun (condition, action) => (.ofCondition condition, action)

end KeyChords
