import KeyChords.Action
import KeyChords.Condition

/-! # Reading drafts

A draft becomes a condition or an action where one is needed, and the first thing that is out of
place is the fault that is reported. Most reports show the draft they refuse; one that cannot be
shown is the fault instead.
-/

namespace KeyChords

open Json Text

namespace Draft

/-- Whether a draft is a condition on its face; what is inside it may still be out of place. -/
def isCondition : Draft → Bool
  | .blank | .leaf _ _ | .compare _ _ _ | .all _ | .any _ => true
  | .action _ | .step _ | .value _ => false

/-- A condition on its face, checked. -/
def requireCondition (draft : Draft) : Except Fault Unit :=
  if draft.isCondition then .ok () else .error (.notCondition draft.kindName)

mutual

/-- A condition in a place of a keymap. -/
def ofCondition : Condition → Draft
  | .leaf name negated => .leaf name negated
  | .compare key literal equal => .compare key literal equal
  | .all operands => .all (ofConditions operands)
  | .any operands => .any (ofConditions operands)
termination_by structural condition => condition

/-- Several conditions, each in a place of its own. -/
def ofConditions : List Condition → List Draft
  | [] => []
  | condition :: rest => ofCondition condition :: ofConditions rest
termination_by structural conditions => conditions

end

mutual

/-- **The condition that a draft is.** Operands are read from left to right, and the first one that
is no condition is the fault. -/
def toCondition : Draft → Except Fault Condition
  | .blank => .error .blankCondition
  | .leaf name negated => .ok (.leaf name negated)
  | .compare key literal equal => .ok (.compare key literal equal)
  | .all operands =>
    match toConditions operands with
    | .ok conditions => .ok (.all conditions)
    | .error fault => .error fault
  | .any operands =>
    match toConditions operands with
    | .ok conditions => .ok (.any conditions)
    | .error fault => .error fault
  | .action acted => .error (.notCondition (kindName (.action acted)))
  | .step taken => .error (.notCondition (kindName (.step taken)))
  | .value held => .error (.notCondition held.kindName)
termination_by structural draft => draft

/-- The conditions that several drafts are, up to the first that is none. -/
def toConditions : List Draft → Except Fault (List Condition)
  | [] => .ok []
  | draft :: rest =>
    match toCondition draft with
    | .error fault => .error fault
    | .ok condition =>
      match toConditions rest with
      | .ok conditions => .ok (condition :: conditions)
      | .error fault => .error fault
termination_by structural drafts => drafts

end

mutual

@[simp]
theorem toCondition_ofCondition (condition : Condition) :
    toCondition (ofCondition condition) = .ok condition := by
  cases condition with
  | leaf name negated => rfl
  | compare key literal equal => rfl
  | all operands => simp [ofCondition, toCondition, toConditions_ofConditions operands]
  | any operands => simp [ofCondition, toCondition, toConditions_ofConditions operands]

@[simp]
theorem toConditions_ofConditions (conditions : List Condition) :
    toConditions (ofConditions conditions) = .ok conditions := by
  cases conditions with
  | nil => rfl
  | cons condition rest =>
    simp [ofConditions, toConditions, toCondition_ofCondition condition,
      toConditions_ofConditions rest]

end

/-- The line of the condition that a draft is. -/
def conditionText (draft : Draft) : Except Fault String :=
  Condition.text <$> draft.toCondition

/-- The line under which a draft is looked up: a text stands for itself. -/
def lookupText : Draft → Except Fault String
  | .value (.str text) => .ok text
  | draft => draft.conditionText

/-- The conjunction of two conditions. Both are checked on their face before anything else. -/
def both (left right : Draft) : Except Fault Draft := do
  left.requireCondition
  right.requireCondition
  return .all [left, right]

/-- The disjunction of two conditions. -/
def either (left right : Draft) : Except Fault Draft := do
  left.requireCondition
  right.requireCondition
  return .any [left, right]

/-- The negation of the condition that a draft is. -/
def negate (draft : Draft) : Except Fault Draft := do
  let condition ← draft.toCondition
  ofCondition <$> condition.negate

/-- A command as messages show it. -/
def shownCommand : Command → Except Fault String
  | .invoke name args => do
    return "Invoke(command=" ++ quoted name ++ ", args=" ++ (← args.display) ++ ")"
  | .inject text => .ok ("RawInject(text=" ++ quoted text ++ ")")

/-- A step as messages show it. -/
def shownStep (step : Step) : Except Fault String := do
  return "Step(action=" ++ (← shownCommand step.command) ++ ", asynchronous=" ++
    (Datum.bool step.async : Value).shown ++ ", delay=" ++
    (← (Datum.int step.delay : Value).display) ++ ")"

/-- Several shown things in a row. A single one keeps a comma. -/
def tupleText : List String → String
  | [single] => "(" ++ single ++ ",)"
  | texts => "(" ++ ", ".intercalate texts ++ ")"

mutual

/-- **A draft as messages show it.** A condition is shown by its line, so one that is out of place
inside cannot be shown. -/
def shown : Draft → Except Fault String
  | .action acted => shownAction acted
  | .step taken => shownStep taken
  | .value held => held.display
  | draft => (fun text => draft.kindName ++ "(" ++ quoted text ++ ")") <$> draft.conditionText
termination_by structural draft => draft

/-- An action as messages show it. -/
def shownAction : Action → Except Fault String
  | .run command => shownCommand command
  | .sequence elements =>
    (fun texts => "Sequence(steps=" ++ tupleText texts ++ ")") <$> shownAll elements
  | .suppress => .ok "SUPPRESS"
termination_by structural action => action

/-- Several drafts as messages show them, up to the first that cannot be shown. -/
def shownAll : List Draft → Except Fault (List String)
  | [] => .ok []
  | draft :: rest =>
    match shown draft with
    | .error fault => .error fault
    | .ok text =>
      match shownAll rest with
      | .ok texts => .ok (text :: texts)
      | .error fault => .error fault
termination_by structural drafts => drafts

end

/-- Refuses a draft with a fault that shows it. -/
def refuse {α : Type} (fault : String → Fault) (draft : Draft) : Except Fault α :=
  match draft.shown with
  | .ok shown => .error (fault shown)
  | .error inner => .error inner

/-- **The action that a draft is.** What a macro holds is not looked at. -/
def toAction : Draft → Except Fault Action
  | .action acted => .ok acted
  | draft => draft.refuse .notAction

/-- A command with its hints, as one step of a macro. -/
def toStep (draft : Draft) (async : Bool) (delay : Int) : Except Fault Step :=
  match draft with
  | .action (.run command) =>
    if delay < 0 then do
      (Datum.int delay : Value).requireWritable
      .error (.negativeDelay delay)
    else .ok ⟨command, async, delay.toNat⟩
  | _ => draft.refuse .notStepAction

/-- What an element puts into a macro: a text is the name of a command, and the elements of a macro
go in place one by one. -/
def elements : Draft → Except Fault (List Draft)
  | .value (.str name) => (fun command => [.step ⟨command, false, 0⟩]) <$> Command.named name .null
  | .action (.sequence held) => .ok held
  | .step taken => .ok [.step taken]
  | .action (.run command) => .ok [.step ⟨command, false, 0⟩]
  | draft => draft.refuse .notSequenceable

/-- What several elements put into a macro, up to the first that puts nothing there. -/
def allElements : List Draft → Except Fault (List Draft)
  | [] => .ok []
  | draft :: rest =>
    match draft.elements with
    | .error fault => .error fault
    | .ok first =>
      match allElements rest with
      | .error fault => .error fault
      | .ok others => .ok (first ++ others)

/-- **The macro of several elements**, which may not be empty. -/
def sequence (drafts : List Draft) : Except Fault Action :=
  match allElements drafts with
  | .ok [] => .error .emptySequence
  | .ok held => .ok (.sequence held)
  | .error fault => .error fault

end Draft

instance : Coe Condition Draft := ⟨Draft.ofCondition⟩

instance : Coe Action Draft := ⟨Draft.action⟩

end KeyChords
