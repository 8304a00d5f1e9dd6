import KeyChords.Draft

/-! # Equality of drafts

Two drafts are equal when they have the same structure; drafts of different kinds never are. Reading
the content of a condition that has none is a fault, and so is counting drafts as distinct elements
when one of them holds a list or an object, which are not fixed.
-/

namespace KeyChords

open Json

namespace Draft

/-- Whether two commands are equal. -/
def commandsAgree : Command → Command → Bool
  | .invoke name args, .invoke other values => name = other && args.agrees values
  | .inject text, .inject other => text = other
  | _, _ => false

/-- Whether two steps are equal, their hints included. -/
def stepsAgree (left right : Step) : Bool :=
  commandsAgree left.command right.command && left.async == right.async &&
    left.delay == right.delay

mutual

/-- **Whether two drafts are equal.** Operands are compared from left to right, as far as they
agree. -/
def equals : Draft → Draft → Except Fault Bool
  | .blank, other =>
    match other with
    | .blank => .error .blankCondition
    | _ => .ok false
  | .leaf name negated, other =>
    match other with
    | .leaf same sign => .ok (name == same && negated == sign)
    | _ => .ok false
  | .compare key literal equal, other =>
    match other with
    | .compare same text sign => .ok (key == same && literal == text && equal == sign)
    | _ => .ok false
  | .all operands, other =>
    match other with
    | .all others => operandsEqual operands others
    | _ => .ok false
  | .any operands, other =>
    match other with
    | .any others => operandsEqual operands others
    | _ => .ok false
  | .action acted, other =>
    match other with
    | .action same => actionsEqual acted same
    | _ => .ok false
  | .step taken, other =>
    match other with
    | .step same => .ok (stepsAgree taken same)
    | _ => .ok false
  | .value held, other =>
    match other with
    | .value same => .ok (held.agrees same)
    | _ => .ok false
termination_by structural draft => draft

/-- Whether two actions are equal. Macros are compared like operands. -/
def actionsEqual : Action → Action → Except Fault Bool
  | .run command, other =>
    match other with
    | .run same => .ok (commandsAgree command same)
    | _ => .ok false
  | .sequence elements, other =>
    match other with
    | .sequence others => operandsEqual elements others
    | _ => .ok false
  | .suppress, other =>
    match other with
    | .suppress => .ok true
    | _ => .ok false
termination_by structural action => action

/-- Whether two rows of drafts are equal, place by place up to the first difference. -/
def operandsEqual : List Draft → List Draft → Except Fault Bool
  | [], others => .ok others.isEmpty
  | draft :: rest, others =>
    match others with
    | [] => .ok false
    | other :: more =>
      match equals draft other with
      | .ok true => operandsEqual rest more
      | .ok false => .ok false
      | .error fault => .error fault
termination_by structural drafts => drafts

end

/-- A value that is fixed, which lists and objects are not. -/
def requireFixedValue (value : Value) : Except Fault Unit :=
  match value with
  | .list _ | .object _ => .error (.unhashable value.kindName)
  | _ => .ok ()

/-- A command with fixed arguments. -/
def requireFixedCommand : Command → Except Fault Unit
  | .invoke _ args => requireFixedValue args
  | .inject _ => .ok ()

mutual

/-- A draft that holds only fixed values, checked from left to right. -/
def requireFixed : Draft → Except Fault Unit
  | .blank => .error .blankCondition
  | .leaf _ _ | .compare _ _ _ => .ok ()
  | .all operands => requireFixedOperands operands
  | .any operands => requireFixedOperands operands
  | .action acted => requireFixedAction acted
  | .step taken => requireFixedCommand taken.command
  | .value held => requireFixedValue held
termination_by structural draft => draft

/-- An action that holds only fixed values. -/
def requireFixedAction : Action → Except Fault Unit
  | .run command => requireFixedCommand command
  | .sequence elements => requireFixedOperands elements
  | .suppress => .ok ()
termination_by structural action => action

/-- Several drafts that hold only fixed values. -/
def requireFixedOperands : List Draft → Except Fault Unit
  | [] => .ok ()
  | draft :: rest =>
    match requireFixed draft with
    | .ok () => requireFixedOperands rest
    | .error fault => .error fault
termination_by structural drafts => drafts

end

/-- How many different elements two drafts are. Both have to be fixed before they are compared. -/
def distinctCount (left right : Draft) : Except Fault Nat := do
  left.requireFixed
  right.requireFixed
  return if ← left.equals right then 1 else 2

end Draft

end KeyChords
