import KeyChords.Command
import KeyChords.Json.Display

/-! # Drafts and actions

A keymap is authored in a notation that does not keep conditions, actions and plain values apart. A
draft is whatever stands in a place of such a keymap.

An action is what a binding runs: one command, a macro, or explicitly nothing. A macro is built from
steps, but nothing keeps an author from writing one down over other elements. Such a macro has no
command: the first element that is no step is the fault of whoever asks for it.
-/

namespace KeyChords

open Json

mutual

/-- **What stands in a place of an authored keymap.** -/
inductive Draft where
  | blank
  | leaf (name : String) (negated : Bool)
  | compare (key literal : String) (equal : Bool)
  | all (operands : List Draft)
  | any (operands : List Draft)
  | action (action : Action)
  | step (step : Step)
  | value (value : Value)

/-- **An action.** -/
inductive Action where
  | run (command : Command)
  | sequence (elements : List Draft)
  /-- Nothing is run, and the slot is taken all the same. -/
  | suppress

end

instance : Inhabited Draft := ⟨.blank⟩

instance : Inhabited Action := ⟨.suppress⟩

namespace Draft

/-- The name of the kind of what stands in a place. -/
def kindName : Draft → String
  | .action (.run (.invoke _ _)) => "Invoke"
  | .action (.run (.inject _)) => "RawInject"
  | .action (.sequence _) => "Sequence"
  | .action .suppress => "Suppress"
  | .step _ => "Step"
  | .value held => held.kindName
  | .blank => "WhenNode"
  | .leaf _ _ => "WhenLeaf"
  | .compare _ _ _ => "WhenCompare"
  | .all _ => "WhenAnd"
  | .any _ => "WhenOr"

/-- An element of a macro as an argument of the command that runs macros, which a step alone has. -/
def toObject : Draft → Except Fault Value
  | .step taken => .ok taken.toValue
  | draft => .error (.absentMember draft.kindName "to_dict")

end Draft

namespace Action

/-- The macro of some steps. -/
def ofSteps (steps : List Step) : Action :=
  .sequence (steps.map .step)

/-- **The name and the arguments of the command that an action compiles to.** A suppressed binding
compiles to none. -/
def render : Action → Except Fault (String × Value)
  | .run command => .ok command.render
  | .sequence elements => do
    let objects ← elements.mapM Draft.toObject
    return (Command.macroRunner, .object [("sequence", .list objects)])
  | .suppress => .error .suppressedCommand

/-- How messages about bindings call an action. -/
def title : Action → Except Fault String
  | .suppress => .ok "suppress"
  | action => Prod.fst <$> action.render

/-- **What an action puts into records**: its command, or nothing when it suppresses. The arguments
have to be writable, since their text tells records apart. -/
def output : Action → Except Fault (Option (String × Value))
  | .suppress => .ok none
  | action => do
    let (name, args) ← action.render
    args.requireWritable
    return some (name, args)

private theorem mapM_toObject_steps (steps : List Step) :
    (steps.map Draft.step).mapM Draft.toObject = .ok (steps.map Step.toValue) := by
  induction steps with
  | nil => rfl
  | cons step rest hyp =>
    rw [List.map_cons, List.mapM_cons, hyp]
    rfl

/-- **A macro of steps always has its command.** -/
@[simp]
theorem render_ofSteps (steps : List Step) :
    (ofSteps steps).render =
      .ok (Command.macroRunner, .object [("sequence", .list (steps.map Step.toValue))]) := by
  rw [ofSteps, render, mapM_toObject_steps]
  rfl

end Action

end KeyChords
