import KeyChords.Draft
import KeyChords.Draft.Literal

/-! # Terms of the authoring notation

A term is an expression that builds a draft: conditions from context keys, negations and
connectives, actions from commands, steps and sequences, and literals anywhere. Terms are
evaluated from the inside out and from left to right, and the first fault ends the evaluation.
-/

namespace KeyChords

/-- **An expression of the authoring notation.** -/
inductive Term where
  | blank
  /-- A context key with a sign, taken as it is. -/
  | leaf (name : String) (negated : Bool)
  | compare (key literal : String) (equal : Bool)
  | negation (operand : Term)
  | both (left right : Term)
  | either (left right : Term)
  /-- A conjunction of any operands, taken as they are. -/
  | all (operands : List Term)
  /-- A disjunction of any operands, taken as they are. -/
  | any (operands : List Term)
  | invoke (name : String) (args : Literal)
  /-- A command taken as it is, even without a name. -/
  | command (name : String) (args : Literal)
  | inject (text : String)
  | notification (message : String)
  | suppress
  | sequence (elements : List Term)
  /-- A macro of exactly the given elements, taken as they are. -/
  | steps (elements : List Term)
  | step (action : Term) (async : Bool) (delay : Int)
  | value (literal : Literal)

namespace Term

instance : Inhabited Term := ⟨.blank⟩

mutual

/-- **The draft that a term builds.** -/
def evaluate : Term → Except Fault Draft
  | .blank => .ok .blank
  | .leaf name negated => .ok (.leaf name negated)
  | .compare key literal equal => .ok (.compare key literal equal)
  | .negation operand => do (← evaluate operand).negate
  | .both left right => do
    let first ← evaluate left
    let second ← evaluate right
    first.both second
  | .either left right => do
    let first ← evaluate left
    let second ← evaluate right
    first.either second
  | .all operands => .all <$> evaluateAll operands
  | .any operands => .any <$> evaluateAll operands
  | .invoke name args => do
    let args ← args.evaluate
    (fun command => .action (.run command)) <$> Command.named name args
  | .command name args => (fun args => .action (.run (.invoke name args))) <$> args.evaluate
  | .inject text => .ok (.action (.run (.inject text)))
  | .notification message => .ok (.action (.run (Command.notification message)))
  | .suppress => .ok (.action .suppress)
  | .sequence elements => do
    let drafts ← evaluateAll elements
    .action <$> Draft.sequence drafts
  | .steps elements => (fun drafts => .action (.sequence drafts)) <$> evaluateAll elements
  | .step action async delay => do
    let draft ← evaluate action
    .step <$> draft.toStep async delay
  | .value held => .value <$> held.evaluate
termination_by structural term => term

/-- The drafts that several terms build, from left to right. -/
def evaluateAll : List Term → Except Fault (List Draft)
  | [] => .ok []
  | term :: rest => do
    let draft ← evaluate term
    let drafts ← evaluateAll rest
    return draft :: drafts
termination_by structural terms => terms

end

end Term

end KeyChords
