import KeyChords.Fault

/-! # Conditions

A condition says in which context a binding is active. It is a tree that is written as one line;
neither parentheses nor simplifications are ever made, so the line is read from left to right the
way the editor evaluates it. The atom without a name is the condition that always holds.
-/

namespace KeyChords

/-- **A condition.** -/
inductive Condition where
  /-- A context key, or its negation. -/
  | leaf (name : String) (negated : Bool)
  /-- A comparison of a context key with a literal, which is written as it stands. -/
  | compare (key literal : String) (equal : Bool)
  | all (operands : List Condition)
  | any (operands : List Condition)

namespace Condition

instance : Inhabited Condition := ⟨.leaf "" false⟩

/-- A plain context key. -/
def atom (name : String) : Condition := .leaf name false

/-- The condition that always holds. -/
def always : Condition := atom ""

/-- The conjunction of two conditions. -/
def both (left right : Condition) : Condition := .all [left, right]

/-- The disjunction of two conditions. -/
def either (left right : Condition) : Condition := .any [left, right]

/-- What stands between the operands of a conjunction. -/
def conjunction : String := " && "

/-- What stands between the operands of a disjunction. -/
def disjunction : String := " || "

/-- The text of a context key. -/
def leafText (name : String) (negated : Bool) : String :=
  if negated then "!" ++ name else name

/-- The text of a comparison. -/
def compareText (key literal : String) (equal : Bool) : String :=
  key ++ (if equal then " == " else " != ") ++ literal

mutual

/-- **The line of a condition.** -/
def text : Condition → String
  | .leaf name negated => leafText name negated
  | .compare key literal equal => compareText key literal equal
  | .all operands => conjunction.intercalate (texts operands)
  | .any operands => disjunction.intercalate (texts operands)
termination_by structural condition => condition

/-- The lines of several conditions. -/
def texts : List Condition → List String
  | [] => []
  | condition :: rest => text condition :: texts rest
termination_by structural conditions => conditions

end

/-- The violation of the rules for negations. -/
def negationFault (detail : Violation.Detail) (text : String) : Fault :=
  .violation ⟨.negation, detail, none, some text⟩

/-- **The negation of a context key or of an equality.** A negated key is restored; the condition
that always holds, an inequality and compound conditions have no negation. -/
def negate : Condition → Except Fault Condition
  | .leaf name negated =>
    if name = "" then .error (negationFault .negatedAlways "")
    else .ok (.leaf name (!negated))
  | .compare key literal equal =>
    if equal then .ok (.compare key literal false)
    else .error (negationFault .renegatedComparison (compareText key literal equal))
  | condition => .error (negationFault .negatedCompound condition.text)

/-- The characters of bare context keys. -/
def isContextChar (c : Char) : Bool :=
  c.isAlpha || c = '.'

/-- Whether a text is accepted as a bare context key: letters and points, at least one, and
possibly one line feed behind them. -/
def isContextKey (text : List Char) : Bool :=
  let name := if text.getLast? = some '\n' then text.dropLast else text
  !name.isEmpty && name.all isContextChar

/-- A bare context key, checked. -/
def requireContextKey (context : String) : Except Fault String :=
  if isContextKey context.toList then .ok context
  else .error (.violation ⟨.contextKey, .compoundContext, none, some context⟩)

end Condition

end KeyChords
