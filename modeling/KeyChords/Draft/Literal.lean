import KeyChords.Decimal.Numeral
import KeyChords.Fault
import KeyChords.Json.Value

/-! # Literals of the authoring notation

A literal writes a value down. All of it stands for itself but the numbers that are no integers,
which are spelled by a text; the first text that spells no number is the fault that is reported.
-/

namespace KeyChords

open Decimal Json

/-- **A value as an author writes it down.** -/
inductive Literal where
  | null
  | bool (value : Bool)
  | int (value : Int)
  | number (text : String)
  | str (text : String)
  | list (items : List Literal)
  | object (fields : List (String × Literal))

namespace Literal

instance : Inhabited Literal := ⟨.null⟩

/-- The float that a text spells. -/
def readNumber (text : String) : Except Fault Value :=
  match Binary64.ofText? text with
  | some value => .ok (.float value)
  | none => .error (.notNumber text)

mutual

/-- **The value of a literal.** -/
def evaluate : Literal → Except Fault Value
  | .null => .ok .null
  | .bool value => .ok (.bool value)
  | .int value => .ok (.int value)
  | .number text => readNumber text
  | .str text => .ok (.str text)
  | .list items => .list <$> evaluateItems items
  | .object fields => .object <$> evaluateFields [] fields
termination_by structural literal => literal

/-- The values of several literals, from left to right. -/
def evaluateItems : List Literal → Except Fault (List Value)
  | [] => .ok []
  | item :: rest => do
    let value ← evaluate item
    let values ← evaluateItems rest
    return value :: values
termination_by structural items => items

/-- The fields of an object behind those that are already there. A key that comes again gives its
new value to the first place. -/
def evaluateFields (before : Fields String) :
    List (String × Literal) → Except Fault (Fields String)
  | [] => .ok before
  | (key, literal) :: rest => do
    let value ← evaluate literal
    evaluateFields (before.put key value) rest
termination_by structural fields => fields

end

end Literal

end KeyChords
