import KeyChords.Decimal.Binary64
import KeyChords.Dict
import KeyChords.Text.Letter

/-! # JSON values

Values keep what their text can tell apart: integers of any size stand beside binary64 numbers, and
an object keeps its fields in the order in which their keys first appeared. Authored values hold
strings; a document may hold text with code points that are no characters, so the kind of text is
left open.
-/

namespace KeyChords.Json

open KeyChords.Decimal KeyChords.Text

/-- **A JSON value** over a kind of text. -/
inductive Datum (τ : Type) where
  | null
  | bool (value : Bool)
  | int (value : Int)
  | float (value : Binary64)
  | str (text : τ)
  | list (items : List (Datum τ))
  | object (fields : List (τ × Datum τ))

/-- **An authored value.** -/
abbrev Value := Datum String

/-- **The value that a document spells.** -/
abbrev Document := Datum (List CodePoint)

instance {τ : Type} : Inhabited (Datum τ) := ⟨.null⟩

/-- The fields of an object, in order. -/
abbrev Fields (τ : Type) := Dict τ (Datum τ)

namespace Datum

variable {τ : Type}

/-- **The empty values**: `null`, `false`, every zero, and the empty text, list and object. A
record leaves out a field whose value is empty. -/
def isEmpty {κ : Type} [Spelling τ κ] : Datum τ → Bool
  | .null => true
  | .bool value => !value
  | .int value => value = 0
  | .float value => value.isZero
  | .str text => (Spelling.letters text).isEmpty
  | .list items => items.isEmpty
  | .object fields => fields.isEmpty

/-- The value itself, or `null` in the place of an empty one. -/
def orNull {κ : Type} [Spelling τ κ] (value : Datum τ) : Datum τ :=
  if value.isEmpty then .null else value

/-- Whether a value is `null`. -/
def isNull : Datum τ → Bool
  | .null => true
  | _ => false

mutual

/-- The value with the fields of each object, at every level, in the order of their keys. -/
def sortKeys [LE τ] [DecidableLE τ] : Datum τ → Datum τ
  | .null => .null
  | .bool value => .bool value
  | .int value => .int value
  | .float value => .float value
  | .str text => .str text
  | .list items => .list (sortKeysItems items)
  | .object fields =>
    .object ((sortKeysFields fields).mergeSort fun left right => decide (left.1 ≤ right.1))
termination_by structural value => value

/-- The items of a list with the fields of their objects in order. -/
def sortKeysItems [LE τ] [DecidableLE τ] : List (Datum τ) → List (Datum τ)
  | [] => []
  | item :: rest => sortKeys item :: sortKeysItems rest
termination_by structural items => items

/-- Fields with the fields of the objects among their values in order. -/
def sortKeysFields [LE τ] [DecidableLE τ] : List (τ × Datum τ) → List (τ × Datum τ)
  | [] => []
  | (key, value) :: rest => (key, sortKeys value) :: sortKeysFields rest
termination_by structural fields => fields

end

mutual

/-- The value with each of its texts changed. -/
def map {σ : Type} (change : τ → σ) : Datum τ → Datum σ
  | .null => .null
  | .bool value => .bool value
  | .int value => .int value
  | .float value => .float value
  | .str text => .str (change text)
  | .list items => .list (mapItems change items)
  | .object fields => .object (mapFields change fields)
termination_by structural value => value

/-- The items of a list with each of their texts changed. -/
def mapItems {σ : Type} (change : τ → σ) : List (Datum τ) → List (Datum σ)
  | [] => []
  | item :: rest => map change item :: mapItems change rest
termination_by structural items => items

/-- The fields with each of their texts changed, the keys included. -/
def mapFields {σ : Type} (change : τ → σ) : List (τ × Datum τ) → List (σ × Datum σ)
  | [] => []
  | (key, value) :: rest => (change key, map change value) :: mapFields change rest
termination_by structural fields => fields

end

/-- A number that is finite, as an exact quotient. Truth values count as one and zero. -/
def quotient? : Datum τ → Option (Int × Nat)
  | .bool value => some (if value then 1 else 0, 1)
  | .int value => some (value, 1)
  | .float (.finite negative magnitude) =>
    let (num, den) := Binary64.quotient magnitude
    some (if negative then -(num : Int) else num, den)
  | _ => none

/-- Whether two values are equal as numbers. -/
def numbersAgree (left right : Datum τ) : Bool :=
  match left.quotient?, right.quotient? with
  | some (num, den), some (other, unit) => num * unit == other * den
  | _, _ => false

mutual

/-- **Equality of values by what they denote**: numbers of different kinds are equal when they have
the same value, objects when they give the same keys equal values in whatever order, and the value
that is not a number equals nothing. -/
def agrees [DecidableEq τ] : Datum τ → Datum τ → Bool
  | .null, other => other.isNull
  | .bool value, other => numbersAgree (.bool value) other
  | .int value, other => numbersAgree (.int value) other
  | .float (.infinite negative), other =>
    match other with
    | .float (.infinite same) => negative == same
    | _ => false
  | .float value, other => numbersAgree (.float value) other
  | .str text, other =>
    match other with
    | .str same => text == same
    | _ => false
  | .list items, other =>
    match other with
    | .list others => agreesItems items others
    | _ => false
  | .object fields, other =>
    match other with
    | .object others => fields.length == others.length && agreesFields fields others
    | _ => false
termination_by structural value => value

/-- Whether the items of two lists agree, place by place. -/
def agreesItems [DecidableEq τ] : List (Datum τ) → List (Datum τ) → Bool
  | [], others => others.isEmpty
  | item :: rest, others =>
    match others with
    | other :: more => agrees item other && agreesItems rest more
    | [] => false
termination_by structural items => items

/-- Every field has an equal one under the same key among the others. -/
def agreesFields [DecidableEq τ] : List (τ × Datum τ) → List (τ × Datum τ) → Bool
  | [], _ => true
  | (key, value) :: rest, others =>
    (match others.lookup key with
      | some other => agrees value other
      | none => false) && agreesFields rest others
termination_by structural fields => fields

end

end Datum

end KeyChords.Json
