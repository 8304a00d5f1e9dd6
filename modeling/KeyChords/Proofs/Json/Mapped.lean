import KeyChords.Json.Printer
import KeyChords.Proofs.Dict

/-! # Values over another kind of text

A value whose texts are changed keeps its shape: it is as empty as before, has integers of the same
length, and finds its fields under the changed keys if no two keys become the same.
-/

namespace KeyChords.Json

open KeyChords.Text

/-- Strings that differ are different texts of code points. -/
theorem ofString_injective :
    Function.Injective (Spelling.ofString : String → List CodePoint) := by
  intro first second same
  have points : Function.Injective CodePoint.ofChar := fun _ _ => CodePoint.ofChar_injective
  exact String.toList_injective (List.map_injective_iff.mpr points same)

namespace Datum

variable {τ σ : Type}

theorem get?_mapFields [DecidableEq τ] [DecidableEq σ] {change : τ → σ}
    (injective : Function.Injective change) (key : τ) (fields : Fields τ) :
    Dict.get? (change key) (mapFields change fields) =
      (Dict.get? key fields).map (map change) := by
  induction fields with
  | nil => rfl
  | cons field rest hyp =>
    obtain ⟨other, value⟩ := field
    rw [mapFields, Dict.get?_cons, Dict.get?_cons, hyp]
    by_cases same : key = other
    · simp [same]
    · have differ : change key ≠ change other := fun equal => same (injective equal)
      simp [same, differ]

mutual

/-- Whether a value can be written does not depend on its texts. -/
theorem isWritable_map (change : τ → σ) : ∀ value : Datum τ,
    (value.map change).isWritable = value.isWritable
  | .null => rfl
  | .bool _ => rfl
  | .int _ => rfl
  | .float _ => rfl
  | .str _ => rfl
  | .list items => areWritable_mapItems change items
  | .object fields => haveWritable_mapFields change fields

private theorem areWritable_mapItems (change : τ → σ) : ∀ items : List (Datum τ),
    areWritable (mapItems change items) = areWritable items
  | [] => rfl
  | item :: rest => by
    rw [mapItems, areWritable, areWritable, isWritable_map change item,
      areWritable_mapItems change rest]

private theorem haveWritable_mapFields (change : τ → σ) : ∀ fields : List (τ × Datum τ),
    haveWritable (mapFields change fields) = haveWritable fields
  | [] => rfl
  | (key, value) :: rest => by
    rw [mapFields, haveWritable, haveWritable, isWritable_map change value,
      haveWritable_mapFields change rest]

end

/-- Items can be written when each of them can. -/
theorem areWritable_iff {items : List (Datum τ)} :
    areWritable items = true ↔ ∀ item ∈ items, item.isWritable = true := by
  induction items with
  | nil => simp [areWritable]
  | cons item rest hyp => simp [areWritable, hyp]

/-- Fields can be written when each of their values can. -/
theorem haveWritable_iff {fields : Fields τ} :
    haveWritable fields = true ↔ ∀ field ∈ fields, field.2.isWritable = true := by
  induction fields with
  | nil => simp [haveWritable]
  | cons field rest hyp => simp [haveWritable, hyp]

/-- A value is as empty in code points as it is in strings. -/
theorem isEmpty_map_ofString (value : Value) :
    (value.map (Spelling.ofString : String → List CodePoint)).isEmpty = value.isEmpty := by
  cases value with
  | str text => exact List.isEmpty_map
  | list items => cases items <;> rfl
  | object fields =>
    rcases fields with _ | ⟨⟨key, value⟩, fields⟩ <;> rfl
  | _ => rfl

theorem orNull_map_ofString (value : Value) :
    (value.map (Spelling.ofString : String → List CodePoint)).orNull =
      value.orNull.map Spelling.ofString := by
  rw [orNull, orNull, isEmpty_map_ofString]
  split <;> rfl

/-- What is emptied to null stays so. -/
theorem orNull_orNull (value : Value) : value.orNull.orNull = value.orNull := by
  by_cases empty : value.isEmpty = true
  · simp [orNull, empty]
  · simp [orNull, empty]

theorem isWritable_orNull {value : Value} (writable : value.isWritable = true) :
    value.orNull.isWritable = true := by
  rw [orNull]
  split
  · rfl
  · exact writable

end Datum

end KeyChords.Json
