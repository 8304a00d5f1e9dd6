import Mathlib.Data.List.Perm.Basic
import KeyChords.Proofs.Json.RoundTrip
import KeyChords.Proofs.Json.Unambiguity
import KeyChords.Proofs.Order.Ascending

/-! # Values up to the order of fields

Two values are alike when they are equal but for the order in which their objects, at every level,
have their fields (`KeyChords.Json.Datum.Alike`). The letters of a value with its keys sorted tell
it up to that order. Where no object has two fields of one key, they tell no more than that
(`KeyChords.Json.Datum.sortKeys_eq_iff_alike`).
-/

namespace KeyChords.Json

open KeyChords.Text

namespace Datum

variable {τ : Type}

mutual

/-- **Two values are alike**: they are equal up to the order of the fields of each object. -/
inductive Alike : Datum τ → Datum τ → Prop
  | null : Alike .null .null
  | bool (value : Bool) : Alike (.bool value) (.bool value)
  | int (value : Int) : Alike (.int value) (.int value)
  | float (value : Decimal.Binary64) : Alike (.float value) (.float value)
  | str (text : τ) : Alike (.str text) (.str text)
  | list {items others : List (Datum τ)} (alike : AlikeItems items others) :
      Alike (.list items) (.list others)
  | object {fields others : List (τ × Datum τ)} (alike : AlikeFields fields others) :
      Alike (.object fields) (.object others)

/-- Items that are alike, place by place. -/
inductive AlikeItems : List (Datum τ) → List (Datum τ) → Prop
  | nil : AlikeItems [] []
  | cons {item other : Datum τ} {items others : List (Datum τ)} (first : Alike item other)
      (rest : AlikeItems items others) : AlikeItems (item :: items) (other :: others)

/-- Each field has one of the others to itself, with its key and a value like its own. -/
inductive AlikeFields : List (τ × Datum τ) → List (τ × Datum τ) → Prop
  | nil : AlikeFields [] []
  | cons {key : τ} {value other : Datum τ} {fields before after : List (τ × Datum τ)}
      (first : Alike value other) (rest : AlikeFields fields (before ++ after)) :
      AlikeFields ((key, value) :: fields) (before ++ (key, other) :: after)

end

/-- Only a text is like itself. -/
theorem Alike.eq_str {value : Datum τ} {text : τ} (alike : Alike value (.str text)) :
    value = .str text := by
  cases alike
  rfl

/-- Each of two alike rows of fields has a like partner for every field of the other. -/
theorem AlikeFields.exists_of_mem {fields others : Fields τ} (alike : AlikeFields fields others)
    {field : τ × Datum τ} (member : field ∈ fields) :
    ∃ other, (field.1, other) ∈ others ∧ Alike field.2 other := by
  induction fields generalizing others with
  | nil => cases member
  | cons head fields ih =>
      cases alike with
      | @cons key value other _ before after first rest =>
          rcases List.mem_cons.mp member with rfl | inside
          · exact ⟨other, List.mem_append_right before List.mem_cons_self, first⟩
          · obtain ⟨partner, present, like⟩ := ih rest inside
            refine ⟨partner, ?_, like⟩
            rcases List.mem_append.mp present with front | back
            · exact List.mem_append_left _ front
            · exact List.mem_append_right before (List.mem_cons_of_mem _ back)

/-! ## Sorted keys -/

variable [LE τ] [DecidableLE τ]

/-- Sorting below a row of fields sorts each value. -/
theorem sortKeysFields_eq_map (fields : Fields τ) :
    sortKeysFields fields = fields.map fun field => (field.1, field.2.sortKeys) := by
  induction fields with
  | nil => rfl
  | cons field fields ih =>
      obtain ⟨key, value⟩ := field
      rw [sortKeysFields, ih, List.map_cons]

/-- Sorting the keys of two objects leads to the same fields only if they had the same ones. -/
theorem perm_sortKeysFields {fields others : Fields τ}
    (same : (Datum.object fields).sortKeys = (Datum.object others).sortKeys) :
    (sortKeysFields fields).Perm (sortKeysFields others) := by
  have first := List.mergeSort_perm (sortKeysFields fields)
    fun left right => decide (left.1 ≤ right.1)
  rw [Datum.object.inj same] at first
  exact first.symm.trans (List.mergeSort_perm _ _)

/-- A field with its value sorted comes from a field. -/
theorem exists_split_of_mem {fields : Fields τ} {key : τ} {value : Datum τ}
    (member : (key, value) ∈ sortKeysFields fields) :
    ∃ before other after, fields = before ++ (key, other) :: after ∧ other.sortKeys = value := by
  rw [sortKeysFields_eq_map] at member
  obtain ⟨⟨name, other⟩, inside, same⟩ := List.mem_map.mp member
  obtain ⟨rfl, sorted⟩ := Prod.mk.inj same
  obtain ⟨before, after, split⟩ := List.append_of_mem inside
  exact ⟨before, other, after, split, sorted⟩

mutual

/-- **Values that are the same with their keys sorted are alike.** -/
theorem alike_of_sortKeys : ∀ (left right : Datum τ), left.sortKeys = right.sortKeys →
    Alike left right
  | .null, right, same => by
      cases right <;> cases same
      exact .null
  | .bool value, right, same => by
      cases right <;> cases same
      exact .bool value
  | .int value, right, same => by
      cases right <;> cases same
      exact .int value
  | .float value, right, same => by
      cases right <;> cases same
      exact .float value
  | .str text, right, same => by
      cases right <;> cases same
      exact .str text
  | .list items, right, same => by
      cases right with
      | list others => exact .list (alikeItems_of_sortKeys items others (Datum.list.inj same))
      | _ => cases same
  | .object fields, right, same => by
      cases right with
      | object others =>
          exact .object (alikeFields_of_perm fields others (perm_sortKeysFields same))
      | _ => cases same

private theorem alikeItems_of_sortKeys : ∀ (items others : List (Datum τ)),
    sortKeysItems items = sortKeysItems others → AlikeItems items others
  | [], others, same => by
      cases others <;> cases same
      exact .nil
  | item :: items, others, same => by
      cases others with
      | nil => cases same
      | cons other others =>
          obtain ⟨first, rest⟩ := List.cons.inj same
          exact .cons (alike_of_sortKeys item other first)
            (alikeItems_of_sortKeys items others rest)

/-- Objects whose sorted fields are a permutation of each other are alike. -/
theorem alikeFields_of_perm : ∀ (fields others : List (τ × Datum τ)),
    (sortKeysFields fields).Perm (sortKeysFields others) → AlikeFields fields others
  | [], others, perm => by
      have none : sortKeysFields others = [] := perm.nil_eq.symm
      rw [sortKeysFields_eq_map, List.map_eq_nil_iff] at none
      rw [none]
      exact .nil
  | (key, value) :: fields, others, perm => by
      have present : (key, value.sortKeys) ∈ sortKeysFields others :=
        perm.subset List.mem_cons_self
      obtain ⟨before, other, after, rfl, same⟩ := exists_split_of_mem present
      have middle : (sortKeysFields (before ++ (key, other) :: after)).Perm
          ((key, value.sortKeys) :: sortKeysFields (before ++ after)) := by
        simp only [sortKeysFields_eq_map, List.map_append, List.map_cons, same]
        exact List.perm_middle
      have rest : (sortKeysFields fields).Perm (sortKeysFields (before ++ after)) :=
        (perm.trans middle).cons_inv
      exact .cons (alike_of_sortKeys value other same.symm)
        (alikeFields_of_perm fields (before ++ after) rest)

end

/-- Objects with the same fields in another order are alike, whatever the objects inside them. -/
theorem alike_object_of_perm {fields middle others : Fields τ} (perm : fields.Perm middle)
    (same : (Datum.object middle).sortKeys = (Datum.object others).sortKeys) :
    Alike (.object fields) (.object others) := by
  refine .object (alikeFields_of_perm fields others (List.Perm.trans ?_ (perm_sortKeysFields same)))
  rw [sortKeysFields_eq_map, sortKeysFields_eq_map]
  exact perm.map _

variable {κ : Type} [Letter κ] [Spelling τ κ] [ExactLetter κ] [ExactSpelling τ]

/-- **The sorted letters of a value tell its sorted form.** -/
theorem sortKeys_eq_of_sortedLetters {left right : Datum τ}
    (same : (left.sortedLetters : List κ) = right.sortedLetters) :
    left.sortKeys = right.sortKeys :=
  write_injective .inline 0 same

/-- The sorted texts of two values agree just when the values do, once sorted. -/
theorem sortedLetters_eq_iff {left right : Datum τ} :
    (left.sortedLetters : List κ) = right.sortedLetters ↔ left.sortKeys = right.sortKeys :=
  ⟨sortKeys_eq_of_sortedLetters, congrArg fun value : Datum τ => value.write .inline 0⟩

/-! ## Distinct keys -/

-- Two fields of one key keep their order when they are sorted, so alike objects with such fields
-- may be sorted differently.

mutual

/-- **Values that are alike are the same with their keys sorted**, where keys are distinct. -/
theorem sortKeys_eq_of_alike : ∀ {left right : Value}, left.hasDistinctKeys = true →
    left.Alike right → left.sortKeys = right.sortKeys
  | .null, _, _, .null => rfl
  | .bool _, _, _, .bool _ => rfl
  | .int _, _, _, .int _ => rfl
  | .float _, _, _, .float _ => rfl
  | .str _, _, _, .str _ => rfl
  | .list _, _, distinct, .list alike =>
      congrArg Datum.list (sortKeysItems_eq_of_alike distinct alike)
  | .object fields, .object others, distinct, .object alike => by
      obtain ⟨names, held⟩ := (Bool.and_eq_true _ _).mp distinct
      refine congrArg Datum.object
        (mergeSort_key_congr (perm_sortKeysFields_of_alike held alike) ?_)
      rw [sortKeysFields_eq_map, List.map_map]
      exact of_decide_eq_true names

private theorem sortKeysItems_eq_of_alike : ∀ {items others : List Value},
    haveDistinctKeys items = true → AlikeItems items others →
    sortKeysItems items = sortKeysItems others
  | [], _, _, .nil => rfl
  | item :: items, _, distinct, .cons first rest => by
      obtain ⟨head, tail⟩ := (Bool.and_eq_true _ _).mp distinct
      rw [sortKeysItems, sortKeysItems, sortKeys_eq_of_alike head first,
        sortKeysItems_eq_of_alike tail rest]

private theorem perm_sortKeysFields_of_alike : ∀ {fields others : Fields String},
    holdDistinctKeys fields = true → AlikeFields fields others →
    (sortKeysFields fields).Perm (sortKeysFields others)
  | [], _, _, .nil => .nil
  | (key, value) :: fields, _, distinct, .cons first rest => by
      obtain ⟨head, tail⟩ := (Bool.and_eq_true _ _).mp distinct
      have behind := (perm_sortKeysFields_of_alike tail rest).cons (key, value.sortKeys)
      rw [sortKeysFields, sortKeys_eq_of_alike head first]
      rw [sortKeys_eq_of_alike head first] at behind
      simp only [sortKeysFields_eq_map, List.map_append, List.map_cons] at behind ⊢
      exact behind.trans List.perm_middle.symm

end

/-- **The sorted form of a value is the value up to the order of fields.** -/
theorem sortKeys_eq_iff_alike {left right : Value} (distinct : left.hasDistinctKeys = true) :
    left.sortKeys = right.sortKeys ↔ left.Alike right :=
  ⟨alike_of_sortKeys left right, sortKeys_eq_of_alike distinct⟩

end Datum

end KeyChords.Json
