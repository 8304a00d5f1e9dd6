import Mathlib.Data.List.Perm.Basic
import KeyChords.Drift

/-! # Places at which two lists differ

The places at which two lists differ (`KeyChords.Drift.differing`) are what is reported of lines
that are there in another order (`KeyChords.Drift.reordered_eq_map`). There are at least two of
them, or none.
-/

namespace KeyChords.Drift

open Text

section Places

variable {α : Type} [DecidableEq α] {left right : List α}

/-- The places at which two lists differ, in increasing order. -/
def differing (left right : List α) : List Nat :=
  (List.range left.length).filter fun place => left[place]? ≠ right[place]?

/-- Two lists differ in their heads, or one place further than their tails do. -/
theorem differing_cons (first other : α) (left right : List α) :
    differing (first :: left) (other :: right) =
      (if first = other then [] else [0]) ++ (differing left right).map (· + 1) := by
  rw [differing, List.length_cons, List.range_succ_eq_map, List.filter_cons, List.filter_map]
  by_cases same : first = other
  · simp [same, differing, Function.comp_def]
  · simp [same, differing, Function.comp_def]

/-- Lists of one length that differ nowhere are the same. -/
theorem eq_of_differing (lengths : left.length = right.length) (none : differing left right = []) :
    left = right := by
  induction left generalizing right with
  | nil => exact (List.length_eq_zero_iff.mp lengths.symm).symm
  | cons first left ih =>
      cases right with
      | nil => cases lengths
      | cons other right =>
          rw [differing_cons, List.append_eq_nil_iff, List.map_eq_nil_iff] at none
          obtain ⟨here, later⟩ := none
          rw [ih (Nat.succ.inj lengths) later]
          by_cases same : first = other
          · rw [same]
          · rw [if_neg same] at here
            cases here

/-- **Lists with the same elements do not differ at one place only.** -/
theorem two_le_length_differing (perm : left.Perm right) (differ : left ≠ right) :
    2 ≤ (differing left right).length := by
  induction left generalizing right with
  | nil => exact absurd perm.nil_eq differ
  | cons first left ih =>
      cases right with
      | nil => cases perm.length_eq
      | cons other right =>
          rw [differing_cons, List.length_append, List.length_map]
          by_cases same : first = other
          · subst same
            have further := ih perm.cons_inv fun rest => differ (congrArg (first :: ·) rest)
            rwa [if_pos rfl, List.length_nil, Nat.zero_add]
          · rw [if_neg same]
            by_contra few
            have none : differing left right = [] := by
              rw [← List.length_eq_zero_iff]
              simp only [List.length_singleton] at few
              omega
            have rest : left = right := eq_of_differing (Nat.succ.inj perm.length_eq) none
            subst rest
            have alone : [first].Perm [other] := (List.perm_append_right_iff left).mp perm
            exact same (List.singleton_perm_singleton.mp alone)

end Places

section Lines

variable {κ : Type} [Letter κ]

/-- The report of a place at which another line was expected. -/
def placeReport (place : Nat) (wanted held : List κ) : String :=
  "~ index " ++ toString place ++ ": expected " ++ lineText wanted ++ " got " ++ lineText held

variable [DecidableEq κ]

/-- The report of an order has one line for each place in which the identities differ. -/
theorem reordered_eq_map (index : Nat) {expected actual : List (List κ)}
    (lengths : expected.length = actual.length) :
    reordered index expected actual = (differing expected actual).map fun place =>
      placeReport (index + place) (expected.getD place []) (actual.getD place []) := by
  induction expected generalizing index actual with
  | nil => rfl
  | cons wanted expected ih =>
      cases actual with
      | nil => cases lengths
      | cons held actual =>
          rw [reordered, ih (index + 1) (Nat.succ.inj lengths), differing_cons, List.map_append,
            List.map_map]
          by_cases same : wanted = held
          · simp [same, Function.comp_def, Nat.add_assoc, Nat.add_comm 1]
          · simp [same, Function.comp_def, Nat.add_assoc, Nat.add_comm 1, placeReport]

end Lines

end KeyChords.Drift
