import KeyChords.Drift.Alignment
import Mathlib.Data.List.Infix

/-! # Longest common blocks

The longest block that is found is one that two lists have in common
(`KeyChords.Drift.isCommon_longest`), and no common block is longer
(`KeyChords.Drift.length_le_longest`). So lists are aligned either around a block that they share or
not at all, because they have nothing in common: what holds of the one and is kept by the other
holds of every alignment (`KeyChords.Drift.changes_induction`).
-/

namespace KeyChords.Drift

variable {α : Type}

/-- **A block that two lists have in common**, where the lists begin at given places. -/
def IsCommon (place offset : Nat) (left right : List α) (block : Block) : Prop :=
  ∃ before after other behind shared, left = before ++ shared ++ after ∧
    right = other ++ shared ++ behind ∧
    block = ⟨place + before.length, offset + other.length, shared.length⟩

private theorem isCommon_longer {place offset : Nat} {left right : List α} {first second : Block}
    (one : IsCommon place offset left right first) (two : IsCommon place offset left right second) :
    IsCommon place offset left right (first.longer second) := by
  unfold Block.longer
  split
  · exact two
  · exact one

variable [DecidableEq α]

private theorem isCommon_sharedLength (place offset : Nat) (left right : List α) :
    IsCommon place offset left right ⟨place, offset, sharedLength left right⟩ := by
  refine ⟨[], left.drop (sharedLength left right), [], right.drop (sharedLength left right),
    left.take (sharedLength left right), ?_, ?_, ?_⟩
  · exact (List.take_append_drop _ left).symm
  · rw [take_sharedLength]
    exact (List.take_append_drop _ right).symm
  · rw [List.length_take_of_le (sharedLength_le_left left right)]
    rfl

private theorem isCommon_longestAt (place : Nat) (left : List α) (offset : Nat) (right : List α) :
    IsCommon place offset left right (longestAt place left offset right) := by
  induction right generalizing offset with
  | nil => exact ⟨[], left, [], [], [], rfl, rfl, rfl⟩
  | cons b right ih =>
      refine isCommon_longer (isCommon_sharedLength place offset left (b :: right)) ?_
      obtain ⟨before, after, other, behind, shared, leftSplit, rightSplit, block⟩ := ih (offset + 1)
      refine ⟨before, after, b :: other, behind, shared, leftSplit, ?_, ?_⟩
      · rw [rightSplit]
        rfl
      · rw [block, List.length_cons]
        congr 1
        omega

/-- **The longest block is one that the lists have in common.** -/
theorem isCommon_longest (right : List α) (place : Nat) (left : List α) :
    IsCommon place 0 left right (longest right place left) := by
  induction left generalizing place with
  | nil => exact ⟨[], [], [], right, [], rfl, rfl, rfl⟩
  | cons a left ih =>
      refine isCommon_longer (isCommon_longestAt place (a :: left) 0 right) ?_
      obtain ⟨before, after, other, behind, shared, leftSplit, rightSplit, block⟩ := ih (place + 1)
      refine ⟨a :: before, after, other, behind, shared, ?_, rightSplit, ?_⟩
      · rw [leftSplit]
        rfl
      · rw [block, List.length_cons]
        congr 1
        omega

private theorem Block.length_longer (first second : Block) :
    (first.longer second).length = max first.length second.length := by
  unfold Block.longer
  split <;> omega

variable {shared left right : List α}

private theorem length_le_sharedLength (onLeft : shared <+: left) (onRight : shared <+: right) :
    shared.length ≤ sharedLength left right := by
  induction shared generalizing left right with
  | nil => exact Nat.zero_le _
  | cons element shared ih =>
      obtain ⟨leftRest, rfl⟩ := onLeft
      obtain ⟨rightRest, rfl⟩ := onRight
      have more := ih (List.prefix_append shared leftRest) (List.prefix_append shared rightRest)
      simpa [sharedLength] using more

private theorem length_le_longestAt (onLeft : shared <+: left) (onRight : shared <:+: right)
    (place offset : Nat) : shared.length ≤ (longestAt place left offset right).length := by
  induction right generalizing offset with
  | nil => simp [List.infix_nil.mp onRight]
  | cons element right ih =>
      rw [longestAt, Block.length_longer]
      rcases List.infix_cons_iff.mp onRight with here | later
      · exact Nat.le_trans (length_le_sharedLength onLeft here) (Nat.le_max_left _ _)
      · exact Nat.le_trans (ih later (offset + 1)) (Nat.le_max_right _ _)

/-- **No common block is longer than the longest.** -/
theorem length_le_longest (onLeft : shared <:+: left) (onRight : shared <:+: right)
    (place : Nat) : shared.length ≤ (longest right place left).length := by
  induction left generalizing place with
  | nil => simp [List.infix_nil.mp onLeft]
  | cons element left ih =>
      rw [longest, Block.length_longer]
      rcases List.infix_cons_iff.mp onLeft with here | later
      · exact Nat.le_trans (length_le_longestAt here onRight place 0) (Nat.le_max_left _ _)
      · exact Nat.le_trans (ih later (place + 1)) (Nat.le_max_right _ _)

/-- Lists without a common block have nothing in common. -/
theorem disjoint_of_longest (none : (longest right 0 left).length = 0) : left.Disjoint right := by
  intro element inLeft inRight
  have single := length_le_longest ((List.singleton_infix_iff element left).mpr inLeft)
    ((List.singleton_infix_iff element right).mpr inRight) 0
  rw [none] at single
  cases single

/-- **An alignment is made around a common block**, or of lists that have nothing in common. -/
theorem changes_induction {motive : List α → List α → List (Change α) → Prop}
    (nothing : motive [] [] [])
    (apart : ∀ left right, left.Disjoint right → ¬(left = [] ∧ right = []) →
      motive left right [⟨left, right⟩])
    (around : ∀ before shared after other behind, shared ≠ [] →
      motive before other (changes before other) → motive after behind (changes after behind) →
      motive (before ++ shared ++ after) (other ++ shared ++ behind)
        (changes before other ++ changes after behind))
    (left right : List α) : motive left right (changes left right) := by
  fun_induction changes left right with
  | case1 left right common block front back =>
      obtain ⟨before, after, other, behind, shared, leftSplit, rightSplit, found⟩ :=
        isCommon_longest right 0 left
      have same : block = ⟨0 + before.length, 0 + other.length, shared.length⟩ := found
      have filled : shared ≠ [] := by
        rintro rfl
        rw [found] at common
        exact absurd common (Nat.lt_irrefl 0)
      have cuts : left.take block.left = before ∧ right.take block.right = other ∧
          left.drop (block.left + block.length) = after ∧
          right.drop (block.right + block.length) = behind := by
        rw [same, leftSplit, rightSplit]
        simp
      obtain ⟨leftFront, rightFront, leftBack, rightBack⟩ := cuts
      rw [leftFront, rightFront] at front ⊢
      rw [leftBack, rightBack] at back ⊢
      have whole := around before shared after other behind filled front back
      rwa [← leftSplit, ← rightSplit] at whole
  | case2 left right none empty =>
      obtain ⟨rfl, rfl⟩ := empty
      exact nothing
  | case3 left right none differ =>
      exact apart left right (disjoint_of_longest (Nat.eq_zero_of_not_pos none)) differ

end KeyChords.Drift
