/-! # Aligning two lists

Two lists are aligned by their longest common block: it is kept, and what stands before it and
behind it is aligned in the same way. Of several longest blocks the one that begins first in the
left list is taken, and of those the one that begins first in the right list. Where there is no
common block, everything on the left is dropped and everything on the right is added.
-/

namespace KeyChords.Drift

variable {α : Type} [DecidableEq α]

/-- The length of the longest beginning that two lists have in common. -/
def sharedLength : List α → List α → Nat
  | a :: left, b :: right => if a = b then sharedLength left right + 1 else 0
  | _, _ => 0

/-- The shared stretch is no longer than the left list. -/
theorem sharedLength_le_left (left right : List α) : sharedLength left right ≤ left.length := by
  fun_induction sharedLength left right <;> simp_all

/-- Two lists agree on the stretch that they share. -/
theorem take_sharedLength (left right : List α) :
    left.take (sharedLength left right) = right.take (sharedLength left right) := by
  fun_induction sharedLength left right <;> simp_all

/-- **A common block**: where it begins on the left and on the right, and its length. -/
structure Block where
  left : Nat
  right : Nat
  length : Nat
  deriving DecidableEq, Repr

/-- The longer of two blocks, the first one when they are as long as each other. -/
def Block.longer (first second : Block) : Block :=
  if first.length < second.length then second else first

/-- The longest block that begins at a place on the left, against all places on the right. -/
def longestAt (place : Nat) (left : List α) : (offset : Nat) → (right : List α) → Block
  | offset, [] => ⟨place, offset, 0⟩
  | offset, b :: right =>
    Block.longer ⟨place, offset, sharedLength left (b :: right)⟩
      (longestAt place left (offset + 1) right)

/-- **The longest common block** of two lists. -/
def longest (right : List α) : (place : Nat) → (left : List α) → Block
  | place, [] => ⟨place, 0, 0⟩
  | place, a :: left =>
    Block.longer (longestAt place (a :: left) 0 right) (longest right (place + 1) left)

private theorem longestAt_left (place : Nat) (left : List α) (offset : Nat) (right : List α) :
    (longestAt place left offset right).left = place := by
  induction right generalizing offset with
  | nil => rfl
  | cons b right hyp =>
    simp only [longestAt, Block.longer]
    split
    · exact hyp _
    · rfl

private theorem longestAt_length_le (place : Nat) (left : List α) (offset : Nat) (right : List α) :
    (longestAt place left offset right).length ≤ left.length := by
  induction right generalizing offset with
  | nil => exact Nat.zero_le _
  | cons b right hyp =>
    simp only [longestAt, Block.longer]
    split
    · exact hyp _
    · exact sharedLength_le_left _ _

private theorem longest_inside (right : List α) (place : Nat) (left : List α) :
    (longest right place left).left + (longest right place left).length ≤
      place + left.length := by
  induction left generalizing place with
  | nil => simp [longest]
  | cons a left hyp =>
    simp only [longest, Block.longer]
    split
    · have := hyp (place + 1)
      simp only [List.length_cons]
      omega
    · have := longestAt_length_le place (a :: left) 0 right
      rw [longestAt_left]
      omega

/-- **A place where two lists differ**: what only the left one holds there, and what only the right
one does. -/
structure Change (α : Type) where
  dropped : List α
  added : List α
  deriving Repr

/-- The changes from the left list to the right one, in order. -/
def changes (left right : List α) : List (Change α) :=
  if _common : 0 < (longest right 0 left).length then
    let block := longest right 0 left
    changes (left.take block.left) (right.take block.right) ++
      changes (left.drop (block.left + block.length)) (right.drop (block.right + block.length))
  else if left = [] ∧ right = [] then []
  else [⟨left, right⟩]
termination_by left.length
decreasing_by
  · have := longest_inside right 0 left
    simp only [List.length_take]
    omega
  · have := longest_inside right 0 left
    simp only [List.length_drop]
    omega

end KeyChords.Drift
