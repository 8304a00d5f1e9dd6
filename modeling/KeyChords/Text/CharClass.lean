/-! # Classes of characters

A class of characters is a list of code point ranges. Membership is all that is asked of a class, so
the order of its ranges and overlaps between them carry no meaning.
-/

namespace KeyChords.Text

/-- **A class of characters**, as the ranges of code points (both ends included) that make it up. -/
structure CharClass where
  ranges : List (Nat × Nat)

namespace CharClass

/-- A character belongs to a class when one of its ranges holds the character's code point. -/
def contains (members : CharClass) (c : Char) : Bool :=
  members.ranges.any fun range => range.1 ≤ c.toNat && c.toNat ≤ range.2

/-- A character is in a class when one of its ranges holds it. -/
theorem contains_iff {members : CharClass} {c : Char} :
    members.contains c = true ↔
      ∃ range ∈ members.ranges, range.1 ≤ c.toNat ∧ c.toNat ≤ range.2 := by
  simp only [contains, List.any_eq_true, Bool.and_eq_true, decide_eq_true_eq]

end CharClass

end KeyChords.Text
