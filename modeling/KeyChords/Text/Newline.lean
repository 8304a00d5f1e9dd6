/-! # Line ends

A text file is read with one kind of line end: a carriage return counts as a line feed, and one that
a line feed follows counts together with it.
-/

namespace KeyChords.Text

/-- A text with line feeds at the ends of its lines. -/
def plainNewlines : List Char → List Char
  | [] => []
  | '\r' :: '\n' :: rest => '\n' :: plainNewlines rest
  | c :: rest => (if c = '\r' then '\n' else c) :: plainNewlines rest

/-- A text without carriage returns is left as it is. -/
theorem plainNewlines_of_not_mem {text : List Char} (absent : '\r' ∉ text) :
    plainNewlines text = text := by
  induction text with
  | nil => rfl
  | cons c rest hyp =>
    simp only [List.mem_cons, not_or] at absent
    rw [plainNewlines]
    · simp [Ne.symm absent.1, hyp absent.2]
    · rintro _ rfl _
      exact absent.1 rfl

end KeyChords.Text
