/-! # Cutting a text at a separator

`pieces` cuts at every occurrence of a separator, so a text with `n` separators has `n + 1` pieces,
some of which may be empty. `joined` is its inverse.
-/

namespace KeyChords.Text

/-- The stretches of a text between the occurrences of a separator. -/
def pieces (separator : Char) : List Char → List (List Char)
  | [] => [[]]
  | c :: rest =>
    if c = separator then [] :: pieces separator rest
    else
      match pieces separator rest with
      | [] => [[c]]
      | piece :: others => (c :: piece) :: others

/-- The pieces put together again, with the separator between each two neighbours. -/
def joined (separator : Char) : List (List Char) → List Char
  | [] => []
  | [piece] => piece
  | piece :: others => piece ++ separator :: joined separator others

@[simp]
theorem pieces_ne_nil (separator : Char) (text : List Char) : pieces separator text ≠ [] := by
  cases text with
  | nil => simp [pieces]
  | cons c rest =>
    simp only [pieces]
    split
    · simp
    · split <;> simp

/-- No piece holds the separator. -/
theorem not_mem_of_mem_pieces {separator : Char} {text piece : List Char}
    (member : piece ∈ pieces separator text) : separator ∉ piece := by
  induction text generalizing piece with
  | nil => simp_all [pieces]
  | cons c rest hyp =>
    obtain ⟨first, others, cut⟩ := List.exists_cons_of_ne_nil (pieces_ne_nil separator rest)
    rw [cut] at hyp
    by_cases same : c = separator
    · subst same
      simp only [pieces, ↓reduceIte, cut, List.mem_cons] at member hyp
      rcases member with rfl | later
      · simp
      · exact hyp later
    · simp only [pieces, same, ↓reduceIte, cut, List.mem_cons] at member hyp
      rcases member with rfl | later
      · have := hyp (Or.inl rfl)
        simp [Ne.symm same, this]
      · exact hyp (Or.inr later)

/-- The pieces of two texts with a separator between them are those of the one and those of the
other. -/
theorem pieces_append_separator (separator : Char) (left right : List Char) :
    pieces separator (left ++ separator :: right) =
      pieces separator left ++ pieces separator right := by
  induction left with
  | nil => simp [pieces]
  | cons c rest hyp =>
    obtain ⟨piece, others, cut⟩ := List.exists_cons_of_ne_nil (pieces_ne_nil separator rest)
    by_cases same : c = separator
    · simp [pieces, same, hyp]
    · simp only [List.cons_append, pieces, same, ↓reduceIte, hyp, cut]

/-- The characters of a piece come from the text. -/
theorem mem_of_mem_pieces {separator c : Char} {text piece : List Char}
    (member : piece ∈ pieces separator text) (inside : c ∈ piece) : c ∈ text := by
  induction text generalizing piece with
  | nil => simp_all [pieces]
  | cons first rest hyp =>
    obtain ⟨head, others, cut⟩ := List.exists_cons_of_ne_nil (pieces_ne_nil separator rest)
    rw [cut] at hyp
    by_cases same : first = separator
    · simp only [pieces, same, ↓reduceIte, cut, List.mem_cons] at member hyp
      rcases member with rfl | later
      · simp at inside
      · exact List.mem_cons_of_mem first (hyp later inside)
    · simp only [pieces, same, ↓reduceIte, cut, List.mem_cons] at member hyp
      rcases member with rfl | later
      · rcases List.mem_cons.mp inside with rfl | deeper
        · exact List.mem_cons_self
        · exact List.mem_cons_of_mem first (hyp (Or.inl rfl) deeper)
      · exact List.mem_cons_of_mem first (hyp (Or.inr later) inside)

/-- A text without the separator is its only piece. -/
theorem pieces_of_not_mem {separator : Char} {text : List Char} (absent : separator ∉ text) :
    pieces separator text = [text] := by
  induction text with
  | nil => rfl
  | cons c rest hyp =>
    simp only [List.mem_cons, not_or] at absent
    simp [pieces, Ne.symm absent.1, hyp absent.2]

end KeyChords.Text
