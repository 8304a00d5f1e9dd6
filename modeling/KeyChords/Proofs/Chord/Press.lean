import Mathlib.Data.List.Basic
import KeyChords.Chord

/-! # Presses taken apart

A press is taken apart at its plus signs, except that a plus sign at its end is its key. Putting a
modifier in front of a press puts it in front of the modifiers and leaves the key alone, whatever
the press looks like (`KeyChords.Press.read_modified`).
-/

namespace KeyChords

open Text

namespace Press

/-- The characters of a modifier are those of the press, the separator apart, and there are some. -/
theorem modifier_of_mem_readChars {press modifier : List Char}
    (member : modifier ∈ (readChars press).1) :
    modifier ≠ [] ∧ '+' ∉ modifier ∧ ∀ c ∈ modifier, c ∈ press := by
  have ofPieces {text : List Char} (inside : ∀ c ∈ text, c ∈ press)
      (piece : modifier ∈ pieces '+' text) (filled : modifier ≠ []) :
      modifier ≠ [] ∧ '+' ∉ modifier ∧ ∀ c ∈ modifier, c ∈ press :=
    ⟨filled, not_mem_of_mem_pieces piece, fun c held => inside c (mem_of_mem_pieces piece held)⟩
  rw [readChars] at member
  split at member
  · simp at member
  · split at member
    · obtain ⟨piece, filled⟩ := List.mem_filter.mp member
      exact ofPieces (fun c held => List.mem_of_mem_take held) piece (of_decide_eq_true filled)
    · obtain ⟨piece, filled⟩ := List.mem_filter.mp member
      exact ofPieces (fun c held => held) ((List.dropLast_sublist _).subset piece)
        (of_decide_eq_true filled)

/-- A press that ends in two plus signs has the last one as its key. -/
theorem readChars_append_doublePlus (front : List Char) :
    readChars (front ++ ['+', '+']) = ((pieces '+' front).filter (· ≠ []), ['+']) := by
  have several : front ++ ['+', '+'] ≠ ['+'] := by
    intro single
    have length := congrArg List.length single
    simp at length
  have cut : (front ++ ['+', '+']).take ((front ++ ['+', '+']).length - 2) = front := by simp
  rw [readChars, if_neg several, if_pos (List.suffix_append front ['+', '+']), cut]

variable {modifier : List Char}

private theorem pieces_modified (plain : '+' ∉ modifier) (press : List Char) :
    pieces '+' (modifier ++ '+' :: press) = modifier :: pieces '+' press := by
  rw [pieces_append_separator, pieces_of_not_mem plain, List.singleton_append]

/-- A press ends in two plus signs under a further modifier just when it did before or when it is a
plus sign. -/
theorem doublePlus_suffix_modified (plain : '+' ∉ modifier) (press : List Char) :
    ['+', '+'] <:+ modifier ++ '+' :: press ↔ ['+', '+'] <:+ press ∨ press = ['+'] := by
  constructor
  · intro ends
    match press with
    | [] =>
        obtain ⟨before, split⟩ := ends
        have last : before ++ ['+'] = modifier := by
          have cut := congrArg List.dropLast split
          simpa [List.dropLast_append_of_ne_nil] using cut
        exact absurd (last ▸ List.mem_append_right before (List.mem_singleton_self '+')) plain
    | [c] =>
        obtain ⟨before, split⟩ := ends
        have last := congrArg List.getLast? split
        simp only [List.getLast?_append, List.getLast?_cons_cons, List.getLast?_singleton,
          Option.some_or, Option.some.injEq] at last
        exact Or.inr (by rw [← last])
    | first :: second :: rest =>
        left
        refine List.suffix_of_suffix_length_le ends ?_ (by simp)
        exact ⟨modifier ++ ['+'], by simp⟩
  · rintro (ends | rfl)
    · exact ends.trans ⟨modifier ++ ['+'], by simp⟩
    · exact List.suffix_append modifier ['+', '+']

/-- **A modifier in front of a press**, in characters. -/
theorem readChars_modified (filled : modifier ≠ []) (plain : '+' ∉ modifier)
    (press : List Char) :
    readChars (modifier ++ '+' :: press) =
      (modifier :: (readChars press).1, (readChars press).2) := by
  by_cases alone : press = ['+']
  · subst alone
    rw [show modifier ++ '+' :: ['+'] = modifier ++ ['+', '+'] from rfl,
      readChars_append_doublePlus, pieces_of_not_mem plain, readChars, if_pos rfl]
    simp [filled]
  · by_cases doubled : ['+', '+'] <:+ press
    · obtain ⟨front, rfl⟩ := doubled
      rw [← List.cons_append, ← List.append_assoc, readChars_append_doublePlus,
        readChars_append_doublePlus, pieces_modified plain]
      simp [filled]
    · have several : modifier ++ '+' :: press ≠ ['+'] := by
        intro single
        have length := congrArg List.length single
        rw [List.length_append, List.length_cons, List.length_singleton] at length
        exact filled (List.eq_nil_of_length_eq_zero (by omega))
      have undoubled : ¬ ['+', '+'] <:+ modifier ++ '+' :: press := by
        rw [doublePlus_suffix_modified plain press]
        exact not_or.mpr ⟨doubled, alone⟩
      obtain ⟨first, others, cut⟩ := List.exists_cons_of_ne_nil (pieces_ne_nil '+' press)
      rw [readChars, if_neg several, if_neg undoubled, readChars, if_neg alone, if_neg doubled,
        pieces_modified plain, cut]
      simp [filled]

/-- **A modifier in front of a press** is put in front of its modifiers and leaves its key alone. -/
theorem read_modified {modifier : String} (filled : modifier ≠ "") (plain : '+' ∉ modifier.toList)
    (press : String) :
    read (Chord.modified modifier press) =
      ⟨modifier :: (read press).modifiers, (read press).literal⟩ := by
  have letters : (Chord.modified modifier press).toList =
      modifier.toList ++ '+' :: press.toList := by
    simp [Chord.modified]
  have some : modifier.toList ≠ [] := by simpa using filled
  simp only [read, letters, readChars_modified some plain, List.map_cons, String.ofList_toList]

/-- The modifiers of a press are texts that could be put in front of one. -/
theorem modifier_of_mem_read {press modifier : String}
    (member : modifier ∈ (read press).modifiers) :
    modifier ≠ "" ∧ '+' ∉ modifier.toList ∧ ∀ c ∈ modifier.toList, c ∈ press.toList := by
  obtain ⟨letters, inside, rfl⟩ := List.mem_map.mp member
  obtain ⟨filled, plain, held⟩ := modifier_of_mem_readChars inside
  rw [String.toList_ofList]
  exact ⟨by simpa using filled, plain, held⟩

end Press

end KeyChords
