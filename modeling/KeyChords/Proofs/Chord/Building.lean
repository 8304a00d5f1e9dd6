import KeyChords.Proofs.Chord.Spelling

/-! # Presses built and taken apart

A press that is built from modifiers and a key is taken apart into the same modifiers and the same
key. The modifiers that come back are never empty and hold no plus sign, and a key that holds one is
nothing else (`KeyChords.Press.isPlain_read`). So the presses that survive are exactly those of such
parts (`KeyChords.Press.read_built`).
-/

namespace KeyChords

open Text Chord

namespace Press

/-- The text of a press: its modifiers and its key, with plus signs between. -/
def text (press : Press) : String :=
  "+".intercalate (press.modifiers ++ [press.literal])

/-- **A press of plain parts.** The modifiers are named and free of the separator. So is the key,
unless it is the separator. -/
structure IsPlain (press : Press) : Prop where
  named : ∀ modifier ∈ press.modifiers, modifier ≠ ""
  unmarked : ∀ modifier ∈ press.modifiers, '+' ∉ modifier.toList
  literal : press.literal = "+" ∨ '+' ∉ press.literal.toList

/-! ## What a press is taken apart into -/

private theorem literal_readChars (press : List Char) :
    (readChars press).2 = ['+'] ∨ '+' ∉ (readChars press).2 := by
  rw [readChars]
  split
  · exact Or.inl rfl
  · split
    · exact Or.inl rfl
    · right
      obtain ⟨first, others, cut⟩ := List.exists_cons_of_ne_nil (pieces_ne_nil '+' press)
      have last : (pieces '+' press).getLastD [] ∈ pieces '+' press := by
        rw [cut, List.getLastD_cons]
        exact List.getLastD_mem_cons
      exact not_mem_of_mem_pieces last

/-- **Every press is taken apart into plain parts.** -/
theorem isPlain_read (press : String) : (read press).IsPlain where
  named _ member := (modifier_of_mem_read member).1
  unmarked _ member := (modifier_of_mem_read member).2.1
  literal := by
    rcases literal_readChars press.toList with sign | free
    · left
      simp [read, sign]
    · right
      simpa [read] using free

/-! ## Building -/

/-- A key is a press without modifiers. -/
theorem read_literal {literal : String} (plain : literal = "+" ∨ '+' ∉ literal.toList) :
    read literal = ⟨[], literal⟩ := by
  rcases plain with rfl | free
  · rfl
  · have several : literal.toList ≠ ['+'] := by
      intro sign
      exact free (sign ▸ List.mem_singleton_self '+')
    have undoubled : ¬ ['+', '+'] <:+ literal.toList := by
      intro ends
      exact free (ends.subset List.mem_cons_self)
    simp [read, readChars, several, undoubled, pieces_of_not_mem free]

private theorem text_eq_underAll {press : Press} (filled : press.modifiers ≠ []) :
    press.text = underAll press.modifiers press.literal := by
  rw [text, String.intercalate_append_of_ne_nil filled (List.cons_ne_nil _ _),
    String.intercalate_singleton, underAll]

/-- **A press of plain parts is read back.** -/
theorem read_text {press : Press} (plain : press.IsPlain) : read press.text = press := by
  have key := read_literal plain.literal
  by_cases bare : press.modifiers = []
  · obtain ⟨modifiers, literal⟩ := press
    subst bare
    simpa [text] using key
  · rw [text_eq_underAll bare, read_underAll bare fun modifier member =>
      ⟨plain.named modifier member, plain.unmarked modifier member⟩, key, List.append_nil]

/-- **Building a press and taking it apart.** A text in front of a press becomes its first modifier,
and neither its other modifiers nor its key change, exactly when the text is not empty and holds no
plus sign; so the held keys each add one modifier to any press. A press comes back from its text
exactly when its parts are plain. -/
theorem read_built :
    (∀ modifier press, read (modifier ++ "+" ++ press) =
        ⟨modifier :: (read press).modifiers, (read press).literal⟩ ↔
      modifier ≠ "" ∧ '+' ∉ modifier.toList) ∧
    (∀ press : Press, read press.text = press ↔ press.IsPlain) ∧
    ∀ press,
      read (ctrl press) = ⟨"ctrl" :: (read press).modifiers, (read press).literal⟩ ∧
      read (alt press) = ⟨"alt" :: (read press).modifiers, (read press).literal⟩ ∧
      read (shift press) = ⟨"shift" :: (read press).modifiers, (read press).literal⟩ := by
  refine ⟨fun modifier press => ⟨?_, ?_⟩, fun press => ⟨?_, read_text⟩, fun press => ?_⟩
  · intro built
    have plain := built ▸ isPlain_read (modifier ++ "+" ++ press)
    exact ⟨plain.named modifier List.mem_cons_self, plain.unmarked modifier List.mem_cons_self⟩
  · rintro ⟨named, unmarked⟩
    exact read_modified named unmarked press
  · intro back
    exact back ▸ isPlain_read press.text
  · have held {modifier : String} (named : modifier ≠ "") (unmarked : '+' ∉ modifier.toList) :=
      read_modified named unmarked press
    exact ⟨held (by decide) (by decide), held (by decide) (by decide),
      held (by decide) (by decide)⟩

/-- A held plus sign under two modifiers, and the same press under a third. -/
theorem read_heldPlus :
    (Press.mk ["ctrl", "shift"] "+").text = "ctrl+shift++" ∧
      read "ctrl+shift++" = ⟨["ctrl", "shift"], "+"⟩ ∧
      read "alt+ctrl+shift++" = ⟨["alt", "ctrl", "shift"], "+"⟩ := by
  obtain ⟨front, back, -⟩ := read_built
  have spelled : (Press.mk ["ctrl", "shift"] "+").text = "ctrl+shift++" := by decide +kernel
  have whole : read "ctrl+shift++" = ⟨["ctrl", "shift"], "+"⟩ :=
    spelled ▸ (back ⟨["ctrl", "shift"], "+"⟩).mpr ⟨by simp, by simp, by simp⟩
  refine ⟨spelled, whole, ?_⟩
  have further := (front "alt" "ctrl+shift++").mpr ⟨by decide, by decide⟩
  rwa [whole] at further

end Press

end KeyChords
