import KeyChords.Proofs.Drift.Blocks

/-! # Edit scripts

The changes from one list to another are an edit script (`KeyChords.Drift.EditScript`): the lists
are made of the same stretches, and between these one holds what a change drops and the other what
it adds. So lists without a change between them are the same.
-/

namespace KeyChords.Drift

variable {α : Type}

/-- **An edit script**: stretches that both lists keep, with a change between each two of them that
drops or adds something. -/
inductive EditScript : List (Change α) → List α → List α → Prop
  | kept (stretch : List α) : EditScript [] stretch stretch
  | change (stretch : List α) {made : Change α} (real : ¬(made.dropped = [] ∧ made.added = []))
      {more : List (Change α)} {left right : List α} (rest : EditScript more left right) :
      EditScript (made :: more) (stretch ++ made.dropped ++ left) (stretch ++ made.added ++ right)

namespace EditScript

variable {made more : List (Change α)} {left right others rest : List α}

/-- A stretch in front of both lists is kept. -/
theorem keep (script : EditScript made left right) (stretch : List α) :
    EditScript made (stretch ++ left) (stretch ++ right) := by
  cases script with
  | kept => exact .kept (stretch ++ left)
  | change further real script =>
      have longer := EditScript.change (stretch ++ further) real script
      simp only [List.append_assoc] at longer ⊢
      exact longer

/-- Two scripts, one behind the other, edit the lists behind each other. -/
theorem append (first : EditScript made left right) (second : EditScript more others rest) :
    EditScript (made ++ more) (left ++ others) (right ++ rest) := by
  induction first with
  | kept stretch => exact second.keep stretch
  | change stretch real _ ih =>
      have longer := EditScript.change stretch real ih
      simp only [List.append_assoc] at longer ⊢
      exact longer

/-- **Every change of an edit script drops or adds something.** -/
theorem real_of_mem (script : EditScript made left right) {change : Change α}
    (member : change ∈ made) : ¬(change.dropped = [] ∧ change.added = []) := by
  induction script with
  | kept => cases member
  | change stretch real _ ih =>
      rcases List.mem_cons.mp member with rfl | later
      · exact real
      · exact ih later

/-- Without a change the two lists are the same. -/
theorem eq_of_nil (script : EditScript [] left right) : left = right := by
  cases script
  rfl

/-- **The stretches of an edit script.** Both lists begin with the same stretch; for each change
they go on with what it drops or with what it adds, and then with a further stretch. -/
theorem exists_stretches (script : EditScript made left right) :
    ∃ (first : List α) (pieces : List (Change α × List α)), made = pieces.map Prod.fst ∧
      left = first ++ pieces.flatMap (fun piece => piece.1.dropped ++ piece.2) ∧
      right = first ++ pieces.flatMap (fun piece => piece.1.added ++ piece.2) := by
  induction script with
  | kept stretch =>
      exact ⟨stretch, [], rfl, (List.append_nil stretch).symm, (List.append_nil stretch).symm⟩
  | @change stretch change real more left right rest ih =>
      obtain ⟨first, pieces, same, leftCut, rightCut⟩ := ih
      refine ⟨stretch, (change, first) :: pieces, ?_, ?_, ?_⟩
      · rw [List.map_cons, same]
      · rw [List.flatMap_cons, leftCut, List.append_assoc, List.append_assoc]
      · rw [List.flatMap_cons, rightCut, List.append_assoc, List.append_assoc]

/-- **The balance of an edit script**: what it adds makes up for what it drops and for what the
lists hold already. -/
theorem count_added_add [BEq α] (script : EditScript made left right) (element : α) :
    (made.flatMap Change.added).count element + left.count element =
      (made.flatMap Change.dropped).count element + right.count element := by
  induction script with
  | kept stretch => rfl
  | change stretch real rest ih =>
      simp only [List.flatMap_cons, List.count_append]
      omega

/-- What is dropped was in the left list. -/
theorem mem_left_of_dropped (script : EditScript made left right) {change : Change α}
    (member : change ∈ made) {element : α} (dropped : element ∈ change.dropped) :
    element ∈ left := by
  obtain ⟨first, pieces, rfl, leftCut, -⟩ := script.exists_stretches
  obtain ⟨piece, inside, rfl⟩ := List.mem_map.mp member
  rw [leftCut]
  exact List.mem_append_right first
    (List.mem_flatMap.mpr ⟨piece, inside, List.mem_append_left piece.2 dropped⟩)

/-- What is added is in the right list. -/
theorem mem_right_of_added (script : EditScript made left right) {change : Change α}
    (member : change ∈ made) {element : α} (added : element ∈ change.added) :
    element ∈ right := by
  obtain ⟨first, pieces, rfl, -, rightCut⟩ := script.exists_stretches
  obtain ⟨piece, inside, rfl⟩ := List.mem_map.mp member
  rw [rightCut]
  exact List.mem_append_right first
    (List.mem_flatMap.mpr ⟨piece, inside, List.mem_append_left piece.2 added⟩)

end EditScript

variable [DecidableEq α]

/-- **The changes between two lists are an edit script.** -/
theorem editScript_changes (left right : List α) : EditScript (changes left right) left right := by
  refine changes_induction (motive := fun left right made => EditScript made left right)
    (.kept []) ?_ ?_ left right
  · intro left right _ differ
    have whole : EditScript [⟨left, right⟩] ([] ++ left ++ []) ([] ++ right ++ []) :=
      .change [] differ (.kept [])
    simpa only [List.nil_append, List.append_nil] using whole
  · intro before shared after other behind _ front back
    have whole := front.append (back.keep shared)
    simpa only [List.append_assoc] using whole

end KeyChords.Drift
