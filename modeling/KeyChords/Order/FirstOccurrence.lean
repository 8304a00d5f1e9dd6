/-! # First occurrences

Many lists of a keymap keep the first of several elements that count as the same: leaders, records,
registered removals. `firstsBy key` keeps the first element of each key, in order. Main statements:
the result is a sublist whose keys are distinct, and every key of the list is a key of the result.
-/

namespace KeyChords

variable {α β : Type} [DecidableEq β]

/-- The elements whose key is neither among `seen` nor the key of an earlier element. -/
def firstsAfter (key : α → β) (seen : List β) : List α → List α
  | [] => []
  | element :: rest =>
    if key element ∈ seen then firstsAfter key seen rest
    else element :: firstsAfter key (key element :: seen) rest

/-- The first element of each key, in order. -/
def firstsBy (key : α → β) (elements : List α) : List α :=
  firstsAfter key [] elements

private theorem firstsAfter_sublist (key : α → β) (seen : List β) (elements : List α) :
    (firstsAfter key seen elements).Sublist elements := by
  induction elements generalizing seen with
  | nil => exact List.Sublist.slnil
  | cons element rest hyp =>
    by_cases known : key element ∈ seen
    · simpa only [firstsAfter, known, ↓reduceIte] using (hyp seen).cons element
    · simpa only [firstsAfter, known, ↓reduceIte] using (hyp _).cons_cons element

private theorem not_mem_seen_of_mem_firstsAfter {key : α → β} {seen : List β} {elements : List α}
    {element : α} (member : element ∈ firstsAfter key seen elements) : key element ∉ seen := by
  induction elements generalizing seen with
  | nil => simp [firstsAfter] at member
  | cons first rest hyp =>
    by_cases known : key first ∈ seen
    · simp only [firstsAfter, known, ↓reduceIte] at member
      exact hyp member
    · simp only [firstsAfter, known, ↓reduceIte, List.mem_cons] at member
      rcases member with rfl | later
      · exact known
      · exact fun present => hyp later (List.mem_cons_of_mem _ present)

private theorem nodup_map_firstsAfter (key : α → β) (seen : List β) (elements : List α) :
    ((firstsAfter key seen elements).map key).Nodup := by
  induction elements generalizing seen with
  | nil => simp [firstsAfter]
  | cons element rest hyp =>
    by_cases known : key element ∈ seen
    · simpa only [firstsAfter, known, ↓reduceIte] using hyp seen
    · simp only [firstsAfter, known, ↓reduceIte, List.map_cons, List.nodup_cons]
      refine ⟨fun present => ?_, hyp _⟩
      obtain ⟨other, member, same⟩ := List.mem_map.mp present
      exact not_mem_seen_of_mem_firstsAfter member (same ▸ List.mem_cons_self)

/-- A key of the list that was not seen before is a key of the result. -/
theorem mem_map_firstsAfter {key : α → β} {seen : List β} {elements : List α} {name : β} :
    name ∈ (firstsAfter key seen elements).map key ↔ name ∈ elements.map key ∧ name ∉ seen := by
  induction elements generalizing seen with
  | nil => simp [firstsAfter]
  | cons element rest hyp =>
    by_cases known : key element ∈ seen
    · simp only [firstsAfter, known, ↓reduceIte, hyp, List.map_cons, List.mem_cons]
      constructor
      · exact fun ⟨member, fresh⟩ => ⟨Or.inr member, fresh⟩
      · rintro ⟨rfl | member, fresh⟩
        · exact absurd known fresh
        · exact ⟨member, fresh⟩
    · simp only [firstsAfter, known, ↓reduceIte, List.map_cons, List.mem_cons, hyp]
      constructor
      · rintro (rfl | ⟨member, fresh⟩)
        · exact ⟨Or.inl rfl, known⟩
        · exact ⟨Or.inr member, fun present => fresh (Or.inr present)⟩
      · rintro ⟨rfl | member, fresh⟩
        · exact Or.inl rfl
        · by_cases same : name = key element
          · exact Or.inl same
          · exact Or.inr ⟨member, fun present => present.elim same fresh⟩

/-- The first elements of each key have different keys. -/
theorem nodup_map_firstsBy (key : α → β) (elements : List α) :
    ((firstsBy key elements).map key).Nodup :=
  nodup_map_firstsAfter key [] elements

/-- Every key of a list has a first element. -/
theorem mem_map_firstsBy {key : α → β} {elements : List α} {name : β} :
    name ∈ (firstsBy key elements).map key ↔ name ∈ elements.map key := by
  simp [firstsBy, mem_map_firstsAfter]

/-- The first elements of each key stand in the order of the list. -/
theorem firstsBy_sublist (key : α → β) (elements : List α) :
    (firstsBy key elements).Sublist elements :=
  firstsAfter_sublist key [] elements

private theorem firstsAfter_concat (key : α → β) (seen : List β) (elements : List α) (last : α) :
    firstsAfter key seen (elements ++ [last]) =
      firstsAfter key seen elements ++
        if key last ∈ seen ∨ key last ∈ elements.map key then [] else [last] := by
  induction elements generalizing seen with
  | nil => by_cases known : key last ∈ seen <;> simp [firstsAfter, known]
  | cons element rest hyp =>
    by_cases known : key element ∈ seen
    · have agree : (key last ∈ seen ∨ key last ∈ (element :: rest).map key) ↔
          key last ∈ seen ∨ key last ∈ rest.map key := by
        rw [List.map_cons, List.mem_cons]
        constructor
        · rintro (old | same | later)
          · exact Or.inl old
          · exact Or.inl (same ▸ known)
          · exact Or.inr later
        · exact Or.imp_right Or.inr
      simp only [List.cons_append, firstsAfter, known, ↓reduceIte, hyp, agree]
    · have agree : (key last ∈ seen ∨ key last ∈ (element :: rest).map key) ↔
          key last ∈ key element :: seen ∨ key last ∈ rest.map key := by
        rw [List.map_cons, List.mem_cons, List.mem_cons, or_assoc, or_left_comm]
      simp only [List.cons_append, firstsAfter, known, ↓reduceIte, hyp, agree]

/-- A further element is dropped when its key is taken. -/
theorem firstsBy_concat_of_mem {key : α → β} {elements : List α} {last : α}
    (known : key last ∈ elements.map key) :
    firstsBy key (elements ++ [last]) = firstsBy key elements := by
  simp only [firstsBy, firstsAfter_concat, known, or_true, ↓reduceIte, List.append_nil]

/-- A further element with a new key comes last. -/
theorem firstsBy_concat_of_not_mem {key : α → β} {elements : List α} {last : α}
    (fresh : key last ∉ elements.map key) :
    firstsBy key (elements ++ [last]) = firstsBy key elements ++ [last] := by
  simp only [firstsBy, firstsAfter_concat, fresh, List.not_mem_nil, or_self, ↓reduceIte]

/-- Only which keys were seen matters, not in which order. -/
theorem firstsAfter_congr {key : α → β} {seen others : List β}
    (same : ∀ name, name ∈ seen ↔ name ∈ others) (elements : List α) :
    firstsAfter key seen elements = firstsAfter key others elements := by
  induction elements generalizing seen others with
  | nil => rfl
  | cons element rest hyp =>
    have further : ∀ name, name ∈ key element :: seen ↔ name ∈ key element :: others := by
      intro name
      rw [List.mem_cons, List.mem_cons, same]
    simp only [firstsAfter, same, hyp same, hyp further]

private theorem firstsAfter_cons_of_not_mem {key : α → β} {name : β} {elements : List α}
    (unused : name ∉ elements.map key) (seen : List β) :
    firstsAfter key (name :: seen) elements = firstsAfter key seen elements := by
  induction elements generalizing seen with
  | nil => rfl
  | cons element rest hyp =>
    rw [List.map_cons, List.mem_cons, not_or] at unused
    obtain ⟨differs, unusedRest⟩ := unused
    have fresh : key element ∈ name :: seen ↔ key element ∈ seen := by
      simp [Ne.symm differs]
    have swapped : firstsAfter key (key element :: name :: seen) rest =
        firstsAfter key (key element :: seen) rest := by
      rw [← hyp unusedRest (key element :: seen)]
      refine firstsAfter_congr (fun other => ?_) rest
      simp only [List.mem_cons, or_left_comm]
    simp only [firstsAfter, fresh, hyp unusedRest, swapped]

private theorem firstsAfter_filter (key : α → β) (kept : β → Bool) (seen : List β)
    (elements : List α) :
    (firstsAfter key seen elements).filter (fun element => kept (key element)) =
      firstsAfter key seen (elements.filter fun element => kept (key element)) := by
  induction elements generalizing seen with
  | nil => rfl
  | cons element rest hyp =>
    by_cases keeps : kept (key element) = true
    · by_cases known : key element ∈ seen
      · simp only [firstsAfter, known, ↓reduceIte, hyp, List.filter_cons, keeps]
      · simp only [firstsAfter, known, ↓reduceIte, hyp, List.filter_cons, keeps]
    · have unused : key element ∉ (rest.filter fun other => kept (key other)).map key := by
        intro present
        obtain ⟨other, member, same⟩ := List.mem_map.mp present
        exact keeps (same ▸ (List.mem_filter.mp member).2)
      by_cases known : key element ∈ seen
      · simp only [firstsAfter, known, ↓reduceIte, hyp, List.filter_cons, keeps,
          Bool.false_eq_true]
      · simp only [firstsAfter, known, ↓reduceIte, hyp, List.filter_cons, keeps,
          Bool.false_eq_true, firstsAfter_cons_of_not_mem unused]

/-- **Dropping all elements of some keys** commutes with keeping the first of each key. -/
theorem firstsBy_filter (key : α → β) (kept : β → Bool) (elements : List α) :
    (firstsBy key elements).filter (fun element => kept (key element)) =
      firstsBy key (elements.filter fun element => kept (key element)) :=
  firstsAfter_filter key kept [] elements

/-- Of a list that repeats one element, that element remains. -/
theorem firstsBy_eq_singleton {key : α → β} {only : α} {elements : List α}
    (same : ∀ element ∈ elements, element = only) (present : only ∈ elements) :
    firstsBy key elements = [only] := by
  cases elements with
  | nil => exact absurd present List.not_mem_nil
  | cons first rest =>
    obtain rfl := same first List.mem_cons_self
    have none : firstsAfter key [key first] rest = [] := by
      refine List.eq_nil_iff_forall_not_mem.mpr fun element member => ?_
      have inside := (firstsAfter_sublist key [key first] rest).subset member
      refine not_mem_seen_of_mem_firstsAfter member ?_
      rw [same element (List.mem_cons_of_mem first inside)]
      exact List.mem_singleton_self _
    simp only [firstsBy, firstsAfter, List.not_mem_nil, ↓reduceIte, none]

/-- The distinct elements of a list, each at its first place. -/
def firsts (elements : List β) : List β :=
  firstsBy id elements

theorem nodup_firsts (elements : List β) : (firsts elements).Nodup := by
  simpa [firsts] using nodup_map_firstsBy id elements

theorem mem_firsts {elements : List β} {element : β} :
    element ∈ firsts elements ↔ element ∈ elements := by
  have keyed : element ∈ (firstsBy id elements).map id ↔ element ∈ elements.map id :=
    mem_map_firstsBy
  simpa [firsts] using keyed

end KeyChords
