import Mathlib.Data.List.Induction
import Mathlib.Data.List.Nodup
import KeyChords.Order.FirstOccurrence

/-! # Distinct elements in the order of their first places

Taking the distinct elements of a list is done piece by piece: in a list that is put together, in
the image of a list, and in a part of it that is selected, the pieces may be replaced by their
distinct elements first (`KeyChords.firsts_append_firsts`, `KeyChords.firsts_map_firsts`). So lists
that are put together in several steps have the same distinct elements, in the same order, whatever
the steps.
-/

namespace KeyChords

variable {α β ι : Type} [DecidableEq α] [DecidableEq β] {elements others : List α} {last : α}

theorem firsts_concat_of_mem (known : last ∈ elements) :
    firsts (elements ++ [last]) = firsts elements :=
  firstsBy_concat_of_mem (by simpa using known)

theorem firsts_concat_of_not_mem (fresh : last ∉ elements) :
    firsts (elements ++ [last]) = firsts elements ++ [last] :=
  firstsBy_concat_of_not_mem (by simpa using fresh)

/-- Elements that are all different are the distinct ones. -/
theorem firsts_of_nodup (distinct : elements.Nodup) : firsts elements = elements := by
  induction elements using List.reverseRecOn with
  | nil => rfl
  | append_singleton elements last ih =>
      rw [← List.concat_eq_append, List.nodup_concat] at distinct
      rw [firsts_concat_of_not_mem distinct.1, ih distinct.2]

/-- Elements that are there already add nothing. -/
theorem firsts_append_of_subset (inside : ∀ element ∈ others, element ∈ elements) :
    firsts (elements ++ others) = firsts elements := by
  induction others using List.reverseRecOn with
  | nil => rw [List.append_nil]
  | append_singleton others last ih =>
      have known : last ∈ elements ++ others := List.mem_append_left _ (inside last (by simp))
      rw [← List.append_assoc, firsts_concat_of_mem known]
      exact ih fun element member => inside element (List.mem_append_left _ member)

/-- **Of the earlier elements only the distinct ones matter.** -/
theorem firsts_append_congr {first second : List α} (same : firsts first = firsts second)
    (others : List α) : firsts (first ++ others) = firsts (second ++ others) := by
  induction others using List.reverseRecOn with
  | nil => rwa [List.append_nil, List.append_nil]
  | append_singleton others last ih =>
      have members : last ∈ first ++ others ↔ last ∈ second ++ others := by
        rw [← mem_firsts, ih, mem_firsts]
      rw [← List.append_assoc, ← List.append_assoc]
      by_cases known : last ∈ second ++ others
      · rw [firsts_concat_of_mem (members.mpr known), firsts_concat_of_mem known, ih]
      · rw [firsts_concat_of_not_mem (mt members.mp known), firsts_concat_of_not_mem known, ih]

/-- Dropping repetitions early, in the first list, changes nothing. -/
theorem firsts_firsts_append (elements others : List α) :
    firsts (firsts elements ++ others) = firsts (elements ++ others) :=
  firsts_append_congr (firsts_of_nodup (nodup_firsts elements)) others

/-- **Of the later elements only the distinct ones matter.** -/
theorem firsts_append_firsts (elements others : List α) :
    firsts (elements ++ firsts others) = firsts (elements ++ others) := by
  induction others using List.reverseRecOn with
  | nil => rfl
  | append_singleton others last ih =>
      rw [← List.append_assoc]
      by_cases known : last ∈ others
      · rw [firsts_concat_of_mem known, ih,
          firsts_concat_of_mem (List.mem_append_right elements known)]
      · rw [firsts_concat_of_not_mem known, ← List.append_assoc]
        exact firsts_append_congr ih [last]

/-- Dropping repetitions early, in a list in the middle, changes nothing. -/
theorem firsts_append_firsts_append (elements middle others : List α) :
    firsts (elements ++ (firsts middle ++ others)) = firsts (elements ++ (middle ++ others)) := by
  rw [← List.append_assoc, ← List.append_assoc]
  exact firsts_append_congr (firsts_append_firsts elements middle) others

/-- **The distinct images** are those of the distinct elements. -/
theorem firsts_map_firsts (image : α → β) (elements : List α) :
    firsts ((firsts elements).map image) = firsts (elements.map image) := by
  induction elements using List.reverseRecOn with
  | nil => rfl
  | append_singleton elements last ih =>
      rw [List.map_append, List.map_singleton]
      by_cases known : last ∈ elements
      · rw [firsts_concat_of_mem known, ih, firsts_concat_of_mem (List.mem_map_of_mem known)]
      · rw [firsts_concat_of_not_mem known, List.map_append, List.map_singleton]
        exact firsts_append_congr ih [image last]

/-- Distinct elements that have distinct images are taken before or after the images. -/
theorem map_firsts_of_injOn {image : α → β}
    (apart : ∀ one ∈ elements, ∀ other ∈ elements, image one = image other → one = other) :
    (firsts elements).map image = firsts (elements.map image) := by
  have distinct : ((firsts elements).map image).Nodup := by
    refine List.Nodup.map_on ?_ (nodup_firsts elements)
    intro one member other otherMember
    exact apart one (mem_firsts.mp member) other (mem_firsts.mp otherMember)
  rw [← firsts_map_firsts, firsts_of_nodup distinct]

/-- Choosing among the elements and dropping their repetitions may be exchanged. -/
theorem firsts_filter (kept : α → Bool) (elements : List α) :
    (firsts elements).filter kept = firsts (elements.filter kept) :=
  firstsBy_filter id kept elements

/-- Pieces with the same distinct elements may take each other's place. -/
theorem firsts_flatMap_congr {pieces : List ι} {piece other : ι → List α}
    (same : ∀ index ∈ pieces, firsts (piece index) = firsts (other index)) :
    firsts (pieces.flatMap piece) = firsts (pieces.flatMap other) := by
  induction pieces with
  | nil => rfl
  | cons first rest ih =>
      have later := ih fun index member => same index (List.mem_cons_of_mem first member)
      rw [List.flatMap_cons, List.flatMap_cons,
        firsts_append_congr (same first List.mem_cons_self), ← firsts_append_firsts, later,
        firsts_append_firsts]

end KeyChords
