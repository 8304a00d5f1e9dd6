import Mathlib.Data.Finset.Sort
import Mathlib.Data.String.Basic
import KeyChords.Order.FirstOccurrence

/-! # Ascending order

The names of a list in ascending order, each once, are a property of the set of names alone
(`KeyChords.ascending`). Sorting by a name that several elements may share keeps the elements of one
name in their order, so it lists name after name the elements of that name
(`KeyChords.mergeSort_key`).
-/

namespace KeyChords

variable {α β : Type} [LinearOrder β]

/-- The distinct elements of a list in ascending order. -/
def ascending (elements : List β) : List β :=
  elements.toFinset.sort (· ≤ ·)

@[simp]
theorem mem_ascending {elements : List β} {element : β} :
    element ∈ ascending elements ↔ element ∈ elements := by
  simp [ascending]

private theorem pairwise_ascending (elements : List β) : (ascending elements).Pairwise (· < ·) :=
  Finset.sortedLT_sort elements.toFinset |>.pairwise

/-- The ascending list of some elements depends only on which they are. -/
theorem ascending_congr {elements others : List β}
    (same : ∀ element, element ∈ elements ↔ element ∈ others) :
    ascending elements = ascending others := by
  have sets : elements.toFinset = others.toFinset := by
    ext element
    rw [List.mem_toFinset, List.mem_toFinset, same]
  rw [ascending, ascending, sets]

/-- A form that can be evaluated. -/
theorem ascending_eq_insertionSort (elements : List β) :
    ascending elements = elements.dedup.insertionSort (· ≤ ·) := by
  have order := List.perm_insertionSort (· ≤ ·) elements.dedup
  rw [← ascending_congr fun _ => order.mem_iff.trans List.mem_dedup]
  exact (List.toFinset_sort _ (order.nodup_iff.mpr elements.nodup_dedup)).mpr
    (List.pairwise_insertionSort (· ≤ ·) elements.dedup)

private theorem ascending_of_pairwise {elements : List β} (rising : elements.Pairwise (· < ·)) :
    ascending elements = elements :=
  (List.toFinset_sort _ (rising.imp ne_of_lt)).mpr (rising.imp le_of_lt)

/-- Names that contribute nothing may be left out of an ascending listing. -/
theorem flatMap_ascending_of_subset {few many : List β} (inside : ∀ name ∈ few, name ∈ many)
    {listed : β → List α} (idle : ∀ name, name ∉ few → listed name = []) :
    (ascending many).flatMap listed = (ascending few).flatMap listed := by
  have rest : ascending few = (ascending many).filter (· ∈ few) := by
    rw [← ascending_of_pairwise ((pairwise_ascending many).filter _)]
    refine ascending_congr fun name => ?_
    simp only [List.mem_filter, mem_ascending, decide_eq_true_eq]
    exact ⟨fun member => ⟨inside name member, member⟩, And.right⟩
  rw [rest]
  induction ascending many with
  | nil => rfl
  | cons name others ih =>
      by_cases member : name ∈ few
      · simp only [List.flatMap_cons, List.filter_cons, member, decide_true, ↓reduceIte, ih]
      · simp only [List.flatMap_cons, List.filter_cons, member, decide_false, Bool.false_eq_true,
          ↓reduceIte, ih, idle name member, List.nil_append]

private theorem byKey_trans (key : α → β) (first second third : α)
    (early : decide (key first ≤ key second) = true)
    (late : decide (key second ≤ key third) = true) : decide (key first ≤ key third) = true :=
  decide_eq_true (le_trans (of_decide_eq_true early) (of_decide_eq_true late))

private theorem byKey_total (key : α → β) (first second : α) :
    (decide (key first ≤ key second) || decide (key second ≤ key first)) = true := by
  rw [Bool.or_eq_true, decide_eq_true_eq, decide_eq_true_eq]
  exact le_total (key first) (key second)

private theorem pairwise_mergeSort_key (key : α → β) (elements : List α) :
    (elements.mergeSort fun left right => decide (key left ≤ key right)).Pairwise
      fun left right => key left ≤ key right :=
  (List.pairwise_mergeSort (byKey_trans key) (byKey_total key) elements).imp of_decide_eq_true

/-- Sorting a list without repetitions gives its ascending list. -/
theorem mergeSort_of_nodup {elements : List β} (distinct : elements.Nodup) :
    (elements.mergeSort fun left right => decide (left ≤ right)) = ascending elements := by
  have order := List.mergeSort_perm elements fun left right => decide (left ≤ right)
  have sorted : (elements.mergeSort fun left right => decide (left ≤ right)).Pairwise (· ≤ ·) :=
    pairwise_mergeSort_key id elements
  rw [← ascending_congr fun _ => order.mem_iff]
  exact ((List.toFinset_sort _ (order.nodup_iff.mpr distinct)).mpr sorted).symm

/-- Sorting keeps the elements of one name in their order. -/
theorem filter_mergeSort_key (key : α → β) (name : β) (elements : List α) :
    (elements.mergeSort fun left right => decide (key left ≤ key right)).filter
        (fun element => key element = name) =
      elements.filter fun element => key element = name := by
  have alike : (elements.filter fun element => key element = name).Pairwise
      fun left right => decide (key left ≤ key right) = true := by
    refine List.pairwise_of_forall_mem_list ?_
    intro left leftMember right rightMember
    have leftName := of_decide_eq_true (List.mem_filter.mp leftMember).2
    have rightName := of_decide_eq_true (List.mem_filter.mp rightMember).2
    exact decide_eq_true (leftName.trans rightName.symm).le
  have kept := List.sublist_mergeSort (byKey_trans key) (byKey_total key) alike
    List.filter_sublist
  have inside := kept.filter fun element => decide (key element = name)
  simp only [List.filter_filter, Bool.and_self] at inside
  refine (inside.eq_of_length ?_).symm
  exact ((List.mergeSort_perm elements _).filter _).length_eq.symm

/-- In a list that is sorted by name, the elements of the least name come first. -/
theorem filter_append_filter_of_sorted {key : α → β} {least : β} {elements : List α}
    (sorted : elements.Pairwise fun left right => key left ≤ key right)
    (bounded : ∀ element ∈ elements, least ≤ key element) :
    elements.filter (fun element => key element = least) ++
        elements.filter (fun element => key element ≠ least) = elements := by
  induction elements with
  | nil => rfl
  | cons first rest ih =>
      obtain ⟨before, restSorted⟩ := List.pairwise_cons.mp sorted
      have further := ih restSorted fun element member =>
        bounded element (List.mem_cons_of_mem first member)
      by_cases same : key first = least
      · simp only [List.filter_cons, same, decide_true, ↓reduceIte, ne_eq, not_true_eq_false,
          decide_false, Bool.false_eq_true, List.cons_append]
        exact congrArg (first :: ·) further
      · have above : ∀ element ∈ first :: rest, key element ≠ least := by
          intro element member
          have low : least < key first :=
            lt_of_le_of_ne (bounded first List.mem_cons_self) (Ne.symm same)
          rcases List.mem_cons.mp member with rfl | later
          · exact same
          · exact (low.trans_le (before element later)).ne'
        have none : (first :: rest).filter (fun element => key element = least) = [] :=
          List.filter_eq_nil_iff.mpr fun element member => by simpa using above element member
        have all : (first :: rest).filter (fun element => key element ≠ least) = first :: rest :=
          List.filter_eq_self.mpr fun element member => by simpa using above element member
        rw [none, all, List.nil_append]

/-- A list that is sorted by name lists the elements name after name. -/
theorem flatMap_filter_of_sorted {key : α → β} {names : List β} {elements : List α}
    (rising : names.Pairwise (· < ·))
    (sorted : elements.Pairwise fun left right => key left ≤ key right)
    (named : ∀ element ∈ elements, key element ∈ names) :
    (names.flatMap fun name => elements.filter fun element => key element = name) = elements := by
  induction names generalizing elements with
  | nil =>
      rw [List.eq_nil_iff_forall_not_mem.mpr fun element member =>
        List.not_mem_nil (named element member)]
      rfl
  | cons least others ih =>
      obtain ⟨above, othersRising⟩ := List.pairwise_cons.mp rising
      have bounded : ∀ element ∈ elements, least ≤ key element := by
        intro element member
        rcases List.mem_cons.mp (named element member) with same | later
        · exact same.ge
        · exact (above _ later).le
      let remaining := elements.filter fun element => key element ≠ least
      have remainingNamed : ∀ element ∈ remaining, key element ∈ others := by
        intro element member
        obtain ⟨inside, differs⟩ := List.mem_filter.mp member
        exact (List.mem_cons.mp (named element inside)).resolve_left (of_decide_eq_true differs)
      have further : (others.flatMap fun name =>
          elements.filter fun element => key element = name) = remaining := by
        refine Eq.trans (List.flatMap_congr ?_) (ih othersRising (sorted.filter _) remainingNamed)
        intro name member
        rw [List.filter_filter]
        refine List.filter_congr ?_
        intro element _
        by_cases same : key element = name
        · simp [same, (above name member).ne']
        · simp [same]
      rw [List.flatMap_cons, further]
      exact filter_append_filter_of_sorted sorted bounded

/-- **Sorting by a name** lists, name after name in ascending order, the elements of that name. -/
theorem mergeSort_key (key : α → β) (elements : List α) :
    (elements.mergeSort fun left right => decide (key left ≤ key right)) =
      (ascending (elements.map key)).flatMap fun name =>
        elements.filter fun element => key element = name := by
  have order := List.mergeSort_perm elements fun left right => decide (key left ≤ key right)
  rw [← flatMap_filter_of_sorted (pairwise_ascending (elements.map key))
    (pairwise_mergeSort_key key elements) fun element member =>
      mem_ascending.mpr (List.mem_map_of_mem (order.mem_iff.mp member))]
  refine List.flatMap_congr ?_
  intro name _
  exact filter_mergeSort_key key name elements

/-- **Sorting by a name that no two elements share** does not depend on the order before. -/
theorem mergeSort_key_congr {key : α → β} {elements others : List α}
    (reordered : elements.Perm others) (distinct : (elements.map key).Nodup) :
    (elements.mergeSort fun left right => decide (key left ≤ key right)) =
      others.mergeSort fun left right => decide (key left ≤ key right) := by
  have order := List.mergeSort_perm elements fun left right => decide (key left ≤ key right)
  have otherOrder := List.mergeSort_perm others fun left right => decide (key left ≤ key right)
  refine List.Perm.eq_of_pairwise ?_ (pairwise_mergeSort_key key elements)
    (pairwise_mergeSort_key key others) (order.trans (reordered.trans otherOrder.symm))
  intro left right leftMember rightMember below above
  exact List.inj_on_of_nodup_map distinct (order.mem_iff.mp leftMember)
    (reordered.mem_iff.mpr (otherOrder.mem_iff.mp rightMember)) (le_antisymm below above)

end KeyChords
