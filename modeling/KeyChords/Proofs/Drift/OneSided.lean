import KeyChords.Proofs.Drift.Report

/-! # One-sided reports

A report is one-sided about a line when it adds the line only if the file has too few of it, and
drops it only if the file has too many (`KeyChords.Drift.OneSided`). What is added and dropped makes
up for the difference of the two sides, so this fails exactly for the lines that are both added and
dropped, as happens to a line that was moved while others came or went. When no common line comes
twice, a report is one-sided about all lines exactly when the common lines stand in the same order
on both sides, or both sides have the same lines (`KeyChords.Drift.compare_oneSided`).
-/

namespace KeyChords

namespace Drift

section Spared

variable {α : Type} {spared : α → Prop} {made more : List (Change α)} {left right : List α}

/-- **Changes that spare some elements**: they neither drop nor add one of them. -/
def Spares (spared : α → Prop) (made : List (Change α)) : Prop :=
  ∀ change ∈ made, (∀ element ∈ change.dropped, ¬ spared element) ∧
    ∀ element ∈ change.added, ¬ spared element

/-- Changes that spare an element spare it together. -/
theorem Spares.append (first : Spares spared made) (second : Spares spared more) :
    Spares spared (made ++ more) := by
  intro change member
  rcases List.mem_append.mp member with front | back
  · exact first change front
  · exact second change back

/-- What an edit script spares, both lists hold in the same order. -/
theorem EditScript.filter_eq [DecidablePred spared] (script : EditScript made left right)
    (spares : Spares spared made) : left.filter spared = right.filter spared := by
  induction script with
  | kept stretch => rfl
  | @change stretch change real more left right rest ih =>
      obtain ⟨dropped, added⟩ := spares change List.mem_cons_self
      have later := ih fun other member => spares other (List.mem_cons_of_mem change member)
      have noDropped : change.dropped.filter spared = [] := by simpa using dropped
      have noAdded : change.added.filter spared = [] := by simpa using added
      simp only [List.filter_append, noDropped, noAdded, later]

/-- Lists without repetitions that agree, and have a block in common, agree on both sides of it. -/
theorem eq_of_nodup_middle {front shared back other behind : List α} (filled : shared ≠ [])
    (distinct : (front ++ shared ++ back).Nodup)
    (same : front ++ shared ++ back = other ++ shared ++ behind) :
    front = other ∧ back = behind := by
  obtain ⟨element, more, rfl⟩ := List.exists_cons_of_ne_nil filled
  simp only [List.append_assoc, List.cons_append] at same distinct
  have absent := (List.nodup_cons.mp (List.nodup_middle.mp distinct)).1
  rw [List.mem_append, not_or] at absent
  obtain ⟨fronts, -, backs⟩ := (List.append_cons_inj_of_notMem absent.1 absent.2).mp same
  exact ⟨fronts, List.append_cancel_left backs⟩

variable [DecidableEq α]

/-- **An alignment spares distinct elements that both lists hold in the same order.** -/
theorem spares_changes [DecidablePred spared]
    (both : ∀ element ∈ left, element ∈ right → spared element)
    (distinct : (left.filter spared).Nodup) (order : left.filter spared = right.filter spared) :
    Spares spared (changes left right) := by
  revert both distinct order
  refine changes_induction (motive := fun left right made =>
    (∀ element ∈ left, element ∈ right → spared element) → (left.filter spared).Nodup →
      left.filter spared = right.filter spared → Spares spared made) ?_ ?_ ?_ left right
  · intro _ _ _ change member
    cases member
  · intro left right apart _ _ _ order change member
    obtain rfl := List.mem_singleton.mp member
    have alone (element : α) (keeps : spared element) :
        element ∈ left ↔ element ∈ right := by
      have same : element ∈ left.filter spared ↔ element ∈ right.filter spared := by rw [order]
      simpa [keeps] using same
    refine ⟨fun element dropped keeps => ?_, fun element added keeps => ?_⟩
    · exact apart dropped ((alone element keeps).mp dropped)
    · exact apart ((alone element keeps).mpr added) added
  · intro before shared after other behind filled front back both distinct order
    have whole : shared.filter spared = shared := by
      refine List.filter_eq_self.mpr fun element member => decide_eq_true (both element ?_ ?_)
      · simp [member]
      · simp [member]
    simp only [List.filter_append, whole] at distinct order
    obtain ⟨fronts, backs⟩ := eq_of_nodup_middle filled distinct order
    have parts := List.nodup_append.mp distinct
    refine (front ?_ (List.nodup_append.mp parts.1).1 fronts).append (back ?_ parts.2.1 backs)
    · intro element inBefore inOther
      exact both element (by simp [inBefore]) (by simp [inOther])
    · intro element inAfter inBehind
      exact both element (by simp [inAfter]) (by simp [inBehind])

/-- The elements of a list that another one has, too. -/
def common (left right : List α) : List α :=
  left.filter (· ∈ right)

/-- **An alignment keeps all common elements** exactly when they stand in the same order in both
lists, provided that none comes twice. -/
theorem spares_changes_iff (distinct : (common left right).Nodup) :
    Spares (fun element => element ∈ left ∧ element ∈ right) (changes left right) ↔
      common left right = common right left := by
  have onLeft : common left right =
      left.filter fun element => element ∈ left ∧ element ∈ right := by
    refine List.filter_congr fun element member => ?_
    simp [member]
  have onRight : common right left =
      right.filter fun element => element ∈ left ∧ element ∈ right := by
    refine List.filter_congr fun element member => ?_
    simp [member]
  constructor
  · intro spares
    rw [onLeft, onRight]
    exact (editScript_changes left right).filter_eq spares
  · intro order
    rw [onLeft] at distinct
    rw [onLeft, onRight] at order
    exact spares_changes (fun element inLeft inRight => ⟨inLeft, inRight⟩) distinct order

/-- A common element is there once when no common one is there twice. -/
theorem count_le_one_of_common [BEq α] [LawfulBEq α] (distinct : (common left right).Nodup)
    {element : α} (member : element ∈ right) : left.count element ≤ 1 := by
  have once : (common left right).count element ≤ 1 :=
    List.nodup_iff_count_le_one.mp distinct element
  rwa [common, List.count_filter (by simpa using member)] at once

end Spared

/-! ## Lines on both sides of a report -/

section Reports

private theorem head?_placeReport {place : Nat} {wanted held : List Char} {text : String}
    (reported : placeReport place wanted held = text) : text.toList.head? = some '~' := by
  simp [← reported, placeReport]

variable {expected actual : List Record} {line : List Char}

/-- Lines that are there in another order are neither added nor dropped. -/
theorem not_mem_compare_of_perm (perm : (linesOf expected).Perm (linesOf actual)) (text : String) :
    "+ " ++ text ∉ compare expected actual ∧ "- " ++ text ∉ compare expected actual := by
  by_cases same : linesOf expected = linesOf actual
  · have silent : compare expected actual = [] := compareLines_eq_nil_iff.mpr same
    simp [silent]
  · rw [compare_of_perm perm same, List.mem_map, List.mem_map]
    refine ⟨?_, ?_⟩
    · rintro ⟨place, -, reported⟩
      simpa using head?_placeReport reported
    · rintro ⟨place, -, reported⟩
      simpa using head?_placeReport reported

private theorem mem_compare_added_iff (unlike : ¬ (linesOf expected).Perm (linesOf actual)) :
    "+ " ++ lineText line ∈ compare expected actual ↔
      ∃ change ∈ changes (linesOf actual) (linesOf expected), line ∈ change.added := by
  rw [compare_of_not_perm unlike, ← List.count_pos_iff, count_added, List.count_pos_iff,
    List.mem_flatMap]

private theorem mem_compare_dropped_iff (unlike : ¬ (linesOf expected).Perm (linesOf actual)) :
    "- " ++ lineText line ∈ compare expected actual ↔
      ∃ change ∈ changes (linesOf actual) (linesOf expected), line ∈ change.dropped := by
  rw [compare_of_not_perm unlike, ← List.count_pos_iff, count_dropped, List.count_pos_iff,
    List.mem_flatMap]

/-- **The balance of a report**, whatever its kind. -/
theorem count_compare (expected actual : List Record) (line : List Char) :
    (compare expected actual).count ("+ " ++ lineText line) + (linesOf actual).count line =
      (compare expected actual).count ("- " ++ lineText line) +
        (linesOf expected).count line := by
  by_cases perm : (linesOf expected).Perm (linesOf actual)
  · obtain ⟨unadded, undropped⟩ := not_mem_compare_of_perm perm (lineText line)
    rw [List.count_eq_zero.mpr unadded, List.count_eq_zero.mpr undropped, perm.count_eq]
  · rw [compare_of_not_perm perm, count_added, count_dropped]
    exact (editScript_changes _ _).count_added_add line

/-- **A report is one-sided about a line** when it adds the line only if the file has too few of it
and drops it only if the file has too many. -/
def OneSided (expected actual : List Record) (line : List Char) : Prop :=
  ("+ " ++ lineText line ∈ compare expected actual →
      (linesOf actual).count line < (linesOf expected).count line) ∧
    ("- " ++ lineText line ∈ compare expected actual →
      (linesOf expected).count line < (linesOf actual).count line)

private theorem oneSided_iff : OneSided expected actual line ↔
    ¬ ("+ " ++ lineText line ∈ compare expected actual ∧
      "- " ++ lineText line ∈ compare expected actual) := by
  have balance := count_compare expected actual line
  rw [OneSided, ← List.count_pos_iff, ← List.count_pos_iff]
  omega

/-- Where no common line comes twice, a report is one-sided about all lines exactly when its changes
spare the common ones. -/
theorem spares_iff_oneSided (unlike : ¬ (linesOf expected).Perm (linesOf actual))
    (distinct : (common (linesOf expected) (linesOf actual)).Nodup)
    (distinctHeld : (common (linesOf actual) (linesOf expected)).Nodup) :
    Spares (fun line => line ∈ linesOf actual ∧ line ∈ linesOf expected)
        (changes (linesOf actual) (linesOf expected)) ↔
      ∀ line, OneSided expected actual line := by
  have script := editScript_changes (linesOf actual) (linesOf expected)
  constructor
  · intro spares line
    rw [oneSided_iff, mem_compare_added_iff unlike, mem_compare_dropped_iff unlike]
    rintro ⟨⟨change, made, added⟩, ⟨other, otherMade, dropped⟩⟩
    have wanted := script.mem_right_of_added made added
    have held := script.mem_left_of_dropped otherMade dropped
    exact (spares change made).2 line added ⟨held, wanted⟩
  · intro oneSided change made
    refine ⟨fun line dropped present => ?_, fun line added present => ?_⟩
    · have fewer := (oneSided line).2 ((mem_compare_dropped_iff unlike).mpr ⟨change, made, dropped⟩)
      have once := count_le_one_of_common distinctHeld present.2
      have some := List.count_pos_iff.mpr present.2
      omega
    · have fewer := (oneSided line).1 ((mem_compare_added_iff unlike).mpr ⟨change, made, added⟩)
      have once := count_le_one_of_common distinct present.1
      have some := List.count_pos_iff.mpr present.1
      omega

/-- **When a report is one-sided.** It is so about a line exactly when it does not both add and drop
it. When no common line comes twice, it is so about all lines exactly when the common lines stand in
the same order on both sides, or both sides have the same lines. -/
theorem compare_oneSided (expected actual : List Record) :
    (∀ line, OneSided expected actual line ↔
        ¬ ("+ " ++ lineText line ∈ compare expected actual ∧
          "- " ++ lineText line ∈ compare expected actual)) ∧
      ((common (linesOf expected) (linesOf actual)).Nodup →
        (common (linesOf actual) (linesOf expected)).Nodup →
        ((∀ line, OneSided expected actual line) ↔
          (linesOf expected).Perm (linesOf actual) ∨
            common (linesOf expected) (linesOf actual) =
              common (linesOf actual) (linesOf expected))) := by
  refine ⟨fun line => oneSided_iff, fun distinct distinctHeld => ?_⟩
  by_cases perm : (linesOf expected).Perm (linesOf actual)
  · refine ⟨fun _ => Or.inl perm, fun _ line => oneSided_iff.mpr fun both => ?_⟩
    exact (not_mem_compare_of_perm perm (lineText line)).1 both.1
  · rw [← spares_iff_oneSided perm distinct distinctHeld, spares_changes_iff distinctHeld,
      or_iff_right perm, eq_comm]

end Reports

/-- A record of a key and a command. -/
def bareKey (key : String) : Record := ⟨key, "x", "", .null⟩

private theorem line_bareKey_inj {one other : String} :
    (line (bareKey one) : List Char) = line (bareKey other) ↔ one = other := by
  rw [← Entry.identity_eq_iff_line]
  exact ⟨congrArg Identity.key, congrArg fun key => (bareKey key).identity⟩

/-- One record is missing and another one is surplus. The common ones keep their order, so nothing
is said of them. -/
theorem compare_oneSided_of_replaced :
    let expected := [bareKey "a", bareKey "b", bareKey "c"]
    let actual := [bareKey "d", bareKey "a", bareKey "c"]
    (common (linesOf expected) (linesOf actual)).Nodup ∧
      (common (linesOf actual) (linesOf expected)).Nodup ∧
      ∀ line, OneSided expected actual line := by
  intro expected actual
  have wanted : common (linesOf expected) (linesOf actual) =
      [line (bareKey "a"), line (bareKey "c")] := by
    simp [expected, actual, common, linesOf, line_bareKey_inj]
  have held : common (linesOf actual) (linesOf expected) =
      [line (bareKey "a"), line (bareKey "c")] := by
    simp [expected, actual, common, linesOf, line_bareKey_inj]
  have distinct : [(line (bareKey "a") : List Char), line (bareKey "c")].Nodup := by
    simp [line_bareKey_inj]
  obtain ⟨-, exactly⟩ := compare_oneSided expected actual
  rw [wanted, held] at exactly ⊢
  exact ⟨distinct, distinct, (exactly distinct distinct).mpr (Or.inr rfl)⟩

/-- The changes around an element that was moved, when another one was added. -/
theorem changes_moved {α : Type} [DecidableEq α] {a b c : α} (ab : a ≠ b) (ac : a ≠ c)
    (bc : b ≠ c) : changes [a, b] [b, a, c] = [⟨[], [b]⟩, ⟨[b], [c]⟩] := by
  have block : longest [b, a, c] 0 [a, b] = ⟨0, 1, 1⟩ := by
    simp [longest, longestAt, Block.longer, sharedLength, ab, ab.symm, ac, bc]
  have front : changes ([] : List α) [b] = [⟨[], [b]⟩] := by
    simp [changes, longest]
  have back : changes [b] [c] = [⟨[b], [c]⟩] := by
    simp [changes, longest, longestAt, Block.longer, sharedLength, bc]
  rw [changes, block]
  simp [front, back]

/-- **A line that was moved** is reported as missing and as surplus, when another one was added. -/
theorem compare_moved :
    let expected := [bareKey "b", bareKey "a", bareKey "c"]
    let actual := [bareKey "a", bareKey "b"]
    let moved : List Char := line (bareKey "b")
    compare expected actual =
        ["+ " ++ lineText moved, "- " ++ lineText moved,
          "+ " ++ lineText (line (bareKey "c") : List Char)] ∧
      (linesOf expected).count moved = (linesOf actual).count moved ∧
      ¬ OneSided expected actual moved := by
  intro expected actual moved
  have unlike : ¬ (linesOf expected).Perm (linesOf actual) := fun perm => by cases perm.length_eq
  have report : compare expected actual =
      ["+ " ++ lineText moved, "- " ++ lineText moved,
        "+ " ++ lineText (line (bareKey "c") : List Char)] := by
    have wanted : linesOf expected = [moved, line (bareKey "a"), line (bareKey "c")] := rfl
    have held : linesOf actual = [line (bareKey "a"), moved] := rfl
    rw [compare_of_not_perm unlike, wanted, held, changes_moved]
    · rfl
    all_goals simp [moved, line_bareKey_inj]
  refine ⟨report, ?_, ?_⟩
  · simp [expected, actual, moved, linesOf, line_bareKey_inj]
  · rw [oneSided_iff, report]
    simp

end Drift

end KeyChords
