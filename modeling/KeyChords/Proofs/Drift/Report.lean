import KeyChords.Proofs.Drift.Silence
import KeyChords.Proofs.Record.Identity

/-! # What a report says

A report on two lists of records is empty exactly when the records have the same identities, place
by place. When the lists have the same lines in another order it names the places at which they
differ (`KeyChords.Drift.compare_kinds`). Otherwise it is an edit script from the actual lines to
the expected ones, so the balance of what it adds and drops is the difference of the two lists
(`KeyChords.Drift.compare_edits`).
-/

namespace KeyChords

open Json Text

namespace Drift

/-! ## Lines in another order -/

section Order

variable {κ : Type} [DecidableEq κ] [LT κ] [DecidableLT κ] [LE κ] [Std.IsLinearOrder κ]
  [Std.LawfulOrderLT κ]

private theorem pairwise_sortedLines (lines : List (List κ)) :
    (sortedLines lines).Pairwise (· ≤ ·) := by
  refine (List.pairwise_mergeSort ?_ ?_ lines).imp of_decide_eq_true
  · intro first second third early late
    exact decide_eq_true (List.le_trans (of_decide_eq_true early) (of_decide_eq_true late))
  · intro first second
    rw [Bool.or_eq_true, decide_eq_true_eq, decide_eq_true_eq]
    exact List.le_total first second

/-- **Sorting tells the lines up to their order.** -/
theorem sortedLines_eq_iff_perm {left right : List (List κ)} :
    sortedLines left = sortedLines right ↔ left.Perm right := by
  have perm (lines : List (List κ)) : (sortedLines lines).Perm lines := List.mergeSort_perm _ _
  constructor
  · intro same
    exact (perm left).symm.trans (same ▸ perm right)
  · intro reordered
    refine List.Perm.eq_of_pairwise ?_ (pairwise_sortedLines left) (pairwise_sortedLines right)
      ((perm left).trans (reordered.trans (perm right).symm))
    intro one other _ _ below above
    exact List.le_antisymm below above

end Order

/-! ## The report -/

/-- The lines of records. -/
def linesOf (records : List Record) : List (List Char) :=
  records.map line

/-- **The places of a report.** Lines that are there in another order are reported by the places at
which they differ. -/
theorem compare_of_perm {expected actual : List Record}
    (perm : (linesOf expected).Perm (linesOf actual)) (differ : linesOf expected ≠ linesOf actual) :
    compare expected actual = (differing (linesOf expected) (linesOf actual)).map fun place =>
      placeReport place ((linesOf expected).getD place []) ((linesOf actual).getD place []) := by
  have sorted : sortedLines (linesOf expected) = sortedLines (linesOf actual) :=
    sortedLines_eq_iff_perm.mpr perm
  have report : compare expected actual = reordered 0 (linesOf expected) (linesOf actual) := by
    rw [compare, compareLines]
    exact (if_neg differ).trans (if_pos sorted)
  rw [report, reordered_eq_map 0 perm.length_eq]
  simp only [Nat.zero_add]

/-- **The changes of a report.** Lines that are not there in another order are reported by the
changes from the actual ones to the expected ones. -/
theorem compare_of_not_perm {expected actual : List Record}
    (unlike : ¬ (linesOf expected).Perm (linesOf actual)) :
    compare expected actual =
      (changes (linesOf actual) (linesOf expected)).flatMap changeLines := by
  have differ : linesOf expected ≠ linesOf actual := fun same => unlike (same ▸ .refl _)
  have unsorted : sortedLines (linesOf expected) ≠ sortedLines (linesOf actual) :=
    fun same => unlike (sortedLines_eq_iff_perm.mp same)
  rw [compare, compareLines]
  exact (if_neg differ).trans (if_neg unsorted)

/-- **The edits of a report.** Lines that are not there in another order are reported by an edit
script from the actual ones to the expected ones. -/
theorem exists_editScript_of_not_perm {expected actual : List Record}
    (unlike : ¬ (linesOf expected).Perm (linesOf actual)) :
    ∃ made, EditScript made (linesOf actual) (linesOf expected) ∧
      compare expected actual = made.flatMap changeLines :=
  ⟨changes (linesOf actual) (linesOf expected), editScript_changes _ _,
    compare_of_not_perm unlike⟩

private theorem compare_eq_nil_iff {expected actual : List Record} :
    compare expected actual = [] ↔
      List.Forall₂ (fun wanted held => wanted.identity = held.identity) expected actual := by
  have lines : compare expected actual = [] ↔ linesOf expected = linesOf actual :=
    compareLines_eq_nil_iff
  rw [lines, linesOf, linesOf, ← List.forall₂_eq_eq_eq, List.forall₂_map_left_iff,
    List.forall₂_map_right_iff]
  simp only [Entry.identity_eq_iff_line]

/-- **Kinds of reports.** A report is empty exactly when the records have the same identities, place
by place; records have the same identity when they are alike. If the lines are there in another
order, it names each place at which they differ, in increasing order, and there are at least two.
Otherwise it says something, and says of each line that it is among the actual ones or that it is
among the expected ones. -/
theorem compare_kinds (expected actual : List Record) :
    (compare expected actual = [] ↔
        List.Forall₂ (fun wanted held => wanted.identity = held.identity) expected actual) ∧
      (∀ wanted ∈ expected, wanted.args.hasDistinctKeys = true → ∀ held ∈ actual,
        (wanted.identity = held.identity ↔ wanted.key = held.key ∧ wanted.command = held.command ∧
          wanted.when = held.when ∧ wanted.args.orNull.Alike held.args.orNull)) ∧
      ((linesOf expected).Perm (linesOf actual) → linesOf expected ≠ linesOf actual →
        2 ≤ (differing (linesOf expected) (linesOf actual)).length ∧
          compare expected actual = (differing (linesOf expected) (linesOf actual)).map fun place =>
            placeReport place ((linesOf expected).getD place [])
              ((linesOf actual).getD place [])) ∧
      (¬ (linesOf expected).Perm (linesOf actual) → compare expected actual ≠ [] ∧
        ∀ text ∈ compare expected actual,
          (∃ held ∈ linesOf actual, text = "- " ++ lineText held) ∨
            ∃ wanted ∈ linesOf expected, text = "+ " ++ lineText wanted) := by
  refine ⟨compare_eq_nil_iff, ?_, ?_, ?_⟩
  · intro wanted _ distinct held _
    exact Entry.identity_eq_iff_alike distinct
  · intro perm differ
    exact ⟨two_le_length_differing perm differ, compare_of_perm perm differ⟩
  · intro unlike
    refine ⟨fun silent => ?_, ?_⟩
    · have same : linesOf expected = linesOf actual := compareLines_eq_nil_iff.mp silent
      exact unlike (same ▸ .refl _)
    · obtain ⟨made, script, report⟩ := exists_editScript_of_not_perm unlike
      intro text member
      rw [report] at member
      obtain ⟨change, inside, listed⟩ := List.mem_flatMap.mp member
      rcases List.mem_append.mp listed with dropped | added
      · obtain ⟨held, present, rfl⟩ := List.mem_map.mp dropped
        exact Or.inl ⟨held, script.mem_left_of_dropped inside present, rfl⟩
      · obtain ⟨wanted, present, rfl⟩ := List.mem_map.mp added
        exact Or.inr ⟨wanted, script.mem_right_of_added inside present, rfl⟩

/-- A record with arguments of two fields. -/
def keyedRecord : Record :=
  ⟨"a", "b", "", .object [("x", .int 1), ("y", .bool false)]⟩

/-- The record with the fields of its arguments in the other order. -/
def rekeyedRecord : Record :=
  ⟨"a", "b", "", .object [("y", .bool false), ("x", .int 1)]⟩

private theorem line_bareRecord_ne_line_keyedRecord :
    (line bareRecord : List Char) ≠ line keyedRecord := by
  intro same
  have identities : bareRecord.identity = keyedRecord.identity :=
    Entry.identity_eq_iff_line.mpr same
  exact Datum.sortedText_ne_empty keyedRecord.args (congrArg Identity.args identities).symm

/-- Two records in the other order, one of them with the fields of its arguments in another order,
and a record that is there once too often. -/
theorem compare_keyedRecord_kinds :
    keyedRecord.identity = rekeyedRecord.identity ∧
      compare [bareRecord, keyedRecord] [rekeyedRecord, bareRecord] =
        [placeReport 0 (line bareRecord) (line rekeyedRecord),
          placeReport 1 (line keyedRecord) (line bareRecord)] ∧
      compare [keyedRecord] [bareRecord, keyedRecord] ≠ [] := by
  obtain ⟨-, identities, places, -⟩ :=
    compare_kinds [bareRecord, keyedRecord] [rekeyedRecord, bareRecord]
  obtain ⟨-, -, -, edits⟩ := compare_kinds [keyedRecord] [bareRecord, keyedRecord]
  have flags : Datum.AlikeFields [("y", (.bool false : Value))] ([] ++ ("y", .bool false) :: []) :=
    .cons (.bool false) .nil
  have fields : Datum.AlikeFields [("x", (.int 1 : Value)), ("y", .bool false)]
      ([("y", .bool false)] ++ ("x", .int 1) :: []) := .cons (.int 1) flags
  have alike : keyedRecord.args.orNull.Alike rekeyedRecord.args.orNull := .object fields
  have same : keyedRecord.identity = rekeyedRecord.identity :=
    (identities keyedRecord (by simp) (by decide) rekeyedRecord (by simp)).mpr
      ⟨rfl, rfl, rfl, alike⟩
  have line_eq : (line rekeyedRecord : List Char) = line keyedRecord :=
    Entry.identity_eq_iff_line.mp same.symm
  have apart := line_bareRecord_ne_line_keyedRecord
  have wanted : linesOf [bareRecord, keyedRecord] = [line bareRecord, line keyedRecord] := rfl
  have held : linesOf [rekeyedRecord, bareRecord] = [line rekeyedRecord, line bareRecord] := rfl
  rw [wanted, held] at places
  refine ⟨same, ?_, ?_⟩
  · have differ : [line bareRecord, line keyedRecord] ≠ [line rekeyedRecord, line bareRecord] := by
      rw [line_eq]
      exact fun lists => apart (List.cons.inj lists).1
    have swapped :
        [line bareRecord, line keyedRecord].Perm [line rekeyedRecord, line bareRecord] := by
      rw [line_eq]
      exact .swap _ _ _
    have both : differing [line bareRecord, line keyedRecord]
        [line rekeyedRecord, line bareRecord] = [0, 1] := by
      rw [line_eq, differing_cons, differing_cons, if_neg apart, if_neg apart.symm]
      rfl
    rw [(places swapped differ).2, both]
    rfl
  · exact (edits fun perm => by cases perm.length_eq).1

/-! ## The balance of a report -/

private theorem lineText_injective : Function.Injective (lineText : List Char → String) :=
  fun _ _ same => String.ofList_injective same

private theorem count_map_mark (mark : String) (lines : List (List Char)) (line : List Char) :
    (lines.map (mark ++ lineText ·)).count (mark ++ lineText line) = lines.count line :=
  List.count_map_of_injective lines _
    (fun _ _ same => lineText_injective ((String.append_right_inj mark).mp same)) line

private theorem count_map_other_mark {mark other : String}
    (apart : ∀ one two : String, mark ++ one ≠ other ++ two) (lines : List (List Char))
    (line : List Char) :
    (lines.map (mark ++ lineText ·)).count (other ++ lineText line) = 0 := by
  refine List.count_eq_zero.mpr fun member => ?_
  obtain ⟨held, -, same⟩ := List.mem_map.mp member
  exact apart _ _ same

private theorem dropped_ne_added (one two : String) : "- " ++ one ≠ "+ " ++ two := by
  intro same
  have letters := congrArg String.toList same
  rw [String.toList_append, String.toList_append] at letters
  exact absurd (List.cons.inj letters).1 (by decide)

/-- A report on changes says a text as often as it says it of what they drop, and of what they
add. -/
theorem count_changeLines (made : List (Change (List Char))) (text : String) :
    (made.flatMap changeLines).count text =
      ((made.flatMap Change.dropped).map ("- " ++ lineText ·)).count text +
        ((made.flatMap Change.added).map ("+ " ++ lineText ·)).count text := by
  induction made with
  | nil => rfl
  | cons change made ih =>
      simp only [List.flatMap_cons, List.map_append, List.count_append, ih, changeLines]
      omega

/-- A line is reported as added as often as the changes add it. -/
theorem count_added (made : List (Change (List Char))) (line : List Char) :
    (made.flatMap changeLines).count ("+ " ++ lineText line) =
      (made.flatMap Change.added).count line := by
  rw [count_changeLines, count_map_other_mark dropped_ne_added, count_map_mark, Nat.zero_add]

/-- A line is reported as dropped as often as the changes drop it. -/
theorem count_dropped (made : List (Change (List Char))) (line : List Char) :
    (made.flatMap changeLines).count ("- " ++ lineText line) =
      (made.flatMap Change.dropped).count line := by
  rw [count_changeLines, count_map_mark,
    count_map_other_mark fun one two => (dropped_ne_added two one).symm, Nat.add_zero]

/-- **A report is an edit script**, unless the lines are there in another order. Both lists begin
with the same stretch; then the actual one goes on with what a change drops and the expected one
with what it adds, and both with a further stretch. The report says of each change in turn what it
drops and what it adds. So a line is added as often more than it is dropped as it is expected more
often than it is there. -/
theorem compare_edits {expected actual : List Record}
    (unlike : ¬ (linesOf expected).Perm (linesOf actual)) :
    ∃ (first : List (List Char)) (pieces : List (Change (List Char) × List (List Char))),
      linesOf actual = first ++ pieces.flatMap (fun piece => piece.1.dropped ++ piece.2) ∧
      linesOf expected = first ++ pieces.flatMap (fun piece => piece.1.added ++ piece.2) ∧
      (∀ piece ∈ pieces, ¬ (piece.1.dropped = [] ∧ piece.1.added = [])) ∧
      (compare expected actual = pieces.flatMap fun piece =>
        piece.1.dropped.map ("- " ++ lineText ·) ++ piece.1.added.map ("+ " ++ lineText ·)) ∧
      ∀ line : List Char,
        ((compare expected actual).count ("+ " ++ lineText line) : Int) -
            (compare expected actual).count ("- " ++ lineText line) =
          (linesOf expected).count line - (linesOf actual).count line := by
  obtain ⟨made, script, report⟩ := exists_editScript_of_not_perm unlike
  obtain ⟨first, pieces, rfl, leftCut, rightCut⟩ := script.exists_stretches
  refine ⟨first, pieces, leftCut, rightCut, ?_, ?_, ?_⟩
  · intro piece inside
    exact script.real_of_mem (List.mem_map_of_mem inside)
  · rw [report, List.flatMap_map]
    rfl
  · intro line
    have balance := script.count_added_add line
    rw [report, count_added, count_dropped]
    omega

/-- The file has the record with arguments twice, and the other record, which comes twice, not at
all. -/
theorem compare_edits_of_missing :
    ¬ (linesOf [bareRecord, keyedRecord, bareRecord]).Perm
        (linesOf [keyedRecord, keyedRecord]) ∧
      let report := compare [bareRecord, keyedRecord, bareRecord] [keyedRecord, keyedRecord]
      (report.count ("+ " ++ lineText (line bareRecord : List Char)) : Int) -
          report.count ("- " ++ lineText (line bareRecord : List Char)) = 2 ∧
        (report.count ("+ " ++ lineText (line keyedRecord : List Char)) : Int) -
          report.count ("- " ++ lineText (line keyedRecord : List Char)) = -1 := by
  have unlike : ¬ (linesOf [bareRecord, keyedRecord, bareRecord]).Perm
      (linesOf [keyedRecord, keyedRecord]) := fun perm => by cases perm.length_eq
  have apart := line_bareRecord_ne_line_keyedRecord
  obtain ⟨first, pieces, -, -, -, -, balance⟩ := compare_edits unlike
  refine ⟨unlike, ?_, ?_⟩
  · rw [balance]
    simp [linesOf, apart, apart.symm]
  · rw [balance]
    simp [linesOf, apart, apart.symm]

end Drift

end KeyChords
