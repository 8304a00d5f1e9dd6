import Mathlib.Data.List.Zip
import KeyChords.Expansion
import KeyChords.Proofs.Chord.Spelling
import KeyChords.Proofs.Table.Registration

/-! # Generated rules

A typing expansion is valid when its characters are aligned and none repeats, and when it has a
command for them. The chords that a valid expansion generates are all different, whatever the
modifier is: a key without it is a single character, and a key with it is longer. So the rules go
into a table exactly when their slots are free, or up to the first whose slot is taken
(`KeyChords.Expansion.Valid.apply_cases`). A generated chord is one press, even where the key is a
plus sign or a blank.
-/

namespace KeyChords

open Json

namespace Expansion

/-- **A valid typing expansion.** -/
structure Valid (expansion : Expansion) : Prop where
  aligned : expansion.plain.length = expansion.shifted.length
  distinct : expansion.plain.toList.Nodup
  commanded : expansion.plain ≠ "" → expansion.command ≠ ""

variable {expansion : Expansion} {table : Table} {condition : Condition}

/-- Nothing is repeated when the characters differ from each other and from those before. -/
theorem firstRepeated?_eq_none_iff {seen characters : List Char} :
    firstRepeated? seen characters = none ↔
      characters.Nodup ∧ ∀ c ∈ characters, c ∉ seen := by
  induction characters generalizing seen with
  | nil => simp [firstRepeated?]
  | cons c rest ih =>
      by_cases known : c ∈ seen
      · simp [firstRepeated?, known]
      · simp only [firstRepeated?, known, ↓reduceIte, ih, List.nodup_cons, List.mem_cons]
        constructor
        · rintro ⟨distinct, fresh⟩
          refine ⟨⟨fun member => fresh c member (Or.inl rfl), distinct⟩, ?_⟩
          rintro other (rfl | member)
          · exact known
          · exact fun seenBefore => fresh other member (Or.inr seenBefore)
        · rintro ⟨⟨unrepeated, distinct⟩, fresh⟩
          refine ⟨distinct, fun other member => ?_⟩
          rintro (rfl | seenBefore)
          · exact unrepeated member
          · exact fresh other (Or.inr member) seenBefore

private theorem violation_ne_ok (expansion : Expansion) (kind : Violation.Kind)
    (detail : Violation.Detail) (chord : Option String) :
    expansion.violation kind detail chord ≠ .ok () := by
  rw [violation]
  cases expansion.condition.conditionText <;> simp

/-- An expansion passes when both rows are equally long and the plain one repeats no character. -/
theorem validate_eq_ok_iff :
    expansion.validate = .ok () ↔
      expansion.plain.length = expansion.shifted.length ∧ expansion.plain.toList.Nodup := by
  simp only [validate, String.length_toList]
  by_cases aligned : expansion.plain.length = expansion.shifted.length
  · cases repeated : firstRepeated? [] expansion.plain.toList with
    | none =>
        have distinct := (firstRepeated?_eq_none_iff.mp repeated).1
        simp [aligned, distinct]
    | some c =>
        have repeats : ¬ expansion.plain.toList.Nodup := fun distinct => by
          rw [firstRepeated?_eq_none_iff.mpr ⟨distinct, fun _ _ => List.not_mem_nil⟩] at repeated
          exact absurd repeated (by simp)
        simp [aligned, repeats, violation_ne_ok]
  · simp [aligned, violation_ne_ok]

/-- The keys of an expansion: each character with its shifted form. -/
def keys (expansion : Expansion) : List (Char × Char) :=
  expansion.plain.toList.zip expansion.shifted.toList

/-- The plain characters of a sound expansion are its keys, in order. -/
theorem Valid.map_fst_keys (valid : expansion.Valid) :
    expansion.keys.map Prod.fst = expansion.plain.toList := by
  have aligned := valid.aligned
  rw [keys, List.map_fst_zip]
  rw [String.length_toList, String.length_toList, aligned]

/-- An expansion without keys has no plain characters. -/
theorem keys_eq_nil_iff (aligned : expansion.plain.length = expansion.shifted.length) :
    expansion.keys = [] ↔ expansion.plain = "" := by
  rw [keys, List.zip_eq_nil_iff]
  constructor
  · rintro (plain | shifted)
    · exact String.toList_eq_nil_iff.mp plain
    · have none : expansion.plain.length = 0 := by
        rw [aligned, String.toList_eq_nil_iff.mp shifted, String.length_empty]
      exact String.length_eq_zero_iff.mp none
  · intro none
    exact Or.inl (String.toList_eq_nil_iff.mpr none)

/-- **The rules of an expansion** exist exactly when it is valid. -/
theorem rules_eq_ok_iff {rules : List (String × Action)} :
    expansion.rules = .ok rules ↔
      expansion.Valid ∧
        rules = expansion.keys.flatMap fun key => expansion.keyRules key.1 key.2 := by
  unfold Expansion.rules
  cases checked : expansion.validate with
  | error fault =>
      simp only [bind, Except.bind, reduceCtorEq, false_iff, not_and]
      intro valid
      rw [validate_eq_ok_iff.mpr ⟨valid.aligned, valid.distinct⟩] at checked
      exact absurd checked (by simp)
  | ok checkedUnit =>
      obtain ⟨aligned, distinct⟩ := validate_eq_ok_iff.mp checked
      simp only [bind, Except.bind]
      have commanded : ¬ (expansion.command = "" ∧ expansion.keys ≠ []) ↔
          (expansion.plain ≠ "" → expansion.command ≠ "") := by
        rw [ne_eq, keys_eq_nil_iff aligned, not_and', ne_eq, ne_eq]
      by_cases nameless : expansion.command = "" ∧ expansion.keys ≠ []
      · have invalid : ¬ expansion.Valid := fun valid =>
          commanded.mpr valid.commanded nameless
        simp only [keys] at nameless
        simp [nameless, invalid, throw, throwThe, MonadExceptOf.throw]
      · have valid : expansion.Valid := ⟨aligned, distinct, commanded.mp nameless⟩
        simp only [keys] at nameless
        simp only [nameless, ↓reduceIte, valid, true_and]
        exact ⟨fun same => (Except.ok.inj same).symm, fun same => congrArg Except.ok same.symm⟩

/-- **The generated rules**, each under its chord. -/
def typingRules (expansion : Expansion) (condition : Condition) : List (String × Rule) :=
  (expansion.keys.flatMap fun key => expansion.keyRules key.1 key.2).map fun rule =>
    (rule.1, ⟨condition, rule.2⟩)

private theorem when_of_mem_typingRules {rule : String × Rule}
    (member : rule ∈ expansion.typingRules condition) : rule.2.when = condition.text := by
  obtain ⟨_, -, rfl⟩ := List.mem_map.mp member
  rfl

/-- The two chords of a key. -/
def keyChords (modifier : String) (c : Char) : List String :=
  [String.singleton c, Chord.modified modifier (String.singleton c)]

/-- The typing rules stand on the plain and the shifted chord of each key. -/
theorem map_fst_typingRules (expansion : Expansion) (condition : Condition) :
    (expansion.typingRules condition).map Prod.fst =
      (expansion.keys.map Prod.fst).flatMap (keyChords expansion.modifier) := by
  rw [typingRules, List.map_map, List.map_flatMap, List.flatMap_map]
  rfl

/-- Two rules are generated for each character. -/
theorem Valid.length_typingRules (valid : expansion.Valid) (condition : Condition) :
    (expansion.typingRules condition).length = 2 * expansion.plain.length := by
  rw [← List.length_map (f := Prod.fst), map_fst_typingRules, valid.map_fst_keys,
    List.length_flatMap]
  simp [keyChords, Nat.mul_comm, String.length_toList]

private theorem toList_modified_singleton (modifier : String) (c : Char) :
    (Chord.modified modifier (String.singleton c)).toList = modifier.toList ++ ['+', c] := by
  simp [Chord.modified]

private theorem mem_keyChords {modifier chord : String} {c : Char} :
    chord ∈ keyChords modifier c ↔
      chord.toList = [c] ∨ chord.toList = modifier.toList ++ ['+', c] := by
  rw [keyChords, List.mem_pair, ← toList_modified_singleton, String.toList_inj,
    ← String.toList_singleton, String.toList_inj]

/-- Different characters have no chord in common. -/
theorem eq_of_mem_keyChords {modifier chord : String} {c d : Char}
    (first : chord ∈ keyChords modifier c) (second : chord ∈ keyChords modifier d) : c = d := by
  have last {e : Char} (member : chord ∈ keyChords modifier e) :
      chord.toList.getLast? = some e := by
    rcases mem_keyChords.mp member with letters | letters <;> simp [letters]
  have same := (last first).symm.trans (last second)
  rwa [Option.some.injEq] at same

private theorem nodup_keyChords (modifier : String) (c : Char) : (keyChords modifier c).Nodup := by
  refine List.nodup_cons.mpr ⟨?_, List.nodup_singleton _⟩
  rw [List.mem_singleton]
  intro same
  have lengths := congrArg (fun text : String => text.toList.length) same
  simp [toList_modified_singleton] at lengths

/-- **The generated chords are all different.** -/
theorem Valid.nodup_chords (valid : expansion.Valid) (condition : Condition) :
    ((expansion.typingRules condition).map Prod.fst).Nodup := by
  rw [map_fst_typingRules, valid.map_fst_keys, List.nodup_flatMap]
  refine ⟨fun c _ => nodup_keyChords _ c, valid.distinct.imp ?_⟩
  intro c d differ chord first second
  exact differ (eq_of_mem_keyChords first second)

/-- A generated chord names a key. -/
theorem ne_empty_of_mem_typingRules {rule : String × Rule}
    (member : rule ∈ expansion.typingRules condition) : rule.1 ≠ "" := by
  intro blank
  have chord := List.mem_map_of_mem (f := Prod.fst) member
  rw [map_fst_typingRules] at chord
  obtain ⟨c, -, inside⟩ := List.mem_flatMap.mp chord
  rcases mem_keyChords.mp inside with letters | letters <;> simp [blank] at letters

/-- Every generated rule types a character, so it has a title. -/
theorem hasTitle_of_mem_typingRules {rule : String × Rule}
    (member : rule ∈ expansion.typingRules condition) : rule.2.action.HasTitle := by
  obtain ⟨action, listed, rfl⟩ := List.mem_map.mp member
  obtain ⟨key, -, either⟩ := List.mem_flatMap.mp listed
  rcases List.mem_pair.mp either with rfl | rfl
  · exact Action.hasTitle_run _
  · exact Action.hasTitle_run _

/-- The typing rules of a sound expansion take different slots. -/
theorem Valid.nodup_slots (valid : expansion.Valid) (condition : Condition) :
    ((expansion.typingRules condition).map Table.slot).Nodup :=
  List.Nodup.of_map Prod.fst (by
    rw [List.map_map]
    exact valid.nodup_chords condition)

/-- A table admits the rules of a valid expansion when their slots are free. -/
theorem Valid.admits (valid : expansion.Valid)
    (free : ∀ rule ∈ expansion.typingRules condition,
      table.find? rule.1 condition.text = none) :
    table.Admits (expansion.typingRules condition) where
  named _ member := ne_empty_of_mem_typingRules member
  titled _ member := hasTitle_of_mem_typingRules member
  free := by
    intro rule member
    rw [when_of_mem_typingRules member]
    exact free rule member
  apart := valid.nodup_slots condition

/-! ## Putting the rules into a table -/

/-- One step of an expansion binds a rule and counts it, unless it is refused. -/
theorem bindNext_cases (formed : expansion.condition.toCondition = .ok condition)
    (table : Table) (count : Nat) (rule : String × Action) :
    let bound := table.bind rule.1 ⟨condition, rule.2⟩ .expansionCollision
    let next := expansion.bindNext (table, count) rule
    (∃ fault, bound.fault = some fault ∧ next.fault = some fault ∧ next.state.1 = bound.state) ∨
      (bound.fault = none ∧ next.fault = none ∧ next.state = (bound.state, count + 1)) := by
  intro bound next
  have step : next = (bound.map (·, count)).andThen fun filled =>
      .done (filled.1, filled.2 + 1) [] := by
    simp only [bound, ← Table.register_of_toCondition formed table rule.1 rule.2]
    rfl
  cases outcome : bound.fault with
  | some fault =>
      have stopped : (bound.map (·, count)).fault = some fault := outcome
      rw [step, Progress.andThen_of_some stopped]
      exact Or.inl ⟨fault, rfl, stopped, rfl⟩
  | none =>
      have quiet : (bound.map (·, count)).fault = none := outcome
      rw [step, Progress.fault_andThen_of_none quiet, Progress.state_andThen_of_none quiet]
      exact Or.inr ⟨rfl, rfl, rfl⟩

/-- **The counted run binds the rules one after the other**: it is stopped by the same fault at the
same table, and counts the rules if it ends. -/
theorem each_bindNext (formed : expansion.condition.toCondition = .ok condition)
    (listed : List (String × Action)) (table : Table) (count : Nat) :
    let run := Progress.each (fun table (rule : String × Rule) =>
      table.bind rule.1 rule.2 .expansionCollision) table
        (listed.map fun rule => (rule.1, ⟨condition, rule.2⟩))
    let counted := Progress.each expansion.bindNext (table, count) listed
    counted.fault = run.fault ∧ counted.state.1 = run.state ∧
      (run.fault = none → counted.state.2 = count + listed.length) := by
  induction listed generalizing table count with
  | nil => exact ⟨rfl, rfl, fun _ => rfl⟩
  | cons rule rest ih =>
      intro run counted
      simp only [run, counted, List.map_cons, Progress.each]
      rcases bindNext_cases formed table count rule with
        ⟨fault, outcome, stopped, state⟩ | ⟨outcome, quiet, state⟩
      · rw [Progress.andThen_of_some outcome, Progress.andThen_of_some stopped]
        refine ⟨stopped.trans outcome.symm, state, fun ended => ?_⟩
        cases ended.symm.trans outcome
      · rw [Progress.fault_andThen_of_none outcome, Progress.state_andThen_of_none outcome,
          Progress.fault_andThen_of_none quiet, Progress.state_andThen_of_none quiet, state]
        obtain ⟨faults, states, counts⟩ := ih
          (table.bind rule.1 ⟨condition, rule.2⟩ .expansionCollision).state (count + 1)
        refine ⟨faults, states, fun ended => (counts ended).trans ?_⟩
        rw [List.length_cons]
        omega

/-- **How far a valid expansion gets.** All of its slots are free, and the table takes all of its
rules, which are counted; or it takes those in front of the first whose slot is taken. -/
theorem Valid.apply_cases (valid : expansion.Valid)
    (formed : expansion.condition.toCondition = .ok condition) (table : Table) :
    ((∀ rule ∈ expansion.typingRules condition, table.find? rule.1 condition.text = none) ∧
        (expansion.apply table).fault = none ∧
        (expansion.apply table).log.getLast? =
          some (expansion.generated (2 * expansion.plain.length) condition.text) ∧
        (expansion.apply table).state =
          (table.added (expansion.typingRules condition), 2 * expansion.plain.length)) ∨
      ∃ before rule after held, expansion.typingRules condition = before ++ rule :: after ∧
        (∀ other ∈ before, table.find? other.1 condition.text = none) ∧
        table.Admits before ∧ table.find? rule.1 condition.text = some held ∧
        (expansion.apply table).fault = some
          (Table.taken .expansionCollision rule.1 condition.text held rule.2.action) ∧
        (expansion.apply table).state.1 = table.added before := by
  have listed := rules_eq_ok_iff.mpr ⟨valid, rfl⟩
  have applied : expansion.apply table = (Progress.each expansion.bindNext (table, 0)
      (expansion.keys.flatMap fun key => expansion.keyRules key.1 key.2)).andThen
        expansion.finish := by
    rw [apply, listed]
  obtain ⟨faults, states, counts⟩ := each_bindNext formed
    (expansion.keys.flatMap fun key => expansion.keyRules key.1 key.2) table 0
  rcases Table.each_bind_apart_cases table .expansionCollision (valid.nodup_slots condition) with
    ⟨admits, ended, state⟩ | ⟨before, rule, after, fault, split, admits, failed, refused⟩
  · have quiet := faults.trans ended
    have reached : (Progress.each expansion.bindNext (table, 0)
        (expansion.keys.flatMap fun key => expansion.keyRules key.1 key.2)).state =
          (table.added (expansion.typingRules condition), 2 * expansion.plain.length) := by
      refine Prod.ext (states.trans state) ((counts ended).trans ?_)
      rw [Nat.zero_add, ← valid.length_typingRules condition, typingRules, List.length_map]
    have finished : expansion.finish
        (table.added (expansion.typingRules condition), 2 * expansion.plain.length) =
          .done (table.added (expansion.typingRules condition), 2 * expansion.plain.length)
            [expansion.generated (2 * expansion.plain.length) condition.text] := by
      rw [finish, Draft.conditionText_of_toCondition formed]
    refine Or.inl ⟨fun rule member => ?_, ?_, ?_, ?_⟩
    · rw [← when_of_mem_typingRules member]
      exact admits.free rule member
    · rw [applied, Progress.fault_andThen_of_none quiet, reached, finished]
      rfl
    · rw [applied, Progress.andThen, quiet]
      dsimp only
      rw [reached, finished]
      exact List.getLast?_concat
    · rw [applied, Progress.state_andThen_of_none quiet, reached, finished]
      rfl
  · have member : rule ∈ expansion.typingRules condition := by
      rw [split]
      exact List.mem_append_right before List.mem_cons_self
    have stopped := faults.trans failed
    have whole : expansion.apply table = Progress.each expansion.bindNext (table, 0)
        (expansion.keys.flatMap fun key => expansion.keyRules key.1 key.2) :=
      applied.trans (Progress.andThen_of_some stopped _)
    rcases refused with ⟨blank, -⟩ | ⟨held, found, rfl, state⟩ | ⟨-, untitled, -⟩
    · exact absurd blank (ne_empty_of_mem_typingRules member)
    · rw [when_of_mem_typingRules member] at found stopped
      refine Or.inr ⟨before, rule, after, held, split, fun other inside => ?_, admits, found,
        whole ▸ stopped, ?_⟩
      · have among : other ∈ expansion.typingRules condition := by
          rw [split]
          exact List.mem_append_left _ inside
        rw [← when_of_mem_typingRules among]
        exact admits.free other inside
      · rw [whole]
        exact states.trans state
    · obtain ⟨title, titled⟩ := hasTitle_of_mem_typingRules member
      cases titled.symm.trans untitled

/-- **A typing expansion goes into a table** exactly when it is valid and its slots are free; the
table then holds its rules beside the old ones. -/
theorem apply_cases (formed : expansion.condition.toCondition = .ok condition) (table : Table) :
    (expansion.Valid ∧
        (∀ rule ∈ expansion.typingRules condition, table.find? rule.1 condition.text = none) ∧
        (expansion.apply table).fault = none ∧
        (expansion.apply table).state.1 = table.added (expansion.typingRules condition)) ∨
      (¬ (expansion.Valid ∧
          ∀ rule ∈ expansion.typingRules condition, table.find? rule.1 condition.text = none) ∧
        ∃ fault, (expansion.apply table).fault = some fault) := by
  by_cases valid : expansion.Valid
  · rcases valid.apply_cases formed table with
      ⟨free, ended, -, state⟩ | ⟨before, rule, after, held, split, -, -, found, stopped, -⟩
    · exact Or.inl ⟨valid, free, ended, congrArg Prod.fst state⟩
    · refine Or.inr ⟨fun both => ?_, _, stopped⟩
      have member : rule ∈ expansion.typingRules condition := by
        rw [split]
        exact List.mem_append_right before List.mem_cons_self
      cases found.symm.trans (both.2 rule member)
  · refine Or.inr ⟨fun both => valid both.1, ?_⟩
    rw [apply]
    cases listed : expansion.rules with
    | error fault => exact ⟨fault, rfl⟩
    | ok rules => exact absurd (rules_eq_ok_iff.mp listed).1 valid

/-- **A generated chord is one press.** -/
theorem single_of_mem_keyChords {modifier chord : String} {c : Char}
    (whole : ' ' ∉ modifier.toList) (member : chord ∈ keyChords modifier c) :
    (Chord.presses chord).length ≤ 1 := by
  have single (front : List Char) (frontWhole : ' ' ∉ front)
      (letters : chord.toList = front ++ [c]) : (Chord.presses chord).length ≤ 1 := by
    rw [← String.ofList_toList (s := chord), letters]
    by_cases blank : c = ' '
    · exact blank ▸ (Chord.length_presses_le_one frontWhole).2
    · refine (Chord.length_presses_le_one ?_).1
      simp [frontWhole, Ne.symm blank]
  rcases mem_keyChords.mp member with letters | letters
  · exact single [] List.not_mem_nil letters
  · refine single (modifier.toList ++ ['+']) ?_ (by rw [letters]; simp)
    simp [whole]

end Expansion

end KeyChords
