import KeyChords.Proofs.Expansion.Generated
import KeyChords.Proofs.Table.Soundness

/-! # What an expansion leaves behind

A typing expansion is refused as it stands, goes into a table as a whole, or gets as far as the
first of its rules whose slot is taken. An expansion that is not valid has a flaw and leaves the
table alone (`KeyChords.Expansion.exists_flaw`). A valid one collides with the table only, never
with itself, so the first taken slot is one of the table's own, and the rules in front of it are
what the table has gained (`KeyChords.Expansion.apply_outcome`). The fault is then a collision,
unless the action in that slot has no title for it to name.
-/

namespace KeyChords

open Json

namespace Table

/-- **A table gains rules**: they take slots that were free, each a slot of its own, with their
actions and their conditions, and go behind the other bindings of their chords. No other slot
changes. -/
structure Gains (table : Table) (rules : List (String × Rule)) (final : Table) : Prop where
  apart : (rules.map slot).Nodup
  items : final.items.Perm (table.items ++ rules.map fun (chord, rule) => (chord, rule.binding))
  chords : ∀ chord, chord ∈ final.chords ↔ chord ∈ table.chords ∨ chord ∈ rules.map Prod.fst
  bindings : ∀ chord, final.bindings chord = table.bindings chord ++ given rules chord
  taken : ∀ rule ∈ rules, table.find? rule.1 rule.2.when = none ∧
    final.find? rule.1 rule.2.when = some rule.2.action ∧
    final.conditions.get? (slot rule) = some rule.2.condition
  kept : ∀ chord line, (chord, line) ∉ rules.map slot →
    final.find? chord line = table.find? chord line ∧
      final.conditions.get? (chord, line) = table.conditions.get? (chord, line)

private theorem Fits.gains {table : Table} {rules : List (String × Rule)}
    (fits : table.Fits rules) :
    table.Gains rules (table.added rules) where
  apart := fits.apart
  items := fits.items_added
  chords _ := mem_chords_added
  bindings := fits.bindings_added
  taken rule member := ⟨fits.free rule member, slotWise_find?.added_of_mem fits.apart member,
    slotWise_conditions.added_of_mem fits.apart member⟩
  kept _ _ other :=
    ⟨slotWise_find?.added_of_not_mem other, slotWise_conditions.added_of_not_mem other⟩

end Table

namespace Expansion

variable {expansion : Expansion} {table : Table} {condition : Condition}

/-! ## Flaws -/

/-- **What is wrong with an expansion that is not valid**, with the fault it is refused for: the
first of its flaws, in the order in which they are looked for. -/
inductive Flaw (expansion : Expansion) (line : String) : Fault → Prop
  | unaligned (differ : expansion.plain.length ≠ expansion.shifted.length) :
      Flaw expansion line (.violation ⟨.expansionSet,
        .unequalSets expansion.plain.length expansion.shifted.length, none, some line⟩)
  | repeated {before after : List Char} {c : Char}
      (aligned : expansion.plain.length = expansion.shifted.length)
      (split : expansion.plain.toList = before ++ c :: after) (distinct : before.Nodup)
      (again : c ∈ before) :
      Flaw expansion line (.violation ⟨.expansionCollision, .repeatedCharacter,
        some (String.singleton c), some line⟩)
  | nameless (aligned : expansion.plain.length = expansion.shifted.length)
      (distinct : expansion.plain.toList.Nodup) (filled : expansion.plain ≠ "")
      (blank : expansion.command = "") :
      Flaw expansion line .emptyCommand

/-- The first repeated character comes behind different ones, among which it is. -/
theorem exists_of_firstRepeated? {seen characters : List Char} {c : Char}
    (repeated : firstRepeated? seen characters = some c) :
    ∃ before after, characters = before ++ c :: after ∧ before.Nodup ∧
      (∀ d ∈ before, d ∉ seen) ∧ (c ∈ seen ∨ c ∈ before) := by
  induction characters generalizing seen with
  | nil => simp [firstRepeated?] at repeated
  | cons d rest ih =>
      by_cases known : d ∈ seen
      · rw [firstRepeated?, if_pos known, Option.some.injEq] at repeated
        subst repeated
        exact ⟨[], rest, rfl, List.nodup_nil, by simp, Or.inl known⟩
      · rw [firstRepeated?, if_neg known] at repeated
        obtain ⟨before, after, rfl, distinct, fresh, again⟩ := ih repeated
        refine ⟨d :: before, after, rfl, ?_, ?_, ?_⟩
        · exact List.nodup_cons.mpr ⟨fun member => fresh d member List.mem_cons_self, distinct⟩
        · intro other member
          rcases List.mem_cons.mp member with rfl | later
          · exact known
          · exact fun old => fresh other later (List.mem_cons_of_mem d old)
        · rcases again with old | new
          · rcases List.mem_cons.mp old with rfl | old
            · exact Or.inr List.mem_cons_self
            · exact Or.inl old
          · exact Or.inr (List.mem_cons_of_mem d new)

private theorem violation_of_toCondition (formed : expansion.condition.toCondition = .ok condition)
    (kind : Violation.Kind) (detail : Violation.Detail) (chord : Option String) :
    expansion.violation kind detail chord =
      .error (.violation ⟨kind, detail, chord, some condition.text⟩) := by
  rw [violation, Draft.conditionText_of_toCondition formed]

/-- **An expansion that is not valid has a flaw**, and is refused for it. -/
theorem exists_flaw (formed : expansion.condition.toCondition = .ok condition)
    (invalid : ¬ expansion.Valid) :
    ∃ fault, expansion.Flaw condition.text fault ∧ expansion.rules = .error fault := by
  have refused {fault : Fault} (checked : expansion.validate = .error fault) :
      expansion.rules = .error fault := by
    rw [rules, checked]
    rfl
  by_cases aligned : expansion.plain.length = expansion.shifted.length
  · cases repeated : firstRepeated? [] expansion.plain.toList with
    | some c =>
        obtain ⟨before, after, split, distinct, -, again⟩ := exists_of_firstRepeated? repeated
        refine ⟨_, .repeated aligned split distinct ?_, refused ?_⟩
        · exact again.resolve_left List.not_mem_nil
        · simp [validate, String.length_toList, aligned, repeated, violation_of_toCondition formed]
    | none =>
        have distinct := (firstRepeated?_eq_none_iff.mp repeated).1
        have nameless : expansion.plain ≠ "" ∧ expansion.command = "" := by
          by_contra commanded
          exact invalid ⟨aligned, distinct, fun filled blank => commanded ⟨filled, blank⟩⟩
        refine ⟨_, .nameless aligned distinct nameless.1 nameless.2, ?_⟩
        have filled : expansion.keys ≠ [] := (keys_eq_nil_iff aligned).not.mpr nameless.1
        rw [keys] at filled
        rw [rules, validate_eq_ok_iff.mpr ⟨aligned, distinct⟩]
        simp [bind, Except.bind, nameless.2, filled, throw, throwThe, MonadExceptOf.throw]
  · refine ⟨_, .unaligned aligned, refused ?_⟩
    simp [validate, String.length_toList, aligned, violation_of_toCondition formed]

/-- An expansion that is not valid leaves the table as it is. -/
theorem apply_of_not_valid (formed : expansion.condition.toCondition = .ok condition)
    (invalid : ¬ expansion.Valid) (table : Table) :
    ∃ fault, expansion.Flaw condition.text fault ∧
      expansion.apply table = .stopped (table, 0) fault := by
  obtain ⟨fault, flaw, listed⟩ := exists_flaw formed invalid
  refine ⟨fault, flaw, ?_⟩
  rw [apply, listed]

/-! ## The generated rules, key by key -/

/-- **Rules that type the characters of an expansion**: two for each key, under different chords.
The chord of a key types its character, and the chord with the modifier the character that stands at
the same place among the shifted ones. -/
structure KeyByKey (expansion : Expansion) (condition : Condition)
    (rules : List (String × Rule)) : Prop where
  length : rules.length = 2 * expansion.plain.length
  apart : (rules.map Prod.fst).Nodup
  typed : ∀ (place : Nat) (plain shifted : Char), expansion.plain.toList[place]? = some plain →
    expansion.shifted.toList[place]? = some shifted →
      rules[2 * place]? = some (String.singleton plain, ⟨condition, expansion.typing plain⟩) ∧
        rules[2 * place + 1]? = some (Chord.modified expansion.modifier (String.singleton plain),
          ⟨condition, expansion.typing shifted⟩)

private theorem getElem?_flatMap_pair {α β : Type} (first second : α → β) (elements : List α)
    (place : Nat) :
    (elements.flatMap fun element => [first element, second element])[2 * place]? =
        elements[place]?.map first ∧
      (elements.flatMap fun element => [first element, second element])[2 * place + 1]? =
        elements[place]?.map second := by
  induction elements generalizing place with
  | nil => simp
  | cons element rest ih =>
      cases place with
      | zero => exact ⟨rfl, rfl⟩
      | succ place =>
          rw [List.flatMap_cons, Nat.mul_succ]
          exact ih place

private theorem typingRules_eq_flatMap (expansion : Expansion) (condition : Condition) :
    expansion.typingRules condition = expansion.keys.flatMap fun key =>
      [(String.singleton key.1, ⟨condition, expansion.typing key.1⟩),
        (Chord.modified expansion.modifier (String.singleton key.1),
          ⟨condition, expansion.typing key.2⟩)] := by
  rw [typingRules, List.map_flatMap]
  rfl

private theorem Valid.keyByKey (valid : expansion.Valid) (condition : Condition) :
    expansion.KeyByKey condition (expansion.typingRules condition) where
  length := valid.length_typingRules condition
  apart := valid.nodup_chords condition
  typed place plain shifted plainAt shiftedAt := by
    have key : expansion.keys[place]? = some (plain, shifted) :=
      List.getElem?_zip_eq_some.mpr ⟨plainAt, shiftedAt⟩
    rw [typingRules_eq_flatMap]
    refine ⟨(getElem?_flatMap_pair _ _ _ _).1.trans ?_, (getElem?_flatMap_pair _ _ _ _).2.trans ?_⟩
    all_goals rw [key, Option.map_some]

/-- The slots of a valid expansion, character by character. -/
theorem Valid.free_iff (valid : expansion.Valid) :
    (∀ rule ∈ expansion.typingRules condition, table.find? rule.1 condition.text = none) ↔
      ∀ c ∈ expansion.plain.toList, table.find? (String.singleton c) condition.text = none ∧
        table.find? (Chord.modified expansion.modifier (String.singleton c)) condition.text =
          none := by
  have chords : (∀ rule ∈ expansion.typingRules condition,
      table.find? rule.1 condition.text = none) ↔
      ∀ chord ∈ (expansion.typingRules condition).map Prod.fst,
        table.find? chord condition.text = none := by
    simp only [List.forall_mem_map]
  rw [chords, map_fst_typingRules, valid.map_fst_keys]
  simp only [List.forall_mem_flatMap, keyChords, List.forall_mem_cons, List.not_mem_nil,
    false_implies, implies_true, and_true]

/-! ## The outcome -/

/-- **What a typing expansion does to a table.** Let its condition be well formed. It goes into the
table if and only if it is valid and, for each of its characters, the slot of the key and the slot
of the key with the modifier are free; it then counts two rules for each character, and the table
has gained them. An expansion that is not valid is refused for its first flaw and leaves the table
as it is. A valid one that finds a slot taken stops at the first such rule, and the table has gained
those in front of it. The fault is a collision that names the chord and the condition, unless the
action in the slot has no title. -/
theorem apply_outcome (formed : expansion.condition.toCondition = .ok condition) (table : Table) :
    let applied := expansion.apply table
    let rules := expansion.typingRules condition
    (applied.fault = none ↔ expansion.Valid ∧ ∀ c ∈ expansion.plain.toList,
        table.find? (String.singleton c) condition.text = none ∧
          table.find? (Chord.modified expansion.modifier (String.singleton c)) condition.text =
            none) ∧
      (applied.fault = none → applied.state.2 = 2 * expansion.plain.length ∧
        applied.log.getLast? =
          some (expansion.generated (2 * expansion.plain.length) condition.text) ∧
        table.Gains rules applied.state.1) ∧
      (¬ expansion.Valid → ∃ fault, expansion.Flaw condition.text fault ∧
        applied = .stopped (table, 0) fault) ∧
      (expansion.Valid → expansion.KeyByKey condition rules ∧
        (applied.fault ≠ none → ∃ before rule after held fault, rules = before ++ rule :: after ∧
          (∀ other ∈ before, table.find? other.1 condition.text = none) ∧
          table.find? rule.1 condition.text = some held ∧ applied.fault = some fault ∧
          ((∃ holder newcomer, held.title = .ok holder ∧ rule.2.action.title = .ok newcomer ∧
              fault = .violation ⟨.expansionCollision, .alreadyBound holder newcomer,
                some rule.1, some condition.text⟩) ∨
            held.title = .error fault) ∧
          table.Gains before applied.state.1)) := by
  intro applied rules
  by_cases valid : expansion.Valid
  · rw [← valid.free_iff]
    rcases valid.apply_cases formed table with ⟨free, ended, log, state⟩ |
      ⟨before, rule, after, held, split, free, admits, found, stops, state⟩
    · refine ⟨iff_of_true ended ⟨valid, free⟩, fun _ => ⟨congrArg Prod.snd state, log, ?_⟩,
        fun invalid => absurd valid invalid, fun _ => ⟨valid.keyByKey condition, ?_⟩⟩
      · have whole : applied.state.1 = table.added rules := congrArg Prod.fst state
        rw [whole]
        exact (valid.admits free).toFits.gains
      · exact fun stopped => absurd ended stopped
    · have stopped : applied.fault ≠ none := by
        rw [stops]
        exact Option.some_ne_none _
      have member : rule ∈ expansion.typingRules condition := by
        rw [split]
        exact List.mem_append_right before List.mem_cons_self
      refine ⟨iff_of_false stopped fun both => ?_, fun ended => absurd ended stopped,
        fun invalid => absurd valid invalid, fun _ => ⟨valid.keyByKey condition, fun _ =>
          ⟨before, rule, after, held, _, split, free, found, stops, ?_, ?_⟩⟩⟩
      · cases found.symm.trans (both.2 rule member)
      · refine (Table.taken_cases .expansionCollision rule.1 condition.text held
          rule.2.action).imp_right ?_
        rintro ⟨untitled, among, failed⟩
        rcases List.mem_pair.mp among with rfl | rfl
        · exact failed
        · obtain ⟨title, titled⟩ := hasTitle_of_mem_typingRules member
          cases titled.symm.trans failed
      · have reached : applied.state.1 = table.added before := state
        rw [reached]
        exact admits.toFits.gains
  · obtain ⟨fault, flaw, refused⟩ := apply_of_not_valid formed valid table
    have stopped : applied.fault ≠ none := by
      simp only [applied, refused]
      exact Option.some_ne_none fault
    exact ⟨iff_of_false stopped fun fit => valid fit.1, fun ended => absurd ended stopped,
      fun _ => ⟨fault, flaw, refused⟩, fun fits => absurd fits valid⟩

/-- Two keys with a modifier that has no name. -/
def namelessModifier : Expansion where
  condition := .ofCondition (.atom "typing")
  command := "type"
  plain := "ab"
  shifted := "AB"
  modifier := ""

/-- A table that has taken the last slot of the two keys. -/
def lastTaken : Table :=
  Table.added ∅ [("a", ⟨.atom "search", .suppress⟩), ("+b", ⟨.atom "typing", .suppress⟩)]

/-- With a modifier that has no name the keys still have chords of their own, so all of the rules
but the last one go in. -/
theorem apply_outcome_lastTaken :
    namelessModifier.condition.toCondition = .ok (.atom "typing") ∧ namelessModifier.Valid ∧
      ∃ before rule after,
        namelessModifier.typingRules (.atom "typing") = before ++ rule :: after ∧
          lastTaken.find? rule.1 "typing" = some .suppress ∧
          (namelessModifier.apply lastTaken).fault = some (.violation ⟨.expansionCollision,
            .alreadyBound "suppress" "type", some rule.1, some "typing"⟩) ∧
          lastTaken.Gains before (namelessModifier.apply lastTaken).state.1 ∧
          (namelessModifier.apply lastTaken).state.1.slots =
            [("a", "search"), ("a", "typing"), ("+b", "typing"), ("+a", "typing"),
              ("b", "typing")] := by
  have formed : namelessModifier.condition.toCondition = .ok (.atom "typing") :=
    Draft.toCondition_ofCondition _
  have valid : namelessModifier.Valid := ⟨by decide, by decide, by decide⟩
  have collides : (namelessModifier.apply lastTaken).fault = some (.violation
      ⟨.expansionCollision, .alreadyBound "suppress" "type", some "+b", some "typing"⟩) := by
    decide +kernel
  have stopped : (namelessModifier.apply lastTaken).fault ≠ none := by
    rw [collides]
    exact Option.some_ne_none _
  obtain ⟨-, -, -, onValid⟩ := apply_outcome formed lastTaken
  obtain ⟨before, ⟨chord, rule⟩, after, held, fault, split, -, found, failed, named, gains⟩ :=
    (onValid valid).2 stopped
  obtain rfl := Option.some.inj (collides.symm.trans failed)
  rcases named with ⟨holder, newcomer, -, -, same⟩ | untitled
  · cases same
    exact ⟨formed, valid, before, _, after, split, rfl, collides, gains, by decide +kernel⟩
  · obtain ⟨_, _, -, -, -, same⟩ := Action.title_eq_error untitled
    cases same

/-- A table in which the chord of a key runs a macro over a command where a step should be. -/
def steplessTaken : Table :=
  Table.added ∅ [("a", ⟨.atom "typing", .sequence [.action (.run (.invoke "save" .null))]⟩)]

/-- **The action in a taken slot may have no title** that a collision could name. -/
theorem apply_steplessTaken :
    namelessModifier.condition.toCondition = .ok (.atom "typing") ∧ namelessModifier.Valid ∧
      (namelessModifier.apply steplessTaken).fault = some (.absentMember "Invoke" "to_dict") := by
  refine ⟨Draft.toCondition_ofCondition _, ⟨by decide, by decide, by decide⟩, ?_⟩
  rfl

end Expansion

end KeyChords
