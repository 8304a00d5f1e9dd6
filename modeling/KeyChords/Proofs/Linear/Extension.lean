import KeyChords.Proofs.Chord.Spelling
import KeyChords.Proofs.Linear.Ambiguity
import KeyChords.Proofs.Table.Registration

/-! # Rules that stand apart

Some rules can be added to a table without touching what the others compile to. Their chords are
single presses, so that no spelling of another chord meets them; their slots are free; and they run
commands with arguments, so that no removal is taken for one of them
(`KeyChords.Linear.StandApart`). A table with such rules is linearized exactly when it is without
them; the list then holds one record for each, and is the old list when these are deleted
(`KeyChords.Linear.linearize_added`).
-/

namespace KeyChords

open Table

namespace Linear

/-- **Rules stand apart from a table**: it admits them, their chords are single presses, and they
run commands with arguments. -/
structure StandApart (table : Table) (rules : List (String × Rule)) : Prop where
  admits : table.Admits rules
  single : ∀ rule ∈ rules, (Chord.presses rule.1).length ≤ 1
  supplied : ∀ rule ∈ rules, ∃ command args,
    rule.2.action.output = .ok (some (command, args)) ∧ argsText args ≠ ""

/-- The records of rules under their own chords. -/
def ownRecords (rules : List (String × Rule)) : List Record :=
  rules.flatMap fun rule => ruleRecords [rule.1] rule.2.binding

/-- Whether a record is none of those of the rules. -/
def kept (rules : List (String × Rule)) (identity : Identity) : Bool :=
  identity ∉ (ownRecords rules).map Entry.identity

variable {leaders : Leaders} {table : Table} {removals : Removals}
  {rules : List (String × Rule)}

private theorem mem_ownRecords {record : Record} :
    record ∈ ownRecords rules ↔ ∃ rule ∈ rules, ∃ command args,
      rule.2.action.output = .ok (some (command, args)) ∧
        record = ⟨rule.1, command, rule.2.when, args⟩ := by
  simp only [ownRecords, List.mem_flatMap, mem_ruleRecords, List.mem_singleton, exists_eq_left]
  exact Iff.rfl

namespace StandApart

/-- The rules of the larger table are the old ones and those that stand apart. -/
theorem binds_added_iff (apart : StandApart table rules) {chord : String} {held : Binding} :
    (table.added rules).Binds chord held ↔
      table.Binds chord held ∨ ∃ rule, (chord, rule) ∈ rules ∧ rule.binding = held :=
  apart.admits.toFits.mem_bindings_added

/-- A rule of the table whose chord is spelled like one that stands apart has another line. -/
theorem when_ne (apart : StandApart table rules) {rule : String × Rule} (member : rule ∈ rules)
    {chord spelling : String} {held : Binding} (bound : held ∈ table.bindings chord)
    (spelled : spelling ∈ leaders.spellings chord) (key : spelling = rule.1) :
    held.when ≠ rule.2.when := by
  rw [key] at spelled
  have same := (Leaders.mem_spellings_of_single (apart.single rule member)).mp spelled
  exact find?_eq_none_iff.mp (apart.admits.free rule member) held (same ▸ bound)

/-- No rule of the table claims the slot of a rule that stands apart. -/
theorem slot_ne (apart : StandApart table rules) {identity : Identity}
    (claims : Claims leaders table.Binds identity) {own : Record}
    (member : own ∈ ownRecords rules) :
    ¬ (identity.key = own.key ∧ identity.when = own.when) := by
  obtain ⟨rule, inside, command, args, -, rfl⟩ := mem_ownRecords.mp member
  rintro ⟨key, line⟩
  cases claims with
  | rendered bound spelled runs => exact apart.when_ne inside bound spelled key line
  | suppressed bound spelled silent => exact apart.when_ne inside bound spelled key line

/-- Two rules that stand apart have different slots. -/
theorem own_eq_of_slot (apart : StandApart table rules) {one other : Record}
    (oneMember : one ∈ ownRecords rules) (otherMember : other ∈ ownRecords rules)
    (key : one.key = other.key) (line : one.when = other.when) : one = other := by
  obtain ⟨rule, inside, command, args, runs, rfl⟩ := mem_ownRecords.mp oneMember
  obtain ⟨twin, twinInside, name, values, twinRuns, rfl⟩ := mem_ownRecords.mp otherMember
  obtain rfl : rule = twin :=
    List.inj_on_of_nodup_map apart.admits.apart inside twinInside (Prod.ext key line)
  cases runs.symm.trans twinRuns
  rfl

/-- A record that the table calls for is none of those that stand apart. -/
theorem identity_ne (apart : StandApart table rules) {record : Record}
    (called : Called leaders table removals record) {own : Record}
    (member : own ∈ ownRecords rules) : record.identity ≠ own.identity := by
  obtain ⟨rule, inside, command, args, runs, rfl⟩ := mem_ownRecords.mp member
  intro same
  simp only [Entry.identity, Identity.mk.injEq] at same
  obtain ⟨key, line, -, text⟩ := same
  cases called with
  | rule bound spelled _ => exact apart.when_ne inside bound spelled key line
  | removal lost spelled =>
      obtain ⟨name, values, others, filled⟩ := apart.supplied rule inside
      cases runs.symm.trans others
      exact filled text.symm

/-- The table with the further rules calls for the old records and theirs. -/
theorem called_added_iff (apart : StandApart table rules) {record : Record} :
    Called leaders (table.added rules) removals record ↔
      Called leaders table removals record ∨ record ∈ ownRecords rules := by
  constructor
  · intro called
    cases called with
    | @rule chord spelling command rule args bound spelled runs =>
        rcases apart.binds_added_iff.mp bound with old | ⟨rule, new, rfl⟩
        · exact Or.inl (.rule old spelled runs)
        · rw [Leaders.spellings_of_single (apart.single _ new), List.mem_singleton] at spelled
          exact Or.inr (mem_ownRecords.mpr ⟨_, new, command, args, runs, by rw [spelled]; rfl⟩)
    | removal lost spelled => exact Or.inl (.removal lost spelled)
  · rintro (called | own)
    · cases called with
      | rule bound spelled runs =>
          exact .rule (apart.binds_added_iff.mpr (Or.inl bound)) spelled runs
      | removal lost spelled => exact .removal lost spelled
    · obtain ⟨⟨chord, rule⟩, inside, command, args, runs, rfl⟩ := mem_ownRecords.mp own
      have bound : (table.added rules).Binds chord rule.binding :=
        apart.binds_added_iff.mpr (Or.inr ⟨rule, inside, rfl⟩)
      exact .rule bound List.mem_cons_self runs

private theorem claims_added_iff (apart : StandApart table rules) {identity : Identity} :
    Claims leaders (table.added rules).Binds identity ↔
      Claims leaders table.Binds identity ∨
        ∃ own ∈ ownRecords rules, identity = own.identity := by
  constructor
  · intro claims
    cases claims with
    | @rendered chord spelling command rule args bound spelled runs =>
        rcases apart.binds_added_iff.mp bound with old | ⟨rule, new, rfl⟩
        · exact Or.inl (.rendered old spelled runs)
        · rw [Leaders.spellings_of_single (apart.single _ new), List.mem_singleton] at spelled
          refine Or.inr ⟨_, mem_ownRecords.mpr ⟨_, new, command, args, runs, rfl⟩, ?_⟩
          rw [spelled]
          rfl
    | @suppressed chord spelling rule bound spelled silent =>
        rcases apart.binds_added_iff.mp bound with old | ⟨rule, new, rfl⟩
        · exact Or.inl (.suppressed old spelled silent)
        · obtain ⟨command, args, runs, -⟩ := apart.supplied _ new
          cases runs.symm.trans (Action.output_eq_none_iff.mpr silent)
  · rintro (claims | ⟨own, member, rfl⟩)
    · exact claims.imp fun _ _ bound => apart.binds_added_iff.mpr (Or.inl bound)
    · obtain ⟨⟨chord, rule⟩, inside, command, args, runs, rfl⟩ := mem_ownRecords.mp member
      have bound : (table.added rules).Binds chord rule.binding :=
        apart.binds_added_iff.mpr (Or.inr ⟨rule, inside, rfl⟩)
      exact .rendered bound List.mem_cons_self runs

/-- Rules that stand apart have outputs, so all rules have one when the old ones do. -/
theorem outputs_added_iff (apart : StandApart table rules) :
    (∀ chord rule, (table.added rules).Binds chord rule →
        ∃ output, rule.action.output = .ok output) ↔
      ∀ chord rule, table.Binds chord rule → ∃ output, rule.action.output = .ok output := by
  constructor
  · intro sound chord rule bound
    exact sound chord rule (apart.binds_added_iff.mpr (Or.inl bound))
  · intro sound chord rule bound
    rcases apart.binds_added_iff.mp bound with old | ⟨rule, new, rfl⟩
    · exact sound chord rule old
    · obtain ⟨command, args, runs, -⟩ := apart.supplied _ new
      exact ⟨_, runs⟩

/-- Rules that stand apart dispute no slot. -/
theorem disputed_added_iff (apart : StandApart table rules) {key line : String} :
    Disputed leaders (table.added rules).Binds key line ↔
      Disputed leaders table.Binds key line := by
  constructor
  · rintro ⟨first, second, firstClaims, secondClaims, rfl, rfl, sameKey, sameLine, differ⟩
    rcases apart.claims_added_iff.mp firstClaims with firstOld | ⟨own, member, rfl⟩
    · rcases apart.claims_added_iff.mp secondClaims with secondOld | ⟨own, member, rfl⟩
      · exact ⟨first, second, firstOld, secondOld, rfl, rfl, sameKey, sameLine, differ⟩
      · exact absurd ⟨sameKey.symm, sameLine.symm⟩ (apart.slot_ne firstOld member)
    · rcases apart.claims_added_iff.mp secondClaims with secondOld | ⟨other, otherMember, rfl⟩
      · exact absurd ⟨sameKey, sameLine⟩ (apart.slot_ne secondOld member)
      · refine absurd ?_ differ
        rw [apart.own_eq_of_slot member otherMember sameKey.symm sameLine.symm]
  · exact Disputed.imp fun _ _ bound => apart.binds_added_iff.mpr (Or.inl bound)

private theorem kept_of_called (apart : StandApart table rules) {record : Record}
    (called : Called leaders table removals record) : kept rules record.identity = true := by
  refine decide_eq_true fun present => ?_
  obtain ⟨own, member, same⟩ := List.mem_map.mp present
  exact apart.identity_ne called member same.symm

private theorem not_kept_of_mem {own : Record} (member : own ∈ ownRecords rules) :
    kept rules own.identity = false :=
  decide_eq_false (not_not.mpr (List.mem_map_of_mem member))

/-- Without the records that stand apart, the rules under a line list the old ones. -/
theorem filter_rulesUnder (apart : StandApart table rules) (chord line : String) :
    ((rulesUnder (table.added rules) chord line).flatMap
        (ruleRecords (leaders.spellings chord))).filter (fun record => kept rules record.identity) =
      (rulesUnder table chord line).flatMap (ruleRecords (leaders.spellings chord)) := by
  have old : ∀ record ∈ (rulesUnder table chord line).flatMap
      (ruleRecords (leaders.spellings chord)), kept rules record.identity = true := by
    intro record member
    obtain ⟨rule, under, listed⟩ := List.mem_flatMap.mp member
    obtain ⟨spelling, spelled, command, args, runs, rfl⟩ := mem_ruleRecords.mp listed
    have called : Called leaders table ∅ ⟨spelling, command, rule.when, args⟩ :=
      .rule (List.mem_filter.mp under).1 spelled runs
    exact apart.kept_of_called called
  have new : ∀ record ∈ ((given rules chord).filter fun rule => rule.when = line).flatMap
      (ruleRecords (leaders.spellings chord)), ¬ kept rules record.identity = true := by
    intro record member
    obtain ⟨rule, under, listed⟩ := List.mem_flatMap.mp member
    obtain ⟨spelling, spelled, command, args, runs, rfl⟩ := mem_ruleRecords.mp listed
    obtain ⟨held, inside, rfl⟩ := mem_given.mp (List.mem_filter.mp under).1
    rw [Leaders.spellings_of_single (apart.single _ inside), List.mem_singleton] at spelled
    have own : ⟨spelling, command, held.binding.when, args⟩ ∈ ownRecords rules :=
      mem_ownRecords.mpr ⟨_, inside, command, args, runs, by rw [spelled]; rfl⟩
    rw [not_kept_of_mem own]
    exact Bool.false_ne_true
  rw [rulesUnder, apart.admits.toFits.bindings_added, List.filter_append, List.flatMap_append,
    List.filter_append, ← rulesUnder, List.filter_eq_self.mpr old,
    List.filter_eq_nil_iff.mpr new, List.append_nil]

/-- Without the records that stand apart, a chord of the larger table lists the old ones. -/
theorem filter_chordRecords (apart : StandApart table rules) (chord : String) :
    (chordRecords leaders (table.added rules) removals chord).filter
        (fun record => kept rules record.identity) =
      chordRecords leaders table removals chord := by
  have removed : ∀ record ∈ (removals.commands chord).flatMap
      (removalRecords (leaders.spellings chord)), kept rules record.identity = true := by
    intro record member
    obtain ⟨command, lost, listed⟩ := List.mem_flatMap.mp member
    obtain ⟨spelling, spelled, rfl⟩ := List.mem_map.mp listed
    have called : Called leaders table removals
        ⟨spelling, Removals.retraction command, "", .null⟩ := .removal lost spelled
    exact apart.kept_of_called called
  simp only [chordRecords]
  rw [List.filter_append, List.filter_eq_self.mpr removed, List.filter_flatMap]
  refine congrArg (· ++ _) ?_
  simp only [apart.filter_rulesUnder]
  refine flatMap_ascending_of_subset ?_ ?_
  · intro line member
    rw [apart.admits.toFits.bindings_added, List.map_append]
    exact List.mem_append_left _ member
  · intro line absent
    have none : rulesUnder table chord line = [] := by
      refine List.filter_eq_nil_iff.mpr fun rule bound => ?_
      rw [decide_eq_true_eq]
      rintro rfl
      exact absent (List.mem_map_of_mem bound)
    rw [none, List.flatMap_nil]

/-- **Without the records that stand apart, the larger table calls for the old list.** -/
theorem filter_reference (apart : StandApart table rules) :
    (reference leaders (table.added rules) removals).filter
        (fun record => kept rules record.identity) =
      reference leaders table removals := by
  rw [reference, List.filter_flatMap, reference]
  simp only [apart.filter_chordRecords]
  refine flatMap_ascending_of_subset ?_ ?_
  · intro chord member
    rcases List.mem_append.mp member with bound | lost
    · exact List.mem_append_left _ (mem_chords_added.mpr (Or.inl bound))
    · exact List.mem_append_right _ lost
  · intro chord absent
    have unbound : table.bindings chord = [] :=
      List.eq_nil_iff_forall_not_mem.mpr fun rule bound =>
        absent (List.mem_append_left _ (mem_chords_of_mem_bindings bound))
    have unremoved : removals.commands chord = [] :=
      List.eq_nil_iff_forall_not_mem.mpr fun command lost =>
        absent (List.mem_append_right _ (mem_chords_of_mem_commands lost))
    simp [chordRecords, rulesUnder, unbound, unremoved]

/-- Each record that stands apart is listed, once it is the first of its identity, on its own. -/
theorem filter_firstsBy_reference (apart : StandApart table rules) {own : Record}
    (member : own ∈ ownRecords rules) :
    (firstsBy Entry.identity (reference leaders (table.added rules) removals)).filter
        (fun record => record.identity = own.identity) = [own] := by
  rw [firstsBy_filter Entry.identity fun identity => identity = own.identity]
  have present : Called leaders (table.added rules) removals own :=
    apart.called_added_iff.mpr (Or.inr member)
  refine firstsBy_eq_singleton ?_ ?_
  · intro record listed
    obtain ⟨called, same⟩ := List.mem_filter.mp listed
    have alike : record.identity = own.identity := of_decide_eq_true same
    rcases apart.called_added_iff.mp ((mem_reference leaders _ removals).mp called) with
      old | new
    · exact absurd alike (apart.identity_ne old member)
    · exact apart.own_eq_of_slot new member (congrArg Identity.key alike)
        (congrArg Identity.when alike)
  · exact List.mem_filter.mpr ⟨(mem_reference leaders _ removals).mpr present,
      decide_eq_true rfl⟩

end StandApart

/-- **Rules that stand apart extend a table conservatively.** The table is linearized with them
exactly when it is without them. The list then holds each of their records once, and is the list
without them when these are deleted. -/
theorem linearize_added (apart : StandApart table rules) (removals : Removals) (leaders : Leaders) :
    ((∃ records, ((table.added rules).linearize removals leaders).result = .ok records) ↔
        ∃ others, (table.linearize removals leaders).result = .ok others) ∧
      ∀ records, ((table.added rules).linearize removals leaders).result = .ok records →
        (∀ own ∈ ownRecords rules,
          records.filter (fun record => record.identity = own.identity) = [own]) ∧
        (table.linearize removals leaders).result =
          .ok (records.filter fun record => kept rules record.identity) := by
  have together :
      (∃ records, ((table.added rules).linearize removals leaders).result = .ok records) ↔
        ∃ others, (table.linearize removals leaders).result = .ok others := by
    simp only [exists_linearize_iff, apart.outputs_added_iff, apart.disputed_added_iff]
  refine ⟨together, fun records linearized => ?_⟩
  obtain ⟨others, without⟩ := together.mp ⟨records, linearized⟩
  rw [without, records_of_linearize without, records_of_linearize linearized]
  refine ⟨fun own member => apart.filter_firstsBy_reference member, ?_⟩
  rw [firstsBy_filter, apart.filter_reference]

end Linear

end KeyChords
