import Mathlib.Data.List.TakeWhile
import KeyChords.Proofs.Linear.Reference

/-! # What rules claim

Every rule claims its slot under each spelling of its chord, for the record it renders to; a
suppressed rule claims it for no record at all (`KeyChords.Linear.Claims`). A rule whose action has
no output claims nothing and is a fault of its own. These are the only checks of a linearization,
and they are made in the order in which the rules are placed (`KeyChords.Linear.checks_moves`).
-/

namespace KeyChords

/-! ## Outputs -/

namespace Action

variable {action : Action}

/-- What runs something puts its command into records, if the arguments can be written. -/
theorem output_of_ne_suppress (loud : action ≠ .suppress) :
    action.output = action.render >>= fun command =>
      command.2.requireWritable >>= fun _ => .ok (some command) := by
  cases action with
  | suppress => exact absurd rfl loud
  | run command => rfl
  | sequence elements => rfl

/-- Only the suppression of a chord puts nothing into records. -/
theorem output_eq_none_iff : action.output = .ok none ↔ action = .suppress := by
  constructor
  · intro silent
    by_contra loud
    rw [output_of_ne_suppress loud] at silent
    obtain ⟨_, -, checked⟩ := exists_of_bind_eq_ok silent
    obtain ⟨_, -, same⟩ := exists_of_bind_eq_ok checked
    cases same
  · rintro rfl
    rfl

/-- The arguments that an action puts into records can be written. -/
theorem isWritable_of_output {command : String} {args : Json.Value}
    (runs : action.output = .ok (some (command, args))) : args.isWritable = true := by
  have loud : action ≠ .suppress := by
    rintro rfl
    cases runs
  rw [output_of_ne_suppress loud] at runs
  obtain ⟨rendering, -, checked⟩ := exists_of_bind_eq_ok runs
  obtain ⟨_, writable, same⟩ := exists_of_bind_eq_ok checked
  cases same
  exact Json.Datum.requireWritable_eq_ok_iff.mp writable

/-- **Why an action has no output**: one of its elements is no step, or an integer in its arguments
is too long. -/
theorem output_eq_error {fault : Fault} (fails : action.output = .error fault) :
    action.title = .error fault ∨ fault = .integerLength := by
  have loud : action ≠ .suppress := by
    rintro rfl
    cases fails
  rw [output_of_ne_suppress loud] at fails
  rcases error_of_bind_eq_error fails with refused | ⟨command, -, checked⟩
  · left
    cases action with
    | suppress => exact absurd rfl loud
    | run command => cases refused
    | sequence elements =>
        change Prod.fst <$> (sequence elements).render = _
        rw [refused]
        rfl
  · rcases error_of_bind_eq_error checked with refused | ⟨_, -, ended⟩
    · exact Or.inr (Json.Datum.requireWritable_eq_error_iff.mp refused).2
    · cases ended

/-- The fault of an action is no violation. -/
theorem output_ne_violation (violation : Violation) :
    action.output ≠ .error (.violation violation) := by
  intro fails
  rcases output_eq_error fails with untitled | long
  · obtain ⟨_, _, -, -, -, same⟩ := title_eq_error untitled
    cases same
  · cases long

end Action

/-- The arguments of compiled records can be written. -/
theorem Keymap.isWritable_of_mem {keymap : Keymap} {leaders : Leaders} {records : List Record}
    (compiled : (keymap.compile leaders).result = .ok records) {record : Record}
    (member : record ∈ records) : record.args.isWritable = true := by
  obtain ⟨table, expanded, -⟩ := expanded_of_compile compiled
  cases called_of_mem expanded compiled member with
  | rule bound spelled runs => exact Action.isWritable_of_output runs
  | removal lost spelled => rfl

/-- A table binds a chord by a rule. -/
def Table.Binds (table : Table) (chord : String) (rule : Binding) : Prop :=
  rule ∈ table.bindings chord

namespace Linear

/-! ## Claims -/

/-- **The claims of rules**, each of which stands under its chord. -/
inductive Claims (leaders : Leaders) (among : String → Binding → Prop) : Identity → Prop
  /-- A rule claims its slot for its record under each spelling of its chord. -/
  | rendered {chord spelling command : String} {rule : Binding} {args : Json.Value}
      (bound : among chord rule) (spelled : spelling ∈ leaders.spellings chord)
      (runs : rule.action.output = .ok (some (command, args))) :
      Claims leaders among ⟨spelling, rule.when, command, argsText args⟩
  /-- A suppressed rule claims its slot as well. -/
  | suppressed {chord spelling : String} {rule : Binding}
      (bound : among chord rule) (spelled : spelling ∈ leaders.spellings chord)
      (silent : rule.action = .suppress) :
      Claims leaders among ⟨spelling, rule.when, suppressedCommand, ""⟩

/-- A slot is disputed when it is claimed for two different records. -/
def Disputed (leaders : Leaders) (among : String → Binding → Prop) (key line : String) : Prop :=
  ∃ first second, Claims leaders among first ∧ Claims leaders among second ∧
    first.key = key ∧ first.when = line ∧ second.key = key ∧ second.when = line ∧ first ≠ second

/-- The rules of a list, each with its chord. -/
def Among (rules : List (String × Binding)) (chord : String) (rule : Binding) : Prop :=
  (chord, rule) ∈ rules

variable {leaders : Leaders} {table : Table} {removals : Removals}
  {rules : List (String × Binding)} {among others : String → Binding → Prop}

/-- A claim among some rules is one among more. -/
theorem Claims.imp (inside : ∀ chord rule, among chord rule → others chord rule)
    {identity : Identity} (claims : Claims leaders among identity) :
    Claims leaders others identity := by
  cases claims with
  | rendered bound spelled runs => exact .rendered (inside _ _ bound) spelled runs
  | suppressed bound spelled silent => exact .suppressed (inside _ _ bound) spelled silent

/-- A dispute among some rules is one among more. -/
theorem Disputed.imp (inside : ∀ chord rule, among chord rule → others chord rule)
    {key line : String} (disputed : Disputed leaders among key line) :
    Disputed leaders others key line := by
  obtain ⟨first, second, firstClaims, secondClaims, rest⟩ := disputed
  exact ⟨first, second, firstClaims.imp inside, secondClaims.imp inside, rest⟩

/-! ## Rules in the order of compilation -/

/-- The rules of a table with their chords, in the order in which they are compiled. -/
def placed (table : Table) : List (String × Binding) :=
  (ascending table.chords).flatMap fun chord => (sortedBindings table chord).map (chord, ·)

/-- **The rules that are reached**: those in front of the first one without an output. -/
def reached (table : Table) : List (String × Binding) :=
  (placed table).takeWhile fun rule => rule.2.action.output.isOk

/-- The checks that a rule makes. -/
def ruleChecks (leaders : Leaders) (rule : String × Binding) : List Move :=
  checks (bindingMoves rule.1 (leaders.spellings rule.1) rule.2)

/-- The placed rules are those that the table binds. -/
theorem mem_placed {chord : String} {rule : Binding} :
    (chord, rule) ∈ placed table ↔ table.Binds chord rule := by
  simp only [placed, List.mem_flatMap, mem_ascending, List.mem_map, mem_sortedBindings,
    Prod.mk.injEq]
  constructor
  · rintro ⟨_, -, _, bound, rfl, rfl⟩
    exact bound
  · exact fun bound => ⟨chord, mem_chords_of_mem_bindings bound, rule, bound, rfl, rfl⟩

private theorem exists_output_of_isOk {action : Action} (puts : action.output.isOk = true) :
    ∃ output, action.output = .ok output := by
  cases outcome : action.output with
  | ok output => exact ⟨output, rfl⟩
  | error fault =>
      rw [outcome] at puts
      cases puts

/-- Every rule that is reached has an output. -/
theorem exists_output_of_mem_reached {rule : String × Binding} (member : rule ∈ reached table) :
    ∃ output, rule.2.action.output = .ok output := by
  have puts := List.mem_takeWhile_imp member
  exact exists_output_of_isOk puts

/-- Every rule that is reached is bound. -/
theorem binds_of_mem_reached {chord : String} {rule : Binding}
    (member : (chord, rule) ∈ reached table) : table.Binds chord rule :=
  mem_placed.mp (List.takeWhile_prefix _ |>.subset member)

/-- **Either all rules are reached, or there is a first one without an output.** -/
theorem reached_cases (table : Table) :
    (reached table = placed table ∧
        ∀ chord rule, table.Binds chord rule → ∃ output, rule.action.output = .ok output) ∨
      ∃ chord rule after fault, placed table = reached table ++ (chord, rule) :: after ∧
        rule.action.output = .error fault := by
  have split : reached table ++ _ = placed table := List.takeWhile_append_dropWhile
  cases rest : (placed table).dropWhile fun rule => rule.2.action.output.isOk with
  | nil =>
      rw [rest, List.append_nil] at split
      refine Or.inl ⟨split, fun chord rule bound => ?_⟩
      rw [← mem_placed, ← split] at bound
      exact exists_output_of_mem_reached bound
  | cons first after =>
      rw [rest] at split
      have refused := List.head_dropWhile_not
        (fun rule : String × Binding => rule.2.action.output.isOk)
        (rest.trans_ne (List.cons_ne_nil first after))
      simp only [rest, List.head_cons] at refused
      cases outcome : first.2.action.output with
      | ok output => simp [outcome, Except.isOk, Except.toBool] at refused
      | error fault => exact Or.inr ⟨first.1, first.2, after, fault, split.symm, outcome⟩

/-- When every rule has an output, all of them are reached. -/
theorem reached_eq_placed
    (sound : ∀ chord rule, table.Binds chord rule → ∃ output, rule.action.output = .ok output) :
    reached table = placed table := by
  rcases reached_cases table with ⟨all, -⟩ | ⟨chord, rule, after, fault, split, fails⟩
  · exact all
  · have bound : table.Binds chord rule := by
      rw [← mem_placed, split]
      exact List.mem_append_right _ List.mem_cons_self
    obtain ⟨output, puts⟩ := sound chord rule bound
    cases puts.symm.trans fails

/-! ## The checks of a linearization -/

private theorem mem_claimed {moves : List Move} {claim : Claim} :
    claim ∈ claimed moves ↔ .claim claim.source claim.identity ∈ moves := by
  rw [claimed, List.mem_filterMap]
  constructor
  · rintro ⟨move, member, made⟩
    cases move with
    | claim source identity =>
        rw [Move.claim?, Option.some.injEq] at made
        exact made ▸ member
    | _ => simp [Move.claim?] at made
  · exact fun member => ⟨_, member, rfl⟩

/-- A rule without an output fails its check, and is checked for nothing else. -/
theorem ruleChecks_of_error {chord : String} {rule : Binding} {fault : Fault}
    (fails : rule.action.output = .error fault) :
    ruleChecks leaders (chord, rule) = [.fail fault] := by
  simp [ruleChecks, bindingMoves, fails, checks, Move.isCheck]

/-- A check that fails tells why the rule has no output. -/
theorem output_of_fail_mem {rule : String × Binding} {fault : Fault}
    (member : .fail fault ∈ ruleChecks leaders rule) : rule.2.action.output = .error fault := by
  have made := (List.mem_filter.mp member).1
  rw [bindingMoves] at made
  cases outcome : rule.2.action.output with
  | error inner =>
      rw [outcome] at made
      rw [Move.fail.inj (List.mem_singleton.mp made)]
  | ok output => cases output <;> simp [outcome] at made

private theorem claim_mem_ruleChecks {rule : String × Binding} {source : String}
    {identity : Identity} :
    .claim source identity ∈ ruleChecks leaders rule ↔
      source = rule.1 ∧ ∃ spelling ∈ leaders.spellings rule.1,
        (rule.2.action = .suppress ∧ identity = ⟨spelling, rule.2.when, suppressedCommand, ""⟩) ∨
        ∃ command args, rule.2.action.output = .ok (some (command, args)) ∧
          identity = ⟨spelling, rule.2.when, command, argsText args⟩ := by
  have kept : (Move.claim source identity).isCheck = true := rfl
  rw [ruleChecks, checks, List.mem_filter, and_iff_left kept, ← Action.output_eq_none_iff,
    bindingMoves]
  cases rule.2.action.output with
  | error fault => simp
  | ok output =>
      cases output with
      | none =>
          simp only [List.mem_append, List.mem_map, List.mem_singleton, Move.claim.injEq,
            reduceCtorEq, or_false, Except.ok.injEq, true_and, false_and, exists_false]
          constructor
          · rintro ⟨spelling, member, rfl, rfl⟩
            exact ⟨rfl, spelling, member, rfl⟩
          · rintro ⟨rfl, spelling, member, rfl⟩
            exact ⟨spelling, member, rfl, rfl⟩
      | some command =>
          obtain ⟨name, args⟩ := command
          simp only [List.mem_flatMap, List.mem_cons, Move.claim.injEq, reduceCtorEq,
            List.not_mem_nil, or_false, Except.ok.injEq, false_and, false_or, Option.some.injEq,
            Prod.mk.injEq]
          constructor
          · rintro ⟨spelling, member, rfl, rfl⟩
            exact ⟨rfl, spelling, member, name, args, ⟨rfl, rfl⟩, rfl⟩
          · rintro ⟨rfl, spelling, member, _, _, ⟨rfl, rfl⟩, rfl⟩
            exact ⟨spelling, member, rfl, rfl⟩

/-- **The checks of rules make their claims.** -/
theorem exists_claimed_iff {identity : Identity} :
    (∃ source, ⟨source, identity⟩ ∈ claimed (rules.flatMap (ruleChecks leaders))) ↔
      Claims leaders (Among rules) identity := by
  simp only [mem_claimed, List.mem_flatMap, claim_mem_ruleChecks]
  constructor
  · rintro ⟨source, rule, bound, rfl, spelling, spelled, claim⟩
    rcases claim with ⟨silent, rfl⟩ | ⟨command, args, runs, rfl⟩
    · exact .suppressed bound spelled silent
    · exact .rendered bound spelled runs
  · intro claim
    cases claim with
    | rendered bound spelled runs =>
        exact ⟨_, _, bound, rfl, _, spelled, Or.inr ⟨_, _, runs, rfl⟩⟩
    | suppressed bound spelled silent =>
        exact ⟨_, _, bound, rfl, _, spelled, Or.inl ⟨silent, rfl⟩⟩

private theorem checks_append (moves others : List Move) :
    checks (moves ++ others) = checks moves ++ checks others :=
  List.filter_append moves others

private theorem checks_chordMoves (chord : String) :
    checks (chordMoves leaders table removals chord) =
      ((sortedBindings table chord).map (chord, ·)).flatMap (ruleChecks leaders) := by
  have told : checks ((leaders.spellingEvents chord).map .tell) = [] := by
    simp [checks, List.filter_map, Function.comp_def, Move.isCheck]
  have removed : checks ((removals.commands chord).flatMap
      (removalMoves (leaders.spellings chord))) = [] := by
    simp [checks, removalMoves, List.filter_flatMap, List.filter_map, Function.comp_def,
      Move.isCheck]
  rw [chordMoves, checks_append, checks_append, told, removed, List.nil_append, List.append_nil,
    checks, List.filter_flatMap, List.flatMap_map]
  rfl

/-- **The checks of a linearization** are those of its rules. Removals make none, not even where
they bring in chords of their own. -/
theorem checks_moves (leaders : Leaders) (table : Table) (removals : Removals) :
    checks (moves leaders table removals) = (placed table).flatMap (ruleChecks leaders) := by
  rw [moves, checks, List.filter_flatMap, sortedChords_eq_ascending, placed, List.flatMap_assoc]
  refine Eq.trans (List.flatMap_congr fun chord _ => checks_chordMoves chord) ?_
  refine flatMap_ascending_of_subset (fun chord bound => List.mem_append_left _ bound) ?_
  intro chord absent
  have unbound : sortedBindings table chord = [] :=
    List.eq_nil_iff_forall_not_mem.mpr fun rule member =>
      absent (mem_chords_of_mem_bindings (mem_sortedBindings.mp member))
  rw [unbound]
  rfl

end Linear

end KeyChords
