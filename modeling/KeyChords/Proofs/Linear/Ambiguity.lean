import KeyChords.Proofs.Linear.Claims

/-! # Ambiguous keymaps

Claims are made one after the other and compared only with the first one on their slot, but what is
refused does not depend on that order: a keymap is ambiguous exactly when some slot is claimed for
two different records. A rule whose action has no output ends the compilation where it stands. So it
is the rules in front of the first such rule that decide whether a keymap is refused as ambiguous
(`KeyChords.Keymap.compile_duplicate_iff_disputed`).
-/

namespace KeyChords

namespace Linear

variable {leaders : Leaders} {table : Table} {removals : Removals}
  {rules : List (String × Binding)}

/-- **A run over the checks of rules with outputs** ends when they dispute no slot, and otherwise is
refused on a disputed slot. -/
theorem run_ruleChecks_cases
    (sound : ∀ rule ∈ rules, ∃ output, rule.2.action.output = .ok output) :
    ((Progress.each State.step {} (rules.flatMap (ruleChecks leaders))).fault = none ∧
        ∀ key line, ¬ Disputed leaders (Among rules) key line) ∨
      ∃ broken key line,
        (Progress.each State.step {} (rules.flatMap (ruleChecks leaders))).fault =
          some (.violation broken) ∧
        broken.kind = .duplicate ∧ broken.chord = some key ∧ broken.condition = some line ∧
        Disputed leaders (Among rules) key line := by
  cases outcome : (Progress.each State.step {} (rules.flatMap (ruleChecks leaders))).fault with
  | none =>
      have tracks := tracks_of_ended outcome
      refine Or.inl ⟨rfl, ?_⟩
      rintro key line
        ⟨first, second, firstClaims, secondClaims, rfl, rfl, sameKey, sameLine, differ⟩
      obtain ⟨source, firstMade⟩ := exists_claimed_iff.mpr firstClaims
      obtain ⟨other, secondMade⟩ := exists_claimed_iff.mpr secondClaims
      exact tracks.not_rivals firstMade secondMade ⟨sameKey.symm, sameLine.symm, differ⟩
  | some fault =>
      rcases rivals_of_stopped outcome with
        ⟨held, heldMade, claim, claimMade, ⟨key, line, differ⟩, rfl⟩ | failed
      · exact Or.inr ⟨_, claim.identity.key, claim.identity.when, rfl, rfl, rfl, rfl,
          held.identity, claim.identity, exists_claimed_iff.mp ⟨_, heldMade⟩,
          exists_claimed_iff.mp ⟨_, claimMade⟩, key, line, rfl, rfl, differ⟩
      · obtain ⟨rule, member, fails⟩ := List.mem_flatMap.mp failed
        obtain ⟨output, puts⟩ := sound rule member
        cases puts.symm.trans (output_of_fail_mem fails)

/-- **What a linearization comes to.** Either all rules are reached and dispute no slot, and it
returns the records that are called for; or the rules that are reached dispute the slot on which it
is refused; or they dispute none, and it ends with the fault of the first rule without an output. -/
theorem linearize_cases (leaders : Leaders) (table : Table) (removals : Removals) :
    ((table.linearize removals leaders).result =
          .ok (firstsBy Entry.identity (reference leaders table removals)) ∧
        reached table = placed table ∧
        ∀ key line, ¬ Disputed leaders (Among (reached table)) key line) ∨
      (∃ broken key line, (table.linearize removals leaders).result = .error (.violation broken) ∧
        broken.kind = .duplicate ∧ broken.chord = some key ∧ broken.condition = some line ∧
        Disputed leaders (Among (reached table)) key line) ∨
      ∃ chord rule after fault, placed table = reached table ++ (chord, rule) :: after ∧
        rule.action.output = .error fault ∧
        (table.linearize removals leaders).result = .error fault ∧
        ∀ key line, ¬ Disputed leaders (Among (reached table)) key line := by
  have decided : (Progress.each State.step {} (moves leaders table removals)).fault =
      (Progress.each State.step {} ((placed table).flatMap (ruleChecks leaders))).fault := by
    rw [fault_each_checks rfl, checks_moves]
  rw [Table.linearize_result, decided]
  rcases @run_ruleChecks_cases leaders _ (fun _ => exists_output_of_mem_reached)
    with ⟨ended, peaceful⟩ | ⟨broken, key, line, refused, kind, chord, condition, disputed⟩
  · rcases reached_cases table with ⟨all, -⟩ | ⟨chord, rule, after, fault, split, fails⟩
    · rw [all] at ended
      have whole := decided.trans ended
      rw [ended]
      refine Or.inl ⟨?_, all, peaceful⟩
      rw [(tracks_of_ended whole).keeps.firsts, emitted_moves]
    · have stopped : (Progress.each State.step {}
          ((placed table).flatMap (ruleChecks leaders))).fault = some fault := by
        rw [split, List.flatMap_append, Progress.each_append_of_none ended, List.flatMap_cons,
          ruleChecks_of_error fails]
        rfl
      rw [stopped]
      exact Or.inr (Or.inr ⟨chord, rule, after, fault, split, fails, rfl, peaceful⟩)
  · have stopped : (Progress.each State.step {}
        ((placed table).flatMap (ruleChecks leaders))).fault = some (.violation broken) := by
      obtain ⟨rest, split⟩ : reached table <+: placed table := List.takeWhile_prefix _
      rw [← split, List.flatMap_append]
      exact Progress.each_append_of_some refused _
    rw [stopped]
    exact Or.inr (Or.inl ⟨broken, key, line, rfl, kind, chord, condition, disputed⟩)

/-- **When a table can be linearized**: every rule has an output and no slot is disputed. -/
theorem exists_linearize_iff :
    (∃ records, (table.linearize removals leaders).result = .ok records) ↔
      (∀ chord rule, table.Binds chord rule → ∃ output, rule.action.output = .ok output) ∧
        ∀ key line, ¬ Disputed leaders table.Binds key line := by
  have all {key line : String} (sound : reached table = placed table) :
      Disputed leaders (Among (reached table)) key line ↔
        Disputed leaders table.Binds key line := by
    rw [sound]
    exact ⟨Disputed.imp fun _ _ => mem_placed.mp, Disputed.imp fun _ _ => mem_placed.mpr⟩
  rcases linearize_cases leaders table removals with ⟨succeeded, sound, peaceful⟩ |
    ⟨broken, key, line, failed, -, -, -, disputed⟩ | ⟨chord, rule, after, fault, split, fails,
      failed, -⟩
  · refine iff_of_true ⟨_, succeeded⟩ ⟨fun chord rule bound => ?_, fun key line => ?_⟩
    · rw [← mem_placed, ← sound] at bound
      exact exists_output_of_mem_reached bound
    · rw [← all sound]
      exact peaceful key line
  · refine iff_of_false ?_ fun both => ?_
    · rintro ⟨records, linearized⟩
      cases linearized.symm.trans failed
    · exact both.2 key line (disputed.imp fun _ _ => binds_of_mem_reached)
  · refine iff_of_false ?_ fun both => ?_
    · rintro ⟨records, linearized⟩
      cases linearized.symm.trans failed
    · have bound : table.Binds chord rule := by
        rw [← mem_placed, split]
        exact List.mem_append_right _ List.mem_cons_self
      obtain ⟨output, puts⟩ := both.1 chord rule bound
      cases puts.symm.trans fails

/-- **Why a table cannot be linearized**: it is ambiguous, or a rule has no output. -/
theorem linearize_error_cases {fault : Fault}
    (failed : (table.linearize removals leaders).result = .error fault) :
    (∃ broken, fault = .violation broken ∧ broken.kind = .duplicate) ∨
      ∃ chord rule, table.Binds chord rule ∧ rule.action.output = .error fault := by
  rcases linearize_cases leaders table removals with ⟨succeeded, -⟩ |
    ⟨broken, _, _, refused, kind, -⟩ | ⟨chord, rule, after, inner, split, fails, stopped, -⟩
  · cases failed.symm.trans succeeded
  · exact Or.inl ⟨broken, Except.error.inj (failed.symm.trans refused), kind⟩
  · obtain rfl : fault = inner := Except.error.inj (failed.symm.trans stopped)
    refine Or.inr ⟨chord, rule, ?_, fails⟩
    rw [← mem_placed, split]
    exact List.mem_append_right _ List.mem_cons_self

end Linear

open Linear in
/-- **When a keymap is refused as ambiguous.** Let the typing expansion of a keymap succeed.
Compiling it fails as a duplicate if and only if the rules that are reached claim some slot for two
different records, and the violation names such a slot. If they do not, the keymap compiles when all
rules are reached, and otherwise fails with the fault of the first rule without an output. All rules
are reached when each has an output. -/
theorem Keymap.compile_duplicate_iff_disputed {keymap : Keymap} {leaders : Leaders} {table : Table}
    (expanded : keymap.expanded.result = .ok table) :
    ((∃ broken, (keymap.compile leaders).result = .error (.violation broken) ∧
        broken.kind = .duplicate) ↔
      ∃ key line, Disputed leaders (Among (reached table)) key line) ∧
    (∀ broken, (keymap.compile leaders).result = .error (.violation broken) →
      ∃ key line, broken.kind = .duplicate ∧ broken.chord = some key ∧
        broken.condition = some line ∧ Disputed leaders (Among (reached table)) key line) ∧
    ((¬ ∃ key line, Disputed leaders (Among (reached table)) key line) →
      (reached table = placed table ∧ ∃ records, (keymap.compile leaders).result = .ok records) ∨
        ∃ chord rule after fault, placed table = reached table ++ (chord, rule) :: after ∧
          rule.action.output = .error fault ∧
          (keymap.compile leaders).result = .error fault) ∧
    (∀ chord rule, Among (placed table) chord rule ↔ table.Binds chord rule) ∧
    ((∀ chord rule, table.Binds chord rule → ∃ output, rule.action.output = .ok output) →
      reached table = placed table) := by
  rw [compile_of_expanded expanded]
  rcases linearize_cases leaders table keymap.removals with ⟨succeeded, sound, peaceful⟩ |
    ⟨broken, key, line, failed, kind, chord, condition, disputed⟩ |
    ⟨chord, rule, after, fault, split, fails, failed, peaceful⟩
  · rw [succeeded]
    refine ⟨iff_of_false nofun fun ⟨key, line, disputed⟩ => peaceful key line disputed, nofun,
      fun _ => Or.inl ⟨sound, _, rfl⟩, fun _ _ => mem_placed, reached_eq_placed⟩
  · rw [failed]
    refine ⟨iff_of_true ⟨broken, rfl, kind⟩ ⟨key, line, disputed⟩, ?_,
      fun peaceful => absurd ⟨key, line, disputed⟩ peaceful, fun _ _ => mem_placed,
      reached_eq_placed⟩
    rintro _ ⟨⟩
    exact ⟨key, line, kind, chord, condition, disputed⟩
  · have other (broken : Violation) : fault ≠ .violation broken := by
      rintro rfl
      exact Action.output_ne_violation broken fails
    rw [failed]
    refine ⟨iff_of_false ?_ fun ⟨key, line, disputed⟩ => peaceful key line disputed, ?_,
      fun _ => Or.inr ⟨chord, rule, after, fault, split, fails, rfl⟩, fun _ _ => mem_placed,
      reached_eq_placed⟩
    · rintro ⟨broken, same, -⟩
      exact other broken (Except.error.inj same)
    · intro broken same
      exact absurd (Except.error.inj same) (other broken)

namespace Keymap

/-- A leader with two modifiers, so that chords which hold none or one of them meet in the spelling
that holds both. -/
def doubleLeader : Leaders :=
  ⟨["ctrl+alt+x"], by decide, by decide +kernel⟩

/-- Two rules that differ, under chords whose only common spelling is neither of them. -/
def meetingRules : List (String × Rule) :=
  [("ctrl+alt+x s", ⟨.always, .run (.invoke "save" .null)⟩),
    ("ctrl+alt+x alt+s", ⟨.always, .run (.invoke "saveAll" .null)⟩)]

/-- The keymap with the two rules. -/
def meeting : Keymap where
  table := Table.added ∅ meetingRules

private theorem binds_meeting_iff {chord : String} {rule : Binding} :
    meeting.table.Binds chord rule ↔
      ∃ held, (chord, held) ∈ meetingRules ∧ held.binding = rule := by
  have fits : Table.Fits ∅ meetingRules := ⟨fun _ _ => rfl, by decide⟩
  refine fits.mem_bindings_added.trans (or_iff_right ?_)
  exact List.not_mem_nil

open Linear in
theorem compile_meeting_disputed :
    meeting.expanded.result = .ok meeting.table ∧
      Disputed doubleLeader (Among (reached meeting.table)) "ctrl+alt+x ctrl+alt+s" "" ∧
      ∃ broken, (meeting.compile doubleLeader).result = .error (.violation broken) ∧
        broken.kind = .duplicate := by
  have expanded : meeting.expanded.result = .ok meeting.table := rfl
  obtain ⟨ambiguous, -, -, listed, reaches⟩ :=
    @compile_duplicate_iff_disputed meeting doubleLeader meeting.table expanded
  have sound : ∀ chord rule, meeting.table.Binds chord rule →
      ∃ output, rule.action.output = .ok output := by
    intro chord rule bound
    obtain ⟨held, member, rfl⟩ := binds_meeting_iff.mp bound
    simp only [meetingRules, List.mem_pair, Prod.mk.injEq] at member
    rcases member with ⟨-, rfl⟩ | ⟨-, rfl⟩
    · exact ⟨_, rfl⟩
    · exact ⟨_, rfl⟩
  have among {chord : String} {rule : Rule} (member : (chord, rule) ∈ meetingRules) :
      Among (reached meeting.table) chord rule.binding := by
    rw [reaches sound, listed, binds_meeting_iff]
    exact ⟨rule, member, rfl⟩
  have plain : "ctrl+alt+x ctrl+alt+s" ∈ doubleLeader.spellings "ctrl+alt+x s" := by
    decide +kernel
  have held : "ctrl+alt+x ctrl+alt+s" ∈ doubleLeader.spellings "ctrl+alt+x alt+s" := by
    decide +kernel
  have disputed : Disputed doubleLeader (Among (reached meeting.table))
      "ctrl+alt+x ctrl+alt+s" "" := by
    refine ⟨_, _, .rendered (among List.mem_cons_self) plain rfl,
      .rendered (among (List.mem_cons_of_mem _ List.mem_cons_self)) held rfl, rfl, rfl, rfl, rfl,
      ?_⟩
    decide +kernel
  exact ⟨expanded, disputed, ambiguous.mpr ⟨_, _, disputed⟩⟩

/-- The one rule of a keymap, whose action holds a command where a step should be. -/
def steplessRules : List (String × Rule) :=
  [("ctrl+s", ⟨.always, .sequence [.action (.run (.invoke "save" .null))]⟩)]

/-- The keymap with the rule. -/
def stepless : Keymap where
  table := Table.added ∅ steplessRules

private theorem output_stepless {chord : String} {rule : Binding}
    (bound : stepless.table.Binds chord rule) :
    rule.action.output = .error (.absentMember "Invoke" "to_dict") := by
  have fits : Table.Fits ∅ steplessRules := ⟨fun _ _ => rfl, by decide⟩
  rcases fits.mem_bindings_added.mp bound with old | ⟨held, member, rfl⟩
  · cases old
  · obtain ⟨-, rfl⟩ := Prod.mk.inj (List.mem_singleton.mp member)
    rfl

open Linear in
/-- **A keymap without a disputed slot may be refused all the same**, for an action without an
output. -/
theorem compile_stepless :
    stepless.expanded.result = .ok stepless.table ∧
      (¬ ∃ key line, Disputed controlLeader stepless.table.Binds key line) ∧
      (stepless.compile controlLeader).result = .error (.absentMember "Invoke" "to_dict") := by
  have expanded : stepless.expanded.result = .ok stepless.table := rfl
  have silent (identity : Identity) : ¬ Claims controlLeader stepless.table.Binds identity := by
    intro claims
    cases claims with
    | rendered bound spelled runs => cases runs.symm.trans (output_stepless bound)
    | suppressed bound spelled quiet =>
        cases (Action.output_eq_none_iff.mpr quiet).symm.trans (output_stepless bound)
  refine ⟨expanded, fun ⟨key, line, first, _, claims, _⟩ => silent first claims, ?_⟩
  rw [compile_of_expanded expanded]
  rcases linearize_cases controlLeader stepless.table stepless.removals with ⟨-, all, -⟩ |
    ⟨_, _, _, -, -, -, -, first, _, claims, -⟩ |
    ⟨chord, rule, after, fault, split, fails, failed, -⟩
  · have bound : stepless.table.Binds "ctrl+s"
        ⟨"", .sequence [.action (.run (.invoke "save" .null))]⟩ := List.mem_cons_self
    have member := mem_placed.mpr bound
    rw [← all] at member
    obtain ⟨output, puts⟩ := exists_output_of_mem_reached member
    cases puts
  · exact absurd (claims.imp fun _ _ => binds_of_mem_reached) (silent first)
  · have bound : stepless.table.Binds chord rule := by
      rw [← mem_placed, split]
      exact List.mem_append_right _ List.mem_cons_self
    cases fails.symm.trans (output_stepless bound)
    exact failed

end Keymap

end KeyChords
