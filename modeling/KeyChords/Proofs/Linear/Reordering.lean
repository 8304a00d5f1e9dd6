import KeyChords.Proofs.Linear.Suppression
import KeyChords.Proofs.Removals.Registration
import KeyChords.Proofs.Table.Agreement

/-! # The order of registration

A table and removals keep the order in which they were filled, and nothing of that order is left in
what they compile to. Tables that agree admit the same typing expansions and still agree afterwards;
chords and lines are then taken in an order of their own, so the moves are the same ones, and with
them the records or the fault (`KeyChords.Keymap.compile_eq_of_reordered`).
-/

namespace KeyChords

open Table

namespace Expansion

/-- Runs of an expansion over tables that agree, with as many rules counted. -/
def AgreesSoFar (first second : Table × Nat) : Prop :=
  first.1.Agrees second.1 ∧ first.2 = second.2

private theorem bindNext_agrees (expansion : Expansion) {first second : Table × Nat}
    (agrees : AgreesSoFar first second) (rule : String × Action) :
    Progress.Alike AgreesSoFar (expansion.bindNext first rule)
      (expansion.bindNext second rule) := by
  obtain ⟨table, count⟩ := first
  obtain ⟨other, otherCount⟩ := second
  obtain ⟨tables, counts⟩ := agrees
  obtain ⟨fault, bound⟩ := tables.register rule.1 expansion.condition (.action rule.2)
    .expansionCollision
  have registers : Progress.Alike AgreesSoFar
      ((table.register rule.1 expansion.condition (.action rule.2)
        .expansionCollision).map (·, count))
      ((other.register rule.1 expansion.condition (.action rule.2)
        .expansionCollision).map (·, otherCount)) := ⟨fault, bound, counts⟩
  unfold bindNext
  refine registers.andThen fun left right related => ?_
  exact ⟨rfl, related.1, congrArg (· + 1) related.2⟩

/-- Tables that agree take a typing expansion in the same way. -/
theorem apply_agrees {first second : Table} (agrees : first.Agrees second) (expansion : Expansion) :
    Progress.Alike AgreesSoFar (expansion.apply first) (expansion.apply second) := by
  unfold apply
  cases expansion.rules with
  | error fault => exact ⟨rfl, agrees, rfl⟩
  | ok rules =>
      refine Progress.Alike.andThen ?_ fun left right related => ?_
      · exact Progress.Alike.each (fun _ _ rule agrees => bindNext_agrees expansion agrees rule)
          rules ⟨agrees, rfl⟩
      · unfold finish
        cases expansion.condition.conditionText with
        | error fault => exact ⟨rfl, related⟩
        | ok line => exact ⟨rfl, related⟩

end Expansion

namespace Linear

variable {first second : Table} {removals others : Removals}

private theorem sortedBindings_congr (agrees : first.Agrees second) (chord : String) :
    sortedBindings first chord = sortedBindings second chord :=
  mergeSort_key_congr (agrees.bindings chord) (agrees.distinct chord)

private theorem sortedChords_congr (agrees : first.Agrees second)
    (chords : ∀ chord, chord ∈ removals.chords ↔ chord ∈ others.chords) :
    sortedChords first removals = sortedChords second others := by
  rw [sortedChords_eq_ascending, sortedChords_eq_ascending]
  refine ascending_congr fun chord => ?_
  rw [List.mem_append, List.mem_append, agrees.chords, chords]

/-- Tables that agree, with the same removals for each chord, are linearized by the same moves. -/
theorem moves_congr (leaders : Leaders) (agrees : first.Agrees second)
    (chords : ∀ chord, chord ∈ removals.chords ↔ chord ∈ others.chords)
    (commands : ∀ chord, removals.commands chord = others.commands chord) :
    moves leaders first removals = moves leaders second others := by
  rw [moves, moves, sortedChords_congr agrees chords]
  refine List.flatMap_congr fun chord _ => ?_
  rw [chordMoves, chordMoves, sortedBindings_congr agrees, commands]

private theorem linearize_congr (leaders : Leaders) (agrees : first.Agrees second)
    (chords : ∀ chord, chord ∈ removals.chords ↔ chord ∈ others.chords)
    (commands : ∀ chord, removals.commands chord = others.commands chord) :
    (first.linearize removals leaders).result = (second.linearize others leaders).result := by
  rw [linearize_result, linearize_result, moves_congr leaders agrees chords commands]

end Linear

namespace Keymap

/-- Keymaps that differ in nothing but the order in which they were filled compile alike. -/
theorem compile_congr {first second : Table} {removals others : Removals}
    (agrees : first.Agrees second)
    (chords : ∀ chord, chord ∈ removals.chords ↔ chord ∈ others.chords)
    (commands : ∀ chord, removals.commands chord = others.commands chord)
    (expansion : Option Expansion) (leaders : Leaders) :
    (compile ⟨first, removals, expansion⟩ leaders).result =
      (compile ⟨second, others, expansion⟩ leaders).result := by
  rw [result_compile, result_compile]
  cases expansion with
  | none =>
      rw [expanded_without_typing, expanded_without_typing]
      exact Linear.linearize_congr leaders agrees chords commands
  | some expansion =>
      obtain ⟨sameFault, related, -⟩ := Expansion.apply_agrees agrees expansion
      cases outcome : (expansion.apply first).fault with
      | some fault =>
          rw [expanded_of_refused outcome, expanded_of_refused (sameFault.symm.trans outcome)]
          rfl
      | none =>
          rw [expanded_of_applied outcome, expanded_of_applied (sameFault.symm.trans outcome)]
          exact Linear.linearize_congr leaders related chords commands

/-- **The order of registration leaves no trace.** Let rules take pairwise different slots, and let
two sequences of removals give each chord the same commands. Registering the rules in either of two
orders, the keymaps compile to the same records in the same order, or are refused for the same
fault. -/
theorem compile_eq_of_reordered {rules others : List (String × Rule)}
    (reordered : rules.Perm others) (apart : (rules.map slot).Nodup)
    {calls otherCalls : List (String × String)}
    (commands : ∀ chord, (Removals.registered ∅ calls).commands chord =
      (Removals.registered ∅ otherCalls).commands chord)
    (expansion : Option Expansion) (leaders : Leaders) :
    (compile ⟨registered ∅ rules, Removals.registered ∅ calls, expansion⟩ leaders).result =
      (compile ⟨registered ∅ others, Removals.registered ∅ otherCalls, expansion⟩
        leaders).result := by
  refine compile_congr (agrees_of_perm reordered apart) ?_ commands expansion leaders
  intro chord
  rw [(Removals.filled_empty.registered calls).mem_chords_iff,
    (Removals.filled_empty.registered otherCalls).mem_chords_iff, commands]

/-- Two rules that differ and whose chords meet in a spelling. -/
def rivalRules : List (String × Rule) :=
  [("ctrl+x s", ⟨.always, .run (.invoke "save" .null)⟩),
    ("ctrl+x ctrl+s", ⟨.always, .run (.invoke "saveAll" .null)⟩)]

private theorem outputs_rivalRules {chord : String} {rule : Binding}
    (bound : (registered ∅ rivalRules).Binds chord rule) :
    ∃ output, rule.action.output = .ok output := by
  have apart : (rivalRules.map slot).Nodup := by decide +kernel
  have fits : Fits ∅ rivalRules := ⟨fun _ _ => rfl, apart⟩
  have named : ∀ rule ∈ rivalRules, decide (rule.1 ≠ "") = true := by decide
  rw [registered_empty apart, List.filter_eq_self.mpr named] at bound
  rcases fits.mem_bindings_added.mp bound with old | ⟨held, member, rfl⟩
  · exact absurd old List.not_mem_nil
  · simp only [rivalRules, List.mem_pair, Prod.mk.injEq] at member
    rcases member with ⟨-, rfl⟩ | ⟨-, rfl⟩
    · exact ⟨_, rfl⟩
    · exact ⟨_, rfl⟩

/-- Two removals for different chords. -/
def removalCalls : List (String × String) :=
  [("ctrl+x s", "open"), ("tab", "indent")]

private theorem commands_removalCalls (chord : String) :
    (Removals.registered ∅ removalCalls).commands chord =
      (Removals.registered ∅ (("tab", "indent") :: removalCalls)).commands chord := by
  have rows : (Removals.registered ∅ removalCalls).rows =
      [("ctrl+x s", ["open"]), ("tab", ["indent"])] := by decide +kernel
  have others : (Removals.registered ∅ (("tab", "indent") :: removalCalls)).rows =
      [("tab", ["indent"]), ("ctrl+x s", ["open"])] := by decide +kernel
  rw [Removals.commands, Removals.commands, rows, others]
  by_cases tab : chord = "tab"
  · subst tab
    rfl
  · by_cases save : chord = "ctrl+x s"
    · subst save
      rfl
    · simp [Dict.get?, List.lookup_cons, beq_eq_false_iff_ne.mpr tab, beq_eq_false_iff_ne.mpr save]

/-- In either order the two rules are refused for the same fault, whichever came first. -/
theorem compile_rivalRules_reversed :
    rivalRules.Perm rivalRules.reverse ∧ (rivalRules.map slot).Nodup ∧
      (compile ⟨registered ∅ rivalRules, Removals.registered ∅ removalCalls, none⟩
          controlLeader).result =
        (compile ⟨registered ∅ rivalRules.reverse,
          Removals.registered ∅ (("tab", "indent") :: removalCalls), none⟩
          controlLeader).result ∧
      ∃ broken, (compile ⟨registered ∅ rivalRules, Removals.registered ∅ removalCalls, none⟩
        controlLeader).result = .error (.violation broken) ∧ broken.kind = .duplicate := by
  have reordered : rivalRules.Perm rivalRules.reverse := (List.reverse_perm rivalRules).symm
  have apart : (rivalRules.map slot).Nodup := by decide +kernel
  refine ⟨reordered, apart,
    compile_eq_of_reordered reordered apart commands_removalCalls none controlLeader, ?_⟩
  have saving : (registered ∅ rivalRules).Binds "ctrl+x s"
      ⟨"", .run (.invoke "save" .null)⟩ := List.mem_cons_self
  have savingAll : (registered ∅ rivalRules).Binds "ctrl+x ctrl+s"
      ⟨"", .run (.invoke "saveAll" .null)⟩ := List.mem_cons_self
  have held : "ctrl+x ctrl+s" ∈ controlLeader.spellings "ctrl+x ctrl+s" := List.mem_cons_self
  obtain ⟨fault, refused, ⟨broken, rfl, kind⟩ | ⟨chord, rule, bound, fails⟩⟩ :=
    compile_of_rivals (expanded_without_typing _ _) (.rendered saving held_mem_spellings rfl)
      (.rendered savingAll held rfl) ⟨rfl, rfl, by decide⟩
  · exact ⟨broken, refused, kind⟩
  · obtain ⟨output, puts⟩ := outputs_rivalRules bound
    cases puts.symm.trans fails

end Keymap

end KeyChords
