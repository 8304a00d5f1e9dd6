import KeyChords.Proofs.Linear.Suppression

/-! # One rule for each slot

What a keymap compiles to leaves the editor no choice between rules. Two records with the same key
and the same condition may stand next to each other only because one of them removes a default
(`KeyChords.Keymap.removes_of_shared_slot`): rules that meet in a slot render to the same record,
and that one is listed once.
-/

namespace KeyChords

namespace Linear

variable {leaders : Leaders} {table : Table} {removals : Removals}

/-- Records of rules that meet in a slot nobody disputes are the same. -/
theorem identity_eq_of_undisputed {one other : Record}
    (peaceful : ¬ Disputed leaders table.Binds one.key one.when)
    (key : other.key = one.key) (line : other.when = one.when)
    (oneClaims : Claims leaders table.Binds one.identity)
    (otherClaims : Claims leaders table.Binds other.identity) : one.identity = other.identity := by
  by_contra differ
  exact peaceful ⟨_, _, oneClaims, otherClaims, rfl, rfl, key, line, differ⟩

/-- A record that is called for and does not remove a default is one that a rule claims. -/
theorem Called.claims {record : Record} (called : Called leaders table removals record)
    (authored : ¬ Removes leaders removals record) :
    Claims leaders table.Binds record.identity := by
  rcases called.removes_or_claims with removes | ⟨chord, rule, bound, spelled, line, runs⟩
  · exact absurd removes authored
  · rw [Entry.identity, line]
    exact .rendered bound spelled runs

end Linear

open Linear

namespace Keymap

variable {keymap : Keymap} {leaders : Leaders} {records : List Record}

/-- In a keymap that compiles no slot is disputed. -/
theorem not_disputed_of_compile {table : Table} (expanded : keymap.expanded.result = .ok table)
    (compiled : (keymap.compile leaders).result = .ok records) (key line : String) :
    ¬ Disputed leaders table.Binds key line := by
  rw [compile_of_expanded expanded] at compiled
  exact (exists_linearize_iff.mp ⟨records, compiled⟩).2 key line

/-- Compiled records at different places are not the same. -/
theorem identity_ne_of_compile {table : Table} (expanded : keymap.expanded.result = .ok table)
    (compiled : (keymap.compile leaders).result = .ok records) {first second : Nat}
    (apart : first ≠ second) {one other : Record} (atFirst : records[first]? = some one)
    (atSecond : records[second]? = some other) : one.identity ≠ other.identity := by
  have distinct : (records.map Entry.identity).Nodup := by
    rw [records_of_compile expanded compiled]
    exact nodup_map_firstsBy _ _
  intro same
  obtain ⟨inside, -⟩ := List.getElem?_eq_some_iff.mp atFirst
  refine apart ((List.getElem?_inj (by rwa [List.length_map]) distinct).mp ?_)
  rw [List.getElem?_map, List.getElem?_map, atFirst, atSecond, Option.map_some, Option.map_some,
    same]

/-- **The compiled list is unambiguous.** Of two records at different places with the same key and
the same condition at least one removes a default: it has neither condition nor arguments and
retracts a command that is removed from a chord with this key among its spellings. -/
theorem removes_of_shared_slot (compiled : (keymap.compile leaders).result = .ok records)
    {first second : Nat} (apart : first ≠ second) {one other : Record}
    (atFirst : records[first]? = some one) (atSecond : records[second]? = some other)
    (key : one.key = other.key) (line : one.when = other.when) :
    Removes leaders keymap.removals one ∨ Removes leaders keymap.removals other := by
  obtain ⟨table, expanded, -⟩ := expanded_of_compile compiled
  by_contra authored
  obtain ⟨oneAuthored, otherAuthored⟩ := not_or.mp authored
  have oneClaims : Claims leaders table.Binds one.identity :=
    (called_of_mem expanded compiled (List.mem_of_getElem? atFirst)).claims oneAuthored
  have otherClaims : Claims leaders table.Binds other.identity :=
    (called_of_mem expanded compiled (List.mem_of_getElem? atSecond)).claims otherAuthored
  have same : one.identity = other.identity :=
    identity_eq_of_undisputed (not_disputed_of_compile expanded compiled one.key one.when)
      key.symm line.symm oneClaims otherClaims
  exact identity_ne_of_compile expanded compiled apart atFirst atSecond same

/-- Where a rule and a removal share a slot, the second record is the removal. -/
theorem compile_doubled_shared_slot :
    ∃ records one other, (doubled.compile controlLeader).result = .ok records ∧
      records[2]? = some one ∧ records[3]? = some other ∧
      one.key = other.key ∧ one.when = other.when ∧ one.identity ≠ other.identity ∧
      (Removes controlLeader doubled.removals one ∨
        Removes controlLeader doubled.removals other) := by
  obtain ⟨records, compiled, named⟩ := compile_doubled
  have places (place : Nat) : records[place]?.map Entry.identity = _ :=
    (List.getElem?_map ..).symm.trans (congrArg (·[place]?) named)
  obtain ⟨one, atTwo, saves⟩ := Option.map_eq_some_iff.mp (places 2)
  obtain ⟨other, atThree, removes⟩ := Option.map_eq_some_iff.mp (places 3)
  have key : one.key = other.key :=
    (congrArg Identity.key saves).trans (congrArg Identity.key removes).symm
  have line : one.when = other.when :=
    (congrArg Identity.when saves).trans (congrArg Identity.when removes).symm
  refine ⟨records, one, other, compiled, atTwo, atThree, key, line, ?_,
    removes_of_shared_slot compiled (by decide) atTwo atThree key line⟩
  rw [saves, removes]
  decide

end Keymap

end KeyChords
