import KeyChords.Keymap
import KeyChords.Proofs.Progress

/-! # Runs of a linearization

A linearization makes a list of moves. The records that it keeps are the first ones of each identity
among those that the moves emit, and every slot that a move has claimed is held for the record of
that claim (`KeyChords.Linear.State.Tracks`). The invariant is kept by every move that is not
refused, so a run that ends has met no rivals among its claims. A move is refused when it claims a
slot that is held for another record, or when it is a fault of its own; the other moves play no part
in how a run ends (`KeyChords.Linear.fault_each_checks`).
-/

namespace KeyChords

namespace Linear

open Debug

/-- The record that a move emits. -/
def Move.emission? : Move → Option Record
  | .emit record => some record
  | _ => none

/-- The claim that a move makes. -/
def Move.claim? : Move → Option Claim
  | .claim source identity => some ⟨source, identity⟩
  | _ => none

/-- Whether a move can be refused. -/
def Move.isCheck : Move → Bool
  | .claim _ _ | .fail _ => true
  | .tell _ | .emit _ => false

/-- The records that moves emit, repeated ones included. -/
def emitted (moves : List Move) : List Record :=
  moves.filterMap Move.emission?

/-- The claims that moves make. -/
def claimed (moves : List Move) : List Claim :=
  moves.filterMap Move.claim?

/-- The moves that can be refused. -/
def checks (moves : List Move) : List Move :=
  moves.filter Move.isCheck

/-- Two records are rivals: they take the same slot and are not the same. -/
def Rivals (first second : Identity) : Prop :=
  first.key = second.key ∧ first.when = second.when ∧ first ≠ second

section Concat

variable (made : List Move)

@[simp]
theorem emitted_concat_tell (event : Event) : emitted (made ++ [.tell event]) = emitted made := by
  simp [emitted, Move.emission?]

@[simp]
theorem emitted_concat_claim (source : String) (identity : Identity) :
    emitted (made ++ [.claim source identity]) = emitted made := by
  simp [emitted, Move.emission?]

@[simp]
theorem emitted_concat_emit (record : Record) :
    emitted (made ++ [.emit record]) = emitted made ++ [record] := by
  simp [emitted, Move.emission?]

@[simp]
theorem claimed_concat_tell (event : Event) : claimed (made ++ [.tell event]) = claimed made := by
  simp [claimed, Move.claim?]

@[simp]
theorem claimed_concat_claim (source : String) (identity : Identity) :
    claimed (made ++ [.claim source identity]) = claimed made ++ [⟨source, identity⟩] := by
  simp [claimed, Move.claim?]

@[simp]
theorem claimed_concat_emit (record : Record) :
    claimed (made ++ [.emit record]) = claimed made := by
  simp [claimed, Move.claim?]

end Concat

section ClaimOn

variable {state : State} {identity : Identity} {held : Claim}

private theorem slot_of_claimOn? (found : state.claimOn? identity = some held) :
    held.identity.key = identity.key ∧ held.identity.when = identity.when := by
  simp only [State.claimOn?] at found
  simpa using List.find?_some found

private theorem mem_of_claimOn? (found : state.claimOn? identity = some held) :
    held ∈ state.claims :=
  List.mem_of_find?_eq_some found

private theorem claimOn?_eq_of_slot (state : State) {first second : Identity}
    (key : first.key = second.key) (line : first.when = second.when) :
    state.claimOn? first = state.claimOn? second := by
  simp only [State.claimOn?, key, line]

private theorem claimOn?_append_of_some (found : state.claimOn? identity = some held)
    (further : Claim) :
    ({ state with claims := state.claims ++ [further] } : State).claimOn? identity =
      some held := by
  simp only [State.claimOn?] at found ⊢
  rw [List.find?_append, found, Option.some_or]

private theorem claimOn?_append_self (free : state.claimOn? identity = none) (source : String) :
    ({ state with claims := state.claims ++ [⟨source, identity⟩] } : State).claimOn? identity =
      some ⟨source, identity⟩ := by
  simp only [State.claimOn?] at free ⊢
  rw [List.find?_append, free, Option.none_or]
  simp

end ClaimOn

/-- A state keeps the first record of each identity and knows the identities. -/
structure State.Keeps (state : State) (records : List Record) : Prop where
  firsts : state.records = firstsBy Entry.identity records
  seen : ∀ identity, identity ∈ state.seen ↔ identity ∈ records.map Entry.identity

/-- A state holds no slot that was not claimed, and every claimed one for the record it was claimed
for. -/
structure State.Holds (state : State) (claims : List Claim) : Prop where
  genuine : ∀ claim ∈ state.claims, claim ∈ claims
  settled : ∀ claim ∈ claims, ∃ held,
    state.claimOn? claim.identity = some held ∧ held.identity = claim.identity

/-- **What a state has of the moves that led to it.** -/
structure State.Tracks (state : State) (made : List Move) : Prop where
  keeps : state.Keeps (emitted made)
  holds : state.Holds (claimed made)

private theorem State.tracks_nil : State.Tracks {} [] where
  keeps := ⟨rfl, fun _ => Iff.rfl⟩
  holds := ⟨fun _ member => member, fun _ member => absurd member List.not_mem_nil⟩

variable {state : State}

/-- Emitting a record a second time drops it. -/
theorem State.Keeps.drop {records : List Record} (keeps : state.Keeps records) {record : Record}
    (known : record.identity ∈ state.seen) : state.Keeps (records ++ [record]) := by
  have old : record.identity ∈ records.map Entry.identity :=
    (keeps.seen record.identity).mp known
  refine ⟨?_, ?_⟩
  · rw [firstsBy_concat_of_mem old]
    exact keeps.firsts
  · intro identity
    rw [List.map_append, List.map_singleton, List.mem_append, List.mem_singleton,
      keeps.seen identity]
    refine ⟨Or.inl, fun present => ?_⟩
    rcases present with earlier | rfl
    · exact earlier
    · exact old

/-- A record with a new identity is kept behind the others. -/
theorem State.Keeps.emit {records : List Record} (keeps : state.Keeps records) {record : Record}
    (fresh : record.identity ∉ state.seen) :
    State.Keeps
      { state with
        records := state.records ++ [record]
        seen := record.identity :: state.seen }
      (records ++ [record]) := by
  have new : record.identity ∉ records.map Entry.identity :=
    fun present => fresh ((keeps.seen record.identity).mpr present)
  refine ⟨?_, ?_⟩
  · rw [firstsBy_concat_of_not_mem new, keeps.firsts]
  · intro identity
    rw [List.map_append, List.map_singleton, List.mem_append, List.mem_singleton, List.mem_cons,
      keeps.seen identity, or_comm]

/-- Claiming a slot that is held for the same record changes nothing. -/
theorem State.Holds.reclaim {claims : List Claim} (holds : state.Holds claims) {source : String}
    {identity : Identity} {held : Claim} (found : state.claimOn? identity = some held)
    (same : held.identity = identity) : state.Holds (claims ++ [⟨source, identity⟩]) := by
  refine ⟨?_, ?_⟩
  · intro claim member
    exact List.mem_append_left _ (holds.genuine claim member)
  · intro claim member
    rw [List.mem_append, List.mem_singleton] at member
    rcases member with old | rfl
    · exact holds.settled claim old
    · exact ⟨held, found, same⟩

/-- Claiming a free slot keeps the slots that are held and takes the free one. -/
theorem State.Holds.claim {claims : List Claim} (holds : state.Holds claims) {source : String}
    {identity : Identity} (free : state.claimOn? identity = none) :
    State.Holds { state with claims := state.claims ++ [⟨source, identity⟩] }
      (claims ++ [⟨source, identity⟩]) := by
  refine ⟨?_, ?_⟩
  · intro claim member
    rcases List.mem_append.mp member with old | new
    · exact List.mem_append_left _ (holds.genuine claim old)
    · exact List.mem_append_right _ new
  · intro claim member
    rw [List.mem_append, List.mem_singleton] at member
    rcases member with old | rfl
    · obtain ⟨held, found, same⟩ := holds.settled claim old
      exact ⟨held, claimOn?_append_of_some found _, same⟩
    · exact ⟨_, claimOn?_append_self free source, rfl⟩

variable {made : List Move}

/-- **A move that is not refused keeps the invariant.** -/
theorem State.Tracks.step (tracks : state.Tracks made) (move : Move)
    (sound : (state.step move).fault = none) :
    (state.step move).state.Tracks (made ++ [move]) := by
  obtain ⟨keeps, holds⟩ := tracks
  cases move with
  | tell event =>
      refine ⟨?_, ?_⟩
      · rw [emitted_concat_tell]
        exact keeps
      · rw [claimed_concat_tell]
        exact holds
  | claim source identity =>
      cases found : state.claimOn? identity with
      | none =>
          simp only [State.step, found]
          refine ⟨?_, ?_⟩
          · rw [emitted_concat_claim]
            exact ⟨keeps.firsts, keeps.seen⟩
          · rw [claimed_concat_claim]
            exact holds.claim found
      | some held =>
          by_cases same : held.identity = identity
          · simp only [State.step, found, same, ↓reduceIte]
            refine ⟨?_, ?_⟩
            · rw [emitted_concat_claim]
              exact keeps
            · rw [claimed_concat_claim]
              exact holds.reclaim found same
          · simp [State.step, found, same, Progress.stopped] at sound
  | emit record =>
      by_cases known : record.identity ∈ state.seen
      · simp only [State.step, known, ↓reduceIte]
        refine ⟨?_, ?_⟩
        · rw [emitted_concat_emit]
          exact keeps.drop known
        · rw [claimed_concat_emit]
          exact holds
      · simp only [State.step, known, ↓reduceIte]
        refine ⟨?_, ?_⟩
        · rw [emitted_concat_emit]
          exact keeps.emit known
        · rw [claimed_concat_emit]
          exact ⟨holds.genuine, holds.settled⟩
  | fail fault => simp [State.step, Progress.stopped] at sound

/-- **A move that is refused** claims a slot that is held for another record, or is a fault. -/
theorem State.step_refused {move : Move} {fault : Fault}
    (refused : (state.step move).fault = some fault) :
    (∃ source identity held, move = .claim source identity ∧
      state.claimOn? identity = some held ∧ held.identity ≠ identity ∧
      fault = disputed source held identity) ∨ move = .fail fault := by
  cases move with
  | tell event => simp [State.step, Progress.done] at refused
  | fail inner => exact Or.inr (congrArg Move.fail (Option.some.inj refused))
  | claim source identity =>
      cases found : state.claimOn? identity with
      | none => simp [State.step, found, Progress.done] at refused
      | some held =>
          by_cases same : held.identity = identity
          · simp [State.step, found, same, Progress.done] at refused
          · simp only [State.step, found, same, ↓reduceIte, Progress.stopped,
              Option.some.injEq] at refused
            exact Or.inl ⟨source, identity, held, rfl, found, same, refused.symm⟩
  | emit record =>
      by_cases known : record.identity ∈ state.seen <;>
        simp [State.step, known, Progress.done] at refused

/-- A state that tracks its moves has settled every claim, so no two of them are rivals. -/
theorem State.Tracks.not_rivals (tracks : state.Tracks made) {first second : Claim}
    (firstMade : first ∈ claimed made) (secondMade : second ∈ claimed made) :
    ¬ Rivals first.identity second.identity := by
  rintro ⟨key, line, differ⟩
  obtain ⟨held, found, same⟩ := tracks.holds.settled first firstMade
  obtain ⟨other, otherFound, otherSame⟩ := tracks.holds.settled second secondMade
  rw [claimOn?_eq_of_slot state key line, otherFound, Option.some.injEq] at found
  exact differ (same.symm.trans (found ▸ otherSame))

private theorem claimed_append (first second : List Move) :
    claimed (first ++ second) = claimed first ++ claimed second :=
  List.filterMap_append

/-- What two runs of moves emit is emitted by the one and then by the other. -/
theorem emitted_append (first second : List Move) :
    emitted (first ++ second) = emitted first ++ emitted second :=
  List.filterMap_append

/-- **A run that ends** tracks all its moves. -/
theorem tracks_of_ended {moves : List Move}
    (ended : (Progress.each State.step {} moves).fault = none) :
    (Progress.each State.step {} moves).state.Tracks moves := by
  rcases Progress.each_cases State.step State.Tracks
      (fun _ _ move tracks sound => tracks.step move sound) moves State.tracks_nil with
    ⟨-, tracks⟩ | ⟨_, _, _, _, _, -, -, -, stops, -⟩
  · exact tracks
  · cases ended.symm.trans stops

/-- **A run that is stopped** has met a claim with a rival among the earlier ones, or a fault. -/
theorem rivals_of_stopped {moves : List Move} {fault : Fault}
    (stopped : (Progress.each State.step {} moves).fault = some fault) :
    (∃ held ∈ claimed moves, ∃ claim ∈ claimed moves, Rivals held.identity claim.identity ∧
        fault = disputed claim.source held claim.identity) ∨
      .fail fault ∈ moves := by
  rcases Progress.each_cases State.step State.Tracks
      (fun _ _ move tracks sound => tracks.step move sound) moves State.tracks_nil with
    ⟨ended, -⟩ | ⟨before, move, after, reached, inner, split, tracks, refused, stops, -⟩
  · cases stopped.symm.trans ended
  · obtain rfl : fault = inner := Option.some.inj (stopped.symm.trans stops)
    rw [split]
    rcases State.step_refused refused with
      ⟨source, identity, held, rfl, found, differ, rfl⟩ | rfl
    · have earlier : held ∈ claimed before := tracks.holds.genuine held (mem_of_claimOn? found)
      obtain ⟨key, line⟩ := slot_of_claimOn? found
      refine Or.inl ⟨held, ?_, ⟨source, identity⟩, ?_, ⟨key, line, differ⟩, rfl⟩
      · rw [claimed_append]
        exact List.mem_append_left _ earlier
      · rw [claimed_append]
        exact List.mem_append_right _ List.mem_cons_self
    · exact Or.inr (List.mem_append_right _ List.mem_cons_self)

/-! ## Checks decide alone -/

/-- A move that cannot be refused keeps the claims. -/
theorem State.step_of_not_isCheck {move : Move} (idle : move.isCheck = false) (state : State) :
    (state.step move).fault = none ∧ (state.step move).state.claims = state.claims := by
  cases move with
  | tell event => exact ⟨rfl, rfl⟩
  | emit record =>
      by_cases known : record.identity ∈ state.seen <;> simp [State.step, known, Progress.done]
  | claim source identity => cases idle
  | fail fault => cases idle

/-- A move does the same to the claims of two states that have the same ones. -/
theorem State.step_alike {state other : State} (same : state.claims = other.claims)
    {move : Move} (checked : move.isCheck = true) :
    Progress.Alike (fun state other : State => state.claims = other.claims)
      (state.step move) (other.step move) := by
  cases move with
  | tell event => cases checked
  | emit record => cases checked
  | fail fault => exact ⟨rfl, same⟩
  | claim source identity =>
      have found : state.claimOn? identity = other.claimOn? identity := by
        simp only [State.claimOn?, same]
      simp only [State.step, found]
      cases other.claimOn? identity with
      | none => exact ⟨rfl, congrArg (· ++ _) same⟩
      | some held =>
          by_cases agreed : held.identity = identity
          · simp only [agreed, ↓reduceIte]
            exact ⟨rfl, same⟩
          · simp only [agreed, ↓reduceIte]
            exact ⟨rfl, same⟩

/-- **How a run ends is decided by its checks alone.** -/
theorem fault_each_checks {state other : State} (same : state.claims = other.claims)
    (moves : List Move) :
    (Progress.each State.step state moves).fault =
      (Progress.each State.step other (checks moves)).fault := by
  induction moves generalizing state other with
  | nil => rfl
  | cons move rest ih =>
      rw [checks, List.filter_cons, Progress.each]
      cases checked : move.isCheck with
      | false =>
          obtain ⟨silent, kept⟩ := state.step_of_not_isCheck checked
          rw [Progress.fault_andThen_of_none silent]
          exact ih (kept.trans same)
      | true =>
          have alike := State.step_alike same checked
          rw [if_pos rfl, Progress.each]
          cases outcome : (state.step move).fault with
          | some fault =>
              have stopped := alike.fault.symm.trans outcome
              rw [Progress.andThen_of_some outcome, Progress.andThen_of_some stopped, outcome,
                stopped]
          | none =>
              rw [Progress.fault_andThen_of_none outcome,
                Progress.fault_andThen_of_none (alike.fault.symm.trans outcome)]
              exact ih alike.state

end Linear

open Linear in
/-- A table is linearized by the run of its moves. -/
theorem Table.linearize_result (table : Table) (removals : Removals) (leaders : Leaders) :
    (table.linearize removals leaders).result =
      match (Progress.each State.step {} (moves leaders table removals)).fault with
      | none => .ok (Progress.each State.step {} (moves leaders table removals)).state.records
      | some fault => .error fault := by
  simp only [Table.linearize, Report.result_bind, Report.result_say, Report.result_pure,
    Progress.result_toReport]
  cases (Progress.each State.step {} (moves leaders table removals)).fault <;> rfl

namespace Linear

/-- **What a linearization returns** are the first records of each identity among those that are
emitted. -/
theorem records_of_linearize_moves {leaders : Leaders} {table : Table} {removals : Removals}
    {records : List Record}
    (linearized : (table.linearize removals leaders).result = .ok records) :
    records = firstsBy Entry.identity (emitted (moves leaders table removals)) := by
  rw [Table.linearize_result] at linearized
  cases ended : (Progress.each State.step {} (moves leaders table removals)).fault with
  | some fault =>
      rw [ended] at linearized
      cases linearized
  | none =>
      rw [ended] at linearized
      rw [← Except.ok.inj linearized]
      exact (tracks_of_ended ended).keeps.firsts

end Linear

end KeyChords
