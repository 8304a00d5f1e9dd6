import KeyChords.Proofs.Chord.Spelling
import KeyChords.Proofs.Linear.Independence

/-! # Sets of leaders

Leaders matter as a set: neither the order in which they are named nor naming one twice changes
anything. And they matter in one direction: a further leader gives chords further spellings, so it
can make a keymap ambiguous and add records, but it takes no record away
(`KeyChords.Keymap.compile_leaders`). Which of two equal records comes first may change with it, so
the lists are compared by their identities.
-/

namespace KeyChords

open Chord

namespace Leaders

variable {few many : Leaders} {chord spelling : String}

/-- A chord keeps its second spelling when leaders are added. -/
theorem heldSpelling?_mono (inside : ∀ leader ∈ few.all, leader ∈ many.all)
    (spelled : few.heldSpelling? chord = some spelling) :
    many.heldSpelling? chord = some spelling := by
  obtain ⟨leader, follower, cut, leads, lacking, rfl⟩ := heldSpelling?_eq_some_iff.mp spelled
  exact heldSpelling?_eq_some_iff.mpr ⟨leader, follower, cut, inside leader leads, lacking, rfl⟩

private theorem mem_spellings_mono (inside : ∀ leader ∈ few.all, leader ∈ many.all)
    (spelled : spelling ∈ few.spellings chord) : spelling ∈ many.spellings chord := by
  rw [mem_spellings] at spelled ⊢
  exact spelled.imp_right (heldSpelling?_mono inside)

/-- **The second spelling depends on the set of leaders.** -/
theorem heldSpelling?_congr (same : ∀ leader, leader ∈ few.all ↔ leader ∈ many.all)
    (chord : String) : few.heldSpelling? chord = many.heldSpelling? chord := by
  ext spelling
  constructor
  · exact heldSpelling?_mono fun leader => (same leader).mp
  · exact heldSpelling?_mono fun leader => (same leader).mpr

end Leaders

namespace Linear

variable {few many : Leaders} {table : Table} {removals : Removals}
  {among : String → Binding → Prop}

private theorem Claims.mono (inside : ∀ leader ∈ few.all, leader ∈ many.all) {identity : Identity}
    (claims : Claims few among identity) : Claims many among identity := by
  cases claims with
  | rendered bound spelled runs =>
      exact .rendered bound (Leaders.mem_spellings_mono inside spelled) runs
  | suppressed bound spelled silent =>
      exact .suppressed bound (Leaders.mem_spellings_mono inside spelled) silent

private theorem Called.mono (inside : ∀ leader ∈ few.all, leader ∈ many.all) {record : Record}
    (called : Called few table removals record) : Called many table removals record := by
  cases called with
  | rule bound spelled runs =>
      exact .rule bound (Leaders.mem_spellings_mono inside spelled) runs
  | removal lost spelled =>
      exact .removal lost (Leaders.mem_spellings_mono inside spelled)

/-- A slot that is disputed stays disputed when leaders are added. -/
theorem Disputed.mono (inside : ∀ leader ∈ few.all, leader ∈ many.all) {key line : String}
    (disputed : Disputed few among key line) : Disputed many among key line := by
  obtain ⟨first, second, firstClaims, secondClaims, rest⟩ := disputed
  exact ⟨first, second, firstClaims.mono inside, secondClaims.mono inside, rest⟩

/-- **With fewer leaders less is refused and less is listed.** -/
theorem linearize_mono (inside : ∀ leader ∈ few.all, leader ∈ many.all) {records : List Record}
    (linearized : (table.linearize removals many).result = .ok records) :
    ∃ fewer, (table.linearize removals few).result = .ok fewer ∧
      fewer.map Entry.identity ⊆ records.map Entry.identity := by
  obtain ⟨sound, peaceful⟩ := exists_linearize_iff.mp ⟨records, linearized⟩
  obtain ⟨fewer, succeeded⟩ : ∃ fewer, (table.linearize removals few).result = .ok fewer :=
    exists_linearize_iff.mpr
      ⟨sound, fun key line disputed => peaceful key line (disputed.mono inside)⟩
  refine ⟨fewer, succeeded, fun identity member => ?_⟩
  obtain ⟨record, called, same⟩ := (mem_identities_iff succeeded).mp member
  exact (mem_identities_iff linearized).mpr ⟨record, called.mono inside, same⟩

/-- **Leaders that are the same as a set make the same moves.** -/
theorem moves_congr_leaders (same : ∀ leader, leader ∈ few.all ↔ leader ∈ many.all) :
    moves few table removals = moves many table removals := by
  have held := Leaders.heldSpelling?_congr same
  refine List.flatMap_congr fun chord _ => ?_
  simp only [chordMoves, Leaders.spellings, Leaders.spellingEvents, held]

end Linear

namespace Keymap

/-- **Leaders are a set and act in one direction.** Let every leader that is named in one list be
named in another. A keymap that compiles with the latter leaders compiles with the former, and every
identity it then has it also has with the latter. If the lists name the same leaders, in whatever
order and however often, the two compiles are one: the same records or the same fault, and the same
events. -/
theorem compile_leaders {named others : List String} {few many : Leaders}
    (fewNamed : Leaders.ofList named = .ok few) (manyNamed : Leaders.ofList others = .ok many)
    (inside : ∀ leader ∈ named, leader ∈ others) (keymap : Keymap) :
    (∀ records, (keymap.compile many).result = .ok records →
        ∃ fewer, (keymap.compile few).result = .ok fewer ∧
          fewer.map Entry.identity ⊆ records.map Entry.identity) ∧
      ((∀ leader ∈ others, leader ∈ named) → keymap.compile few = keymap.compile many) := by
  have isFew := Leaders.mem_all_of_ofList fewNamed
  have isMany := Leaders.mem_all_of_ofList manyNamed
  refine ⟨fun records compiled => ?_, fun back => ?_⟩
  · obtain ⟨table, expanded, linearized⟩ := expanded_of_compile compiled
    rw [compile_of_expanded expanded]
    refine Linear.linearize_mono (fun leader leads => ?_) linearized
    exact (isMany leader).mpr (inside leader ((isFew leader).mp leads))
  · have same : ∀ leader, leader ∈ few.all ↔ leader ∈ many.all := by
      intro leader
      rw [isFew, isMany]
      exact ⟨inside leader, back leader⟩
    have alike (table : Table) : table.linearize keymap.removals few =
        table.linearize keymap.removals many := by
      simp only [Table.linearize, Linear.moves_congr_leaders same]
    simp only [compile, alike]

/-- Two leaders. -/
def twoLeaders : Leaders :=
  ⟨["alt+x", "ctrl+x"], by decide, by decide +kernel⟩

/-- The two leaders the other way round. -/
def twoLeadersReversed : Leaders :=
  ⟨["ctrl+x", "alt+x"], by decide, by decide +kernel⟩

/-- A keymap with a rule under both spellings of a chord and another chord between them. -/
def interposed : Keymap where
  table := Table.added ∅
    [("alt+x alt+a", ⟨.always, .run (.invoke "save" .null)⟩),
      ("alt+x aa", ⟨.always, .run (.invoke "saveAll" .null)⟩),
      ("alt+x a", ⟨.always, .run (.invoke "save" .null)⟩)]

private theorem compile_interposed :
    ∃ records, (interposed.compile twoLeaders).result = .ok records ∧
      records.map Entry.identity =
        [⟨"alt+x a", "", "save", ""⟩, ⟨"alt+x alt+a", "", "save", ""⟩,
          ⟨"alt+x aa", "", "saveAll", ""⟩, ⟨"alt+x alt+aa", "", "saveAll", ""⟩] := by
  apply exists_records_of_identities
  simp only [result_compile, Table.linearize_result, Linear.moves_eq_flatMap, Linear.lines,
    ascending_eq_insertionSort]
  decide +kernel

private theorem compile_interposed_unled :
    ∃ records, (interposed.compile controlLeader).result = .ok records ∧
      records.map Entry.identity =
        [⟨"alt+x a", "", "save", ""⟩, ⟨"alt+x aa", "", "saveAll", ""⟩,
          ⟨"alt+x alt+a", "", "save", ""⟩] := by
  apply exists_records_of_identities
  simp only [result_compile, Table.linearize_result, Linear.moves_eq_flatMap, Linear.lines,
    ascending_eq_insertionSort]
  decide +kernel

/-- With the leader `alt+x` the second spelling comes in front of the chord that is between the two
without it, so only the sets of identities are nested. -/
theorem compile_interposed_leaders :
    Leaders.ofList ["ctrl+x"] = .ok controlLeader ∧
      Leaders.ofList ["alt+x", "ctrl+x", "alt+x"] = .ok twoLeaders ∧
      Leaders.ofList ["ctrl+x", "alt+x"] = .ok twoLeadersReversed ∧
      (∃ records fewer, (interposed.compile twoLeaders).result = .ok records ∧
        (interposed.compile controlLeader).result = .ok fewer ∧
        fewer.map Entry.identity ⊆ records.map Entry.identity ∧ ¬ fewer.Sublist records) ∧
      interposed.compile twoLeaders = interposed.compile twoLeadersReversed := by
  have one : Leaders.ofList ["ctrl+x"] = .ok controlLeader := rfl
  have two : Leaders.ofList ["alt+x", "ctrl+x", "alt+x"] = .ok twoLeaders := rfl
  have reversed : Leaders.ofList ["ctrl+x", "alt+x"] = .ok twoLeadersReversed := rfl
  refine ⟨one, two, reversed, ?_, ?_⟩
  · obtain ⟨records, compiled, listed⟩ := compile_interposed
    obtain ⟨fewer, uncompiled, unled⟩ := compile_interposed_unled
    obtain ⟨others, again, inside⟩ :=
      (compile_leaders one two (by decide) interposed).1 records compiled
    obtain rfl : others = fewer := Except.ok.inj (again.symm.trans uncompiled)
    refine ⟨records, others, compiled, again, inside, fun nested => ?_⟩
    have names := nested.map Entry.identity
    rw [listed, unled] at names
    exact absurd names (by decide)
  · exact (compile_leaders two reversed (by decide) interposed).2 (by decide)

end Keymap

end KeyChords
