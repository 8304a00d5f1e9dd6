import Mathlib.Data.Finset.Card
import KeyChords.Expansion
import KeyChords.Proofs.Table.Registration

/-! # Sound tables

In a sound table every chord names a key and has a row of its own, no row is empty, and no row has
two slots under one line. The conditions that are kept beside the rows are those of exactly the
slots, and each spells the line of its slot (`KeyChords.Table.Sound`). Taking a free slot keeps a
table sound, and so does everything that is done by binding chords, however far it gets. The items
of a sound table are its slots, each listed once.
-/

namespace KeyChords

namespace Table

/-- **A sound table.** -/
structure Sound (table : Table) : Prop where
  apart : table.chords.Nodup
  named : ∀ chord ∈ table.chords, chord ≠ ""
  filled : ∀ row ∈ table.entries, row.2 ≠ []
  distinct : ∀ row ∈ table.entries, row.2.keys.Nodup
  single : table.conditions.keys.Nodup
  stored : ∀ chord line,
    (chord, line) ∈ table.conditions.keys ↔ (table.find? chord line).isSome = true
  spelled : ∀ row ∈ table.conditions, row.2.text = row.1.2

/-- The empty table is sound. -/
theorem sound_empty : Sound ∅ where
  apart := List.nodup_nil
  named _ member := absurd member List.not_mem_nil
  filled _ member := absurd member List.not_mem_nil
  distinct _ member := absurd member List.not_mem_nil
  single := List.nodup_nil
  stored _ _ := ⟨fun member => absurd member List.not_mem_nil, fun found => nomatch found⟩
  spelled _ member := absurd member List.not_mem_nil

variable {table : Table} {chord line : String} {rule : Rule} {kind : Violation.Kind}

/-! ## Binding a chord -/

/-- In a sound table a row holds the slots of its chord. -/
theorem Sound.lookup_of_mem (sound : table.Sound) {row : Dict String Action}
    (member : (chord, row) ∈ table.entries) : table.lookup chord = row := by
  rw [lookup, (Dict.get?_eq_some_iff sound.apart).mpr member, Option.getD_some]

/-- In a sound table no chord has two slots under one line. -/
theorem Sound.nodup_lines (sound : table.Sound) (chord : String) :
    (table.lookup chord).keys.Nodup := by
  cases found : table.entries.get? chord with
  | none =>
    rw [lookup, found]
    exact List.nodup_nil
  | some row =>
    have member := Dict.mem_of_get? found
    rw [sound.lookup_of_mem member]
    exact sound.distinct _ member

/-- **Taking a free slot under a key keeps a table sound.** -/
theorem Sound.add (sound : table.Sound) (named : chord ≠ "") :
    (table.add chord rule).Sound where
  apart := Dict.nodup_keys_update sound.apart
  named other member := by
    rcases mem_chords_add.mp member with old | rfl
    · exact sound.named other old
    · exact named
  filled row member := by
    rcases Dict.mem_update member with rfl | old
    · exact Dict.update_ne_nil
    · exact sound.filled row old
  distinct row member := by
    rcases Dict.mem_update member with rfl | old
    · exact Dict.nodup_keys_update (sound.nodup_lines chord)
    · exact sound.distinct row old
  single := Dict.nodup_keys_update sound.single
  stored asked line := by
    have keys : (asked, line) ∈ (table.add chord rule).conditions.keys ↔
        (asked, line) = (chord, rule.when) ∨ (asked, line) ∈ table.conditions.keys :=
      Dict.mem_keys_update
    rw [keys, sound.stored, Prod.mk.injEq, find?_add]
    by_cases here : asked = chord ∧ line = rule.when
    · simp [here]
    · simp [here]
  spelled row member := by
    rcases Dict.mem_update member with rfl | old
    · rfl
    · exact sound.spelled row old

/-- **Binding a chord keeps a table sound**, whether the rule is taken or refused. -/
theorem Sound.bind (sound : table.Sound) (chord : String) (rule : Rule) (kind : Violation.Kind) :
    (table.bind chord rule kind).state.Sound := by
  rcases bind_cases table chord rule kind with ⟨-, stopped⟩ | ⟨_, -, -, stopped⟩ |
    ⟨_, named, -, -, done⟩ | ⟨_, named, -, -, stopped⟩
  · rw [stopped]
    exact sound
  · rw [stopped]
    exact sound
  · rw [done]
    exact sound.add named
  · rw [stopped]
    exact sound.add named

/-- **What registering a rule comes down to**: it is refused as it stands, or its chord is bound. -/
theorem register_cases (table : Table) (chord : String) (condition action : Draft)
    (kind : Violation.Kind) :
    (∃ fault, table.register chord condition action kind = .stopped table fault) ∨
      ∃ rule, action.toAction = .ok rule.action ∧ condition.toCondition = .ok rule.condition ∧
        table.register chord condition action kind = table.bind chord rule kind := by
  by_cases blank : chord = ""
  · exact Or.inl ⟨.emptyChord, by rw [register, if_pos blank]⟩
  cases acted : action.toAction with
  | error fault => exact Or.inl ⟨fault, by simp only [register, if_neg blank, acted]⟩
  | ok action =>
      cases formed : condition.toCondition with
      | error fault => exact Or.inl ⟨fault, by simp only [register, if_neg blank, acted, formed]⟩
      | ok condition =>
          refine Or.inr ⟨⟨condition, action⟩, rfl, rfl, ?_⟩
          simp only [bind_of_named blank, register, if_neg blank, acted, formed]

/-- A registration keeps a table sound, also when it is refused. -/
theorem Sound.register (sound : table.Sound) (chord : String) (condition action : Draft)
    (kind : Violation.Kind) : (table.register chord condition action kind).state.Sound := by
  rcases register_cases table chord condition action kind with ⟨_, stopped⟩ | ⟨rule, -, -, bound⟩
  · rw [stopped]
    exact sound
  · rw [bound]
    exact sound.bind chord rule kind

/-- Several registrations keep a table sound. -/
theorem Sound.registerAll (sound : table.Sound) (chord : String) (pairs : List (Draft × Draft)) :
    (table.registerAll chord pairs).state.Sound :=
  Progress.each_keeps _ Sound (fun _ pair kept => kept.register chord pair.1 pair.2 _) pairs sound

/-- Binding several rules keeps a table sound. -/
theorem Sound.bindAll (sound : table.Sound) (rules : List (String × Rule)) :
    (table.bindAll rules).state.Sound :=
  Progress.each_keeps _ Sound (fun _ rule kept => kept.bind rule.1 rule.2 _) rules sound

/-- What tables are merged into is sound. -/
theorem sound_of_merge {tables : List Table} {merged : Table}
    (made : (merge tables).result = .ok merged) : merged.Sound := by
  rw [merge, Report.result_bind] at made
  obtain ⟨layers, -, bound⟩ := exists_of_bind_eq_ok made
  rw [← Progress.state_of_toReport bound]
  exact sound_empty.bindAll _

/-- The next rule of an expansion keeps a table sound. -/
theorem Sound.bindNext (sound : table.Sound) (expansion : Expansion) (count : Nat)
    (rule : String × Action) : (expansion.bindNext (table, count) rule).state.1.Sound := by
  have kept := sound.register rule.1 expansion.condition (.action rule.2) .expansionCollision
  unfold Expansion.bindNext Progress.map Progress.andThen
  dsimp only
  split
  · exact kept
  · exact kept

/-- A typing expansion keeps a table sound, however far it gets. -/
theorem Sound.expand (sound : table.Sound) (expansion : Expansion) :
    (expansion.apply table).state.1.Sound := by
  unfold Expansion.apply
  cases expansion.rules with
  | error fault => exact sound
  | ok rules =>
      have reached : (Progress.each expansion.bindNext (table, 0) rules).state.1.Sound :=
        Progress.each_keeps _ (fun filled : Table × Nat => filled.1.Sound)
          (fun filled rule kept => kept.bindNext expansion filled.2 rule) rules sound
      dsimp only
      cases outcome : (Progress.each expansion.bindNext (table, 0) rules).fault with
      | some fault =>
          rw [Progress.andThen_of_some outcome]
          exact reached
      | none =>
          rw [Progress.state_andThen_of_none outcome]
          unfold Expansion.finish
          cases expansion.condition.conditionText with
          | error fault => exact reached
          | ok line => exact reached

/-! ## Items -/

/-- The slots of a table, in order. -/
def slots (table : Table) : List (String × String) :=
  table.items.map fun (chord, binding) => (chord, binding.when)

/-- **The items of a sound table are the bindings of its chords.** -/
theorem Sound.mem_items_iff (sound : table.Sound) {binding : Binding} :
    (chord, binding) ∈ table.items ↔ binding ∈ table.bindings chord := by
  rw [items, List.mem_flatMap]
  constructor
  · rintro ⟨⟨other, row⟩, member, inside⟩
    obtain ⟨_, among, same⟩ := List.mem_map.mp inside
    obtain ⟨rfl, rfl⟩ := Prod.mk.inj same
    rwa [bindings, sound.lookup_of_mem member]
  · intro bound
    obtain ⟨row, found, inside⟩ := Dict.exists_row_of_mem (mem_bindings_iff.mp bound)
    exact ⟨(chord, row), Dict.mem_of_get? found,
      List.mem_map_of_mem (List.mem_map.mpr ⟨_, inside, rfl⟩)⟩

/-- The slots of a table, row by row. -/
theorem slots_eq_flatMap (table : Table) :
    table.slots = table.entries.flatMap fun row => row.2.keys.map (row.1, ·) := by
  rw [slots, items, List.map_flatMap]
  refine List.flatMap_congr fun row _ => ?_
  simp only [rowBindings, Dict.keys, List.map_map]
  rfl

/-- **The slots of a sound table are listed once each.** -/
theorem Sound.nodup_slots (sound : table.Sound) : table.slots.Nodup := by
  rw [slots_eq_flatMap, List.nodup_flatMap]
  refine ⟨fun row member => ?_, ?_⟩
  · exact (sound.distinct row member).map fun _ _ same => (Prod.mk.inj same).2
  · refine (List.pairwise_map.mp sound.apart).imp ?_
    intro first second differ pair inFirst inSecond
    obtain ⟨_, -, rfl⟩ := List.mem_map.mp inFirst
    obtain ⟨_, -, same⟩ := List.mem_map.mp inSecond
    exact differ (Prod.mk.inj same).1.symm

/-- The slots of a sound table are those that hold an action. -/
theorem Sound.mem_slots_iff (sound : table.Sound) :
    (chord, line) ∈ table.slots ↔ (table.find? chord line).isSome = true := by
  rw [isSome_find?_iff, slots, List.mem_map]
  constructor
  · rintro ⟨⟨other, held⟩, member, same⟩
    obtain ⟨rfl, rfl⟩ := Prod.mk.inj same
    exact ⟨held, sound.mem_items_iff.mp member, rfl⟩
  · rintro ⟨held, bound, rfl⟩
    exact ⟨(chord, held), sound.mem_items_iff.mpr bound, rfl⟩

/-- Taking a free slot adds one item. -/
theorem items_add (free : table.find? chord rule.when = none) :
    (table.add chord rule).items.Perm (table.items ++ [(chord, rule.binding)]) := by
  obtain ⟨entries, conditions⟩ := table
  simp only [find?, lookup] at free
  unfold items add
  induction entries with
  | nil => exact List.Perm.refl _
  | cons row rest ih =>
      rw [Dict.get?_cons] at free
      dsimp only at ih ⊢
      rw [Dict.update_cons]
      by_cases same : row.1 = chord
      · rw [if_pos same.symm, Option.getD_some] at free
        rw [if_pos same, List.flatMap_cons, List.flatMap_cons, List.append_assoc]
        have grown : (row.2.put rule.when rule.action) = row.2 ++ [(rule.when, rule.action)] :=
          Dict.update_of_not_mem (Dict.get?_eq_none_iff.mp free)
        simp only [Option.getD_some, grown, rowBindings, List.map_append, List.map_singleton,
          List.append_assoc, ← same]
        exact List.perm_append_comm.append_left _
      · rw [if_neg (Ne.symm same)] at free
        rw [if_neg same, List.flatMap_cons, List.flatMap_cons, List.append_assoc]
        exact (ih free).append_left _

/-- Rules that fit are added to the items. -/
theorem Fits.items_added {rules : List (String × Rule)} (fits : table.Fits rules) :
    (table.added rules).items.Perm
      (table.items ++ rules.map fun (chord, rule) => (chord, rule.binding)) := by
  induction rules using List.reverseRecOn with
  | nil =>
      rw [List.map_nil, List.append_nil]
      exact List.Perm.refl _
  | append_singleton rules rule ih =>
      have before := fits.of_append
      rw [added_concat, List.map_append, ← List.append_assoc]
      exact (items_add ((fits_concat_iff before).mp fits)).trans ((ih before).append_right _)

/-! ## Looking slots up -/

end Table

end KeyChords
