import KeyChords.Proofs.Order.Firsts
import KeyChords.Proofs.Table.Soundness

/-! # Layered rules

One dictionary over another gives each of its keys the value that it has there, and leaves the keys
in the order in which they came first (`KeyChords.Dict.get?_overlay`,
`KeyChords.Dict.keys_overlay`). The rules of a sound table are such a dictionary: under each slot
the condition that is stored there with the action. Layering the table lays its rules over what is
there, without a fault (`KeyChords.Table.Sound.layerTable`). A table that is made of rules has their
chords, and each chord the lines of its rules, in the order in which they came first.
-/

namespace KeyChords

namespace Dict

variable {κ ν : Type} [DecidableEq κ] {lower upper : Dict κ ν} {key : κ}

/-- One dictionary over another. -/
def overlay (lower upper : Dict κ ν) : Dict κ ν :=
  upper.foldl (fun held row => held.put row.1 row.2) lower

/-- The keys after an update, as the distinct ones in the order in which they came first. -/
theorem keys_update_eq_firsts (distinct : lower.keys.Nodup) (key : κ) (change : Option ν → ν) :
    (lower.update key change).keys = firsts (lower.keys ++ [key]) := by
  rw [keys_update]
  by_cases known : key ∈ lower.keys
  · rw [if_pos known, firsts_concat_of_mem known, firsts_of_nodup distinct]
  · rw [if_neg known, firsts_concat_of_not_mem known, firsts_of_nodup distinct]

/-- **The keys of an overlay** stand in the order in which they came first. -/
theorem keys_overlay (distinct : lower.keys.Nodup) (upper : Dict κ ν) :
    (overlay lower upper).keys = firsts (lower.keys ++ upper.keys) := by
  induction upper generalizing lower with
  | nil => rw [keys_nil, List.append_nil, firsts_of_nodup distinct]; rfl
  | cons row rest ih =>
      have further : (lower.put row.1 row.2).keys.Nodup := nodup_keys_update distinct
      rw [overlay, List.foldl_cons, ← overlay, ih further, put, keys_update_eq_firsts distinct,
        firsts_firsts_append, List.append_assoc]
      rfl

/-- **The value of a key in an overlay** is that of the upper dictionary, if it has one. -/
theorem get?_overlay (distinct : upper.keys.Nodup) (lower : Dict κ ν) :
    (overlay lower upper).get? key = (upper.get? key).or (lower.get? key) := by
  induction upper generalizing lower with
  | nil => rfl
  | cons row rest ih =>
      obtain ⟨fresh, restDistinct⟩ := List.nodup_cons.mp distinct
      rw [overlay, List.foldl_cons, ← overlay, ih restDistinct, put, get?_update, get?_cons]
      by_cases same : key = row.1
      · rw [if_pos same, if_pos same, same, get?_eq_none_iff.mpr fresh, Option.none_or,
          Option.some_or]
      · rw [if_neg same, if_neg same]

end Dict

namespace Table

variable {table : Table} {chord line : String} {rule : Rule} {layers : Layers}
  {taken : String × String}

/-! ## The rules of a table -/

/-- The rule in a slot: the condition that is stored there and the action. -/
def rule? (table : Table) (slot : String × String) : Option Rule := do
  let condition ← table.conditions.get? slot
  let action ← table.find? slot.1 slot.2
  return ⟨condition, action⟩

/-- The rules of a table, each under its slot. -/
def rules (table : Table) : Layers :=
  table.slots.filterMap fun slot => (table.rule? slot).map (slot, ·)

/-- The rule of a slot joins the condition and the action that are held for it. -/
theorem rule?_eq_some_iff :
    table.rule? taken = some rule ↔
      table.conditions.get? taken = some rule.condition ∧
        table.find? taken.1 taken.2 = some rule.action := by
  obtain ⟨condition, action⟩ := rule
  rw [rule?]
  cases table.conditions.get? taken with
  | none => simp
  | some stored =>
      cases table.find? taken.1 taken.2 with
      | none => simp
      | some found => simp

/-- Adding a rule changes the rule of its slot alone. -/
theorem slotWise_rule? : SlotWise rule? id := by
  intro table chord rule taken
  have stored := slotWise_conditions table chord rule taken
  have found := slotWise_find? table chord rule taken
  by_cases same : taken = (chord, rule.when)
  · rw [if_pos same] at stored found ⊢
    exact rule?_eq_some_iff.mpr ⟨stored, found⟩
  · rw [if_neg same] at stored found ⊢
    dsimp only at stored found
    rw [rule?, stored, found, rule?]

/-- In a sound table the action of a slot has its condition beside it. -/
theorem Sound.exists_rule (sound : table.Sound) {action : Action}
    (found : table.find? chord line = some action) :
    ∃ condition, table.rule? (chord, line) = some ⟨condition, action⟩ := by
  have stored := (sound.stored chord line).mpr (by rw [found]; rfl)
  obtain ⟨condition, held⟩ := Dict.exists_of_mem_keys stored
  exact ⟨condition, rule?_eq_some_iff.mpr ⟨held, found⟩⟩

/-- **In a sound table the actions are those of its rules.** -/
theorem Sound.find?_eq (sound : table.Sound) (chord line : String) :
    table.find? chord line = (table.rule? (chord, line)).map Rule.action := by
  ext action
  rw [Option.map_eq_some_iff]
  constructor
  · intro found
    obtain ⟨condition, rule⟩ := sound.exists_rule found
    exact ⟨_, rule, rfl⟩
  · rintro ⟨rule, found, rfl⟩
    exact (rule?_eq_some_iff.mp found).2

/-- **In a sound table the stored conditions are those of its rules.** -/
theorem Sound.get?_conditions (sound : table.Sound) (taken : String × String) :
    table.conditions.get? taken = (table.rule? taken).map Rule.condition := by
  ext condition
  rw [Option.map_eq_some_iff]
  constructor
  · intro stored
    have taken := (sound.stored taken.1 taken.2).mp (Dict.isSome_get?_iff.mp (by rw [stored]; rfl))
    obtain ⟨action, found⟩ := Option.isSome_iff_exists.mp taken
    exact ⟨⟨condition, action⟩, rule?_eq_some_iff.mpr ⟨stored, found⟩, rfl⟩
  · rintro ⟨rule, found, rfl⟩
    exact (rule?_eq_some_iff.mp found).1

/-- A sound table has a rule for each of its slots, and for no other. -/
theorem Sound.isSome_rule?_iff (sound : table.Sound) :
    (table.rule? taken).isSome = true ↔ taken ∈ table.slots := by
  rw [← Prod.mk.eta (p := taken), sound.mem_slots_iff, sound.find?_eq, Option.isSome_map]

/-- In a sound table a rule stands under the line of its condition. -/
theorem Sound.when_of_rule? (sound : table.Sound) (found : table.rule? taken = some rule) :
    rule.when = taken.2 :=
  sound.spelled _ (Dict.mem_of_get? (rule?_eq_some_iff.mp found).1)

/-- The rules of a sound table are listed slot by slot. -/
theorem Sound.keys_rules (sound : table.Sound) : table.rules.keys = table.slots := by
  have every : ∀ slot ∈ table.slots,
      ((table.rule? slot).map (slot, ·)).map Prod.fst = some slot := by
    intro slot member
    obtain ⟨rule, found⟩ := Option.isSome_iff_exists.mp (sound.isSome_rule?_iff.mpr member)
    rw [found]
    rfl
  rw [Dict.keys, rules, List.map_filterMap, List.filterMap_congr every, List.filterMap_some]

/-- **The rules of a sound table** are found under their slots. -/
theorem Sound.get?_rules (sound : table.Sound) (taken : String × String) :
    table.rules.get? taken = table.rule? taken := by
  have distinct : table.rules.keys.Nodup := sound.keys_rules ▸ sound.nodup_slots
  ext rule
  rw [Dict.get?_eq_some_iff distinct, rules, List.mem_filterMap]
  constructor
  · rintro ⟨slot, -, listed⟩
    obtain ⟨held, found, same⟩ := Option.map_eq_some_iff.mp listed
    obtain ⟨rfl, rfl⟩ := Prod.mk.inj same
    exact found
  · intro found
    refine ⟨taken, sound.isSome_rule?_iff.mp ?_, ?_⟩
    · rw [found]
      rfl
    · rw [found]
      rfl

/-! ## Layering tables -/

/-- A binding whose rule the table has is layered over the others with that rule. -/
theorem layer_of_rule? {binding : Binding} (found : table.rule? (chord, binding.when) = some rule)
    (layers : Layers) :
    (table.layer layers chord binding).fault = none ∧
      (table.layer layers chord binding).state =
        layers.put (chord, binding.when) ⟨rule.condition, binding.action⟩ := by
  have stored : table.condition chord binding.when = .ok rule.condition := by
    rw [Table.condition, (rule?_eq_some_iff.mp found).1]
  simp only [layer, Progress.andThen, Progress.done, stored, and_self]

/-- **Layering a sound table** lays its rules over the others. -/
theorem Sound.layerTable (sound : table.Sound) (layers : Layers) :
    (Table.layerTable layers table).fault = none ∧
      (Table.layerTable layers table).state = Dict.overlay layers table.rules := by
  have each (items : List (String × Binding)) (among : ∀ item ∈ items, item ∈ table.items)
      (layers : Layers) :
      let step := fun (layers : Layers) (item : String × Binding) =>
        table.layer layers item.1 item.2
      let held := (items.map fun item => (item.1, item.2.when)).filterMap fun slot =>
        (table.rule? slot).map (slot, ·)
      (Progress.each step layers items).fault = none ∧
        (Progress.each step layers items).state = Dict.overlay layers held := by
    intro step held
    induction items generalizing layers with
    | nil => exact ⟨rfl, rfl⟩
    | cons item rest ih =>
        obtain ⟨chord, binding⟩ := item
        have bound := sound.mem_items_iff.mp (among _ List.mem_cons_self)
        have found : table.find? chord binding.when = some binding.action :=
          (Dict.get?_eq_some_iff (sound.nodup_lines chord)).mpr (mem_bindings_iff.mp bound)
        obtain ⟨condition, rule⟩ := sound.exists_rule found
        obtain ⟨quiet, state⟩ := layer_of_rule? rule layers
        have further := ih (fun other later => among other (List.mem_cons_of_mem _ later))
          (table.layer layers chord binding).state
        rw [Progress.each, Progress.fault_andThen_of_none quiet,
          Progress.state_andThen_of_none quiet]
        refine ⟨further.1, further.2.trans ?_⟩
        rw [state]
        simp only [held, List.map_cons, List.filterMap_cons, rule, Option.map_some]
        rfl
  exact each table.items (fun _ member => member) layers

/-! ## Tables made of rules -/

private theorem chords_add (apart : table.chords.Nodup) (chord : String) (rule : Rule) :
    (table.add chord rule).chords = firsts (table.chords ++ [chord]) :=
  Dict.keys_update_eq_firsts apart chord _

/-- **The chords of added rules** come in the order in which they came first. -/
theorem chords_added (apart : table.chords.Nodup) (rules : List (String × Rule)) :
    (table.added rules).chords = firsts (table.chords ++ rules.map Prod.fst) := by
  induction rules using List.reverseRecOn with
  | nil => rw [List.map_nil, List.append_nil, firsts_of_nodup apart]; rfl
  | append_singleton rules rule ih =>
      have distinct : (table.added rules).chords.Nodup := by
        rw [ih]
        exact nodup_firsts _
      rw [added_concat, chords_add distinct, ih, firsts_firsts_append, List.map_append,
        List.append_assoc, List.map_singleton]

/-- The lines that rules give a chord are those of its slots. -/
theorem map_when_given (rules : List (String × Rule)) (chord : String) :
    (given rules chord).map Binding.when =
      ((rules.map slot).filter fun taken => taken.1 = chord).map Prod.snd := by
  have same : (fun rule : String × Rule => decide (chord = rule.1)) =
      (fun taken : String × String => decide (taken.1 = chord)) ∘ slot := by
    funext rule
    exact decide_eq_decide.mpr eq_comm
  rw [given, List.filter_map, ← same, List.map_map, List.map_map]
  rfl

/-- **Layers that spell their lines**: each rule stands under the line of its condition. -/
def Spelled (layers : Layers) : Prop :=
  ∀ row ∈ layers, row.2.when = row.1.2

/-- The slots of the layered rules are those of the layers. -/
theorem Spelled.slots (spelled : Spelled layers) :
    (layeredRules layers).map slot = layers.keys := by
  rw [layeredRules, List.map_map]
  refine List.map_congr_left fun row member => ?_
  exact Prod.ext rfl (spelled row member)

/-- **A table made of layers** has their rules. -/
theorem Spelled.rule?_added (spelled : Spelled layers) (distinct : layers.keys.Nodup)
    (taken : String × String) :
    (added ∅ (layeredRules layers)).rule? taken = layers.get? taken := by
  cases found : layers.get? taken with
  | none =>
      have other : taken ∉ (layeredRules layers).map slot := by
        rw [spelled.slots]
        exact Dict.get?_eq_none_iff.mp found
      exact slotWise_rule?.added_of_not_mem other
  | some rule =>
      have row := Dict.mem_of_get? found
      have own : slot (taken.1, rule) = taken := Prod.ext rfl (spelled _ row)
      have held : rule? (added ∅ (layeredRules layers)) (slot (taken.1, rule)) = some rule :=
        slotWise_rule?.added_of_mem (spelled.slots ▸ distinct) (List.mem_map_of_mem row)
      exact own ▸ held

end Table

end KeyChords
