import KeyChords.Proofs.Table.History
import KeyChords.Proofs.Table.Layering

/-! # Merged tables

Merging lays the rules of tables over each other and binds what is left chord by chord. What comes
of it is the overlay of the tables (`KeyChords.Table.IsOverlay`): each slot has the rule of the last
table that has it, and the chords and the lines of each chord come in the order in which they came
first. A sound table is told by these three things up to the order in which it stores its conditions
(`KeyChords.Table.Sound.same`), and an overlay of overlays is the overlay of all tables below. So
tables that histories lead to form a monoid under merging (`KeyChords.Table.merge_overlays`).

Merging fails when the last table that has a slot has an action there that has no title, and for no
other reason (`KeyChords.Table.exists_merge_iff`).
-/

namespace KeyChords

namespace Table

variable {chord line : String} {table merged other : Table} {tables : List Table}
  {taken : String × String}

/-! ## Sound tables -/

/-- The lines under which a chord is bound, in order. -/
def lines (table : Table) (chord : String) : List String :=
  (table.lookup chord).keys

/-- The lines of a chord are those of its slots. -/
theorem Sound.filter_slots (sound : table.Sound) (chord : String) :
    (table.slots.filter fun slot => slot.1 = chord).map Prod.snd = table.lines chord := by
  have ofRows (rows : Dict String (Dict String Action)) (apart : rows.keys.Nodup) :
      ((rows.flatMap fun row => row.2.keys.map (row.1, ·)).filter
        fun slot => slot.1 = chord).map Prod.snd = ((rows.get? chord).getD []).keys := by
    induction rows with
    | nil => rfl
    | cons row rest ih =>
        obtain ⟨fresh, restApart⟩ := List.nodup_cons.mp apart
        rw [List.flatMap_cons, List.filter_append, List.map_append, ih restApart, Dict.get?_cons,
          List.filter_map, List.map_map]
        by_cases same : chord = row.1
        · subst same
          rw [if_pos rfl, Dict.get?_eq_none_iff.mpr fresh]
          simp [Function.comp_def]
        · rw [if_neg same]
          simp [Function.comp_def, Ne.symm same]
  rw [slots_eq_flatMap]
  exact ofRows table.entries sound.apart

/-- The slots of a sound table name its chords, each at least once. -/
theorem Sound.firsts_slots (sound : table.Sound) :
    firsts (table.slots.map Prod.fst) = firsts table.chords := by
  have names : table.chords = table.entries.flatMap fun row => [row.1] := by
    rw [chords, Dict.keys, List.map_eq_flatMap]
  rw [names, slots_eq_flatMap, List.map_flatMap]
  refine firsts_flatMap_congr fun row member => ?_
  obtain ⟨first, rest, cons⟩ := List.exists_cons_of_ne_nil (sound.filled row member)
  rw [cons, List.map_map, Dict.keys_cons, List.map_cons, ← List.singleton_append]
  refine firsts_append_of_subset fun name inside => ?_
  obtain ⟨_, -, rfl⟩ := List.mem_map.mp inside
  exact List.mem_singleton_self _

/-- **Two tables are the same**: they bind the same chords in the same slots in the same order, and
store the same conditions. -/
structure Same (table other : Table) : Prop where
  entries : table.entries = other.entries
  conditions : ∀ taken, table.conditions.get? taken = other.conditions.get? taken

private theorem Sound.entries_eq (sound : table.Sound) :
    table.entries = table.chords.map fun chord => (chord, table.lookup chord) := by
  rw [chords, Dict.keys, List.map_map]
  have same : ∀ row ∈ table.entries,
      ((fun chord => (chord, table.lookup chord)) ∘ Prod.fst) row = row := by
    rintro ⟨chord, row⟩ member
    rw [Function.comp_apply, sound.lookup_of_mem member]
  rw [List.map_congr_left same, List.map_id']

/-- **What a sound table is told by**: its chords, their lines, and the rule of each slot. -/
theorem Sound.same (sound : table.Sound) (otherSound : other.Sound)
    (chords : table.chords = other.chords)
    (lines : ∀ chord, table.lines chord = other.lines chord)
    (held : ∀ taken, table.rule? taken = other.rule? taken) : table.Same other where
  entries := by
    have rows (chord : String) : table.lookup chord = other.lookup chord := by
      refine Dict.ext (sound.nodup_lines chord) (lines chord) fun line => ?_
      change table.find? chord line = other.find? chord line
      rw [sound.find?_eq, otherSound.find?_eq, held]
    rw [sound.entries_eq, otherSound.entries_eq, chords, funext rows]
  conditions taken := by
    rw [sound.get?_conditions, otherSound.get?_conditions, held]

/-! ## Overlays -/

/-- The rule in a slot of the last table that has it. -/
def topmost (tables : List Table) (taken : String × String) : Option Rule :=
  (tables.filterMap fun table => table.rule? taken).getLast?

/-- The rules of tables over each other. -/
def overlaid (tables : List Table) : Layers :=
  tables.foldl (fun layers table => Dict.overlay layers table.rules) []

private theorem overlaid_concat (tables : List Table) (table : Table) :
    overlaid (tables ++ [table]) = Dict.overlay (overlaid tables) table.rules :=
  List.foldl_append

/-- The slots of overlaid tables stand in the order in which they came first. -/
theorem keys_overlaid (sound : ∀ table ∈ tables, table.Sound) :
    (overlaid tables).keys = firsts (tables.flatMap slots) := by
  induction tables using List.reverseRecOn with
  | nil => rfl
  | append_singleton tables table ih =>
      obtain ⟨below, last⟩ := List.forall_mem_append.mp sound
      have distinct : (overlaid tables).keys.Nodup := ih below ▸ nodup_firsts _
      rw [overlaid_concat, Dict.keys_overlay distinct, ih below,
        (List.forall_mem_singleton.mp last).keys_rules, firsts_firsts_append, List.flatMap_append,
        List.flatMap_singleton]

/-- **A slot of overlaid tables** has the rule of the last table that has it. -/
theorem get?_overlaid (sound : ∀ table ∈ tables, table.Sound) (taken : String × String) :
    (overlaid tables).get? taken = topmost tables taken := by
  induction tables using List.reverseRecOn with
  | nil => rfl
  | append_singleton tables table ih =>
      obtain ⟨below, last⟩ := List.forall_mem_append.mp sound
      have kept : table.Sound := List.forall_mem_singleton.mp last
      have distinct : table.rules.keys.Nodup := kept.keys_rules ▸ kept.nodup_slots
      rw [overlaid_concat, Dict.get?_overlay distinct, kept.get?_rules, ih below, topmost, topmost,
        List.filterMap_append, List.getLast?_append]
      cases found : table.rule? taken <;> simp [found]

/-- The last action that tables have in a slot is that of their topmost rule. -/
theorem getLast?_find? (sound : ∀ table ∈ tables, table.Sound) (chord line : String) :
    (tables.filterMap fun table => table.find? chord line).getLast? =
      (topmost tables (chord, line)).map Rule.action := by
  have each : ∀ table ∈ tables, table.find? chord line =
      (table.rule? (chord, line)).map Rule.action := fun table member =>
    (sound table member).find?_eq chord line
  rw [topmost, List.filterMap_congr each, ← List.map_filterMap, List.getLast?_map]

/-- The last condition that tables store for a slot is that of their topmost rule. -/
theorem getLast?_conditions (sound : ∀ table ∈ tables, table.Sound) (taken : String × String) :
    (tables.filterMap fun table => table.conditions.get? taken).getLast? =
      (topmost tables taken).map Rule.condition := by
  have each : ∀ table ∈ tables, table.conditions.get? taken =
      (table.rule? taken).map Rule.condition := fun table member =>
    (sound table member).get?_conditions taken
  rw [topmost, List.filterMap_congr each, ← List.map_filterMap, List.getLast?_map]

private theorem nodup_keys_overlaid (sound : ∀ table ∈ tables, table.Sound) :
    (overlaid tables).keys.Nodup := by
  rw [keys_overlaid sound]
  exact nodup_firsts _

/-- The topmost rule of a slot is the rule of one of the tables. -/
theorem exists_of_topmost {rule : Rule} (found : topmost tables taken = some rule) :
    ∃ table ∈ tables, table.rule? taken = some rule :=
  List.mem_filterMap.mp (List.mem_of_getLast? found)

private theorem spelled_overlaid (sound : ∀ table ∈ tables, table.Sound) :
    Spelled (overlaid tables) := by
  intro row member
  have found := (Dict.get?_eq_some_iff (nodup_keys_overlaid sound)).mpr member
  rw [get?_overlaid sound] at found
  obtain ⟨table, among, held⟩ := exists_of_topmost found
  exact (sound table among).when_of_rule? held

/-- **A table is the overlay of tables**, from the first one up to the last. -/
structure IsOverlay (tables : List Table) (merged : Table) : Prop where
  sound : merged.Sound
  chords : merged.chords = firsts (tables.flatMap Table.chords)
  lines : ∀ chord, merged.lines chord = firsts (tables.flatMap fun table => table.lines chord)
  held : ∀ taken, merged.rule? taken = topmost tables taken

/-- Tables have at most one overlay. -/
theorem IsOverlay.unique (one : IsOverlay tables merged) (two : IsOverlay tables other) :
    merged.Same other := by
  refine one.sound.same two.sound (one.chords.trans two.chords.symm) (fun chord => ?_)
    fun taken => ?_
  · rw [one.lines, two.lines]
  · rw [one.held, two.held]

/-- A table that has the topmost rules of others may stand for them. -/
theorem topmost_flatten {below front back : List Table}
    (held : ∀ taken, table.rule? taken = topmost below taken) (taken : String × String) :
    topmost (front ++ table :: back) taken = topmost (front ++ (below ++ back)) taken := by
  have inner := held taken
  rw [topmost] at inner
  rw [topmost, topmost, List.append_cons]
  simp only [List.filterMap_append, List.getLast?_append, ← inner]
  cases found : table.rule? taken <;> simp [found]

/-- **An overlay that is merged with further tables** counts as the tables below it. -/
theorem IsOverlay.flatten {below front back : List Table} (inner : IsOverlay below table)
    (outer : IsOverlay (front ++ table :: back) merged) :
    IsOverlay (front ++ (below ++ back)) merged where
  sound := outer.sound
  chords := by
    rw [outer.chords, List.flatMap_append, List.flatMap_cons, inner.chords,
      firsts_append_firsts_append, List.flatMap_append, List.flatMap_append]
  lines chord := by
    rw [outer.lines, List.flatMap_append, List.flatMap_cons, inner.lines,
      firsts_append_firsts_append, List.flatMap_append, List.flatMap_append]
  held taken := by rw [outer.held, topmost_flatten inner.held]

/-- An overlay has the slots that one of its tables has. -/
theorem IsOverlay.mem_slots_iff (overlay : IsOverlay tables merged)
    (sound : ∀ table ∈ tables, table.Sound) :
    taken ∈ merged.slots ↔ ∃ table ∈ tables, taken ∈ table.slots := by
  rw [← overlay.sound.isSome_rule?_iff, overlay.held, topmost, List.getLast?_isSome, ne_eq,
    List.filterMap_eq_nil_iff]
  simp only [not_forall, exists_prop, ← ne_eq, Option.ne_none_iff_isSome]
  refine exists_congr fun table => and_congr_right fun member => ?_
  exact (sound table member).isSome_rule?_iff

/-- An empty table in between changes nothing. -/
theorem IsOverlay.insert_empty {front back : List Table}
    (overlay : IsOverlay (front ++ back) merged) : IsOverlay (front ++ ∅ :: back) merged where
  sound := overlay.sound
  chords := by
    rw [overlay.chords, List.flatMap_append, List.flatMap_append]
    rfl
  lines chord := by
    rw [overlay.lines, List.flatMap_append, List.flatMap_append]
    rfl
  held taken := by
    rw [overlay.held, topmost, topmost, List.filterMap_append, List.filterMap_append]
    rfl

private theorem Sound.isOverlay (sound : table.Sound) : IsOverlay [table] table where
  sound := sound
  chords := by
    rw [List.flatMap_singleton, firsts_of_nodup sound.apart]
  lines chord := by
    rw [List.flatMap_singleton]
    exact (firsts_of_nodup (sound.nodup_lines chord)).symm
  held taken := by
    rw [topmost]
    cases found : table.rule? taken <;> simp [found]

/-- **A sound table over itself** is the table. -/
theorem Sound.isOverlay_self (sound : table.Sound) : IsOverlay [table, table] table where
  sound := sound
  chords := by
    rw [List.flatMap_cons, List.flatMap_singleton, firsts_append_of_subset fun _ inside => inside,
      firsts_of_nodup sound.apart]
  lines chord := by
    rw [List.flatMap_cons, List.flatMap_singleton, firsts_append_of_subset fun _ inside => inside]
    exact (firsts_of_nodup (sound.nodup_lines chord)).symm
  held taken := by
    rw [topmost]
    cases found : table.rule? taken <;> simp [found]

/-! ## Merging -/

/-- Layering sound tables lays their rules over each other, without a fault. -/
theorem result_layerTables (sound : ∀ table ∈ tables, table.Sound) :
    (Progress.each layerTable [] tables).toReport.result = .ok (overlaid tables) := by
  have each (rest : List Table) (kept : ∀ table ∈ rest, table.Sound) (layers : Layers) :
      (Progress.each layerTable layers rest).fault = none ∧
        (Progress.each layerTable layers rest).state =
          rest.foldl (fun layers table => Dict.overlay layers table.rules) layers := by
    induction rest generalizing layers with
    | nil => exact ⟨rfl, rfl⟩
    | cons table rest ih =>
        obtain ⟨first, later⟩ := List.forall_mem_cons.mp kept
        obtain ⟨quiet, state⟩ := first.layerTable layers
        rw [Progress.each, Progress.fault_andThen_of_none quiet,
          Progress.state_andThen_of_none quiet, state]
        exact ih later _
  obtain ⟨quiet, state⟩ := each tables sound []
  rw [Progress.result_toReport, quiet, state]
  rfl

/-- The rules of sound tables fit into the empty one, under chords that name keys. -/
theorem fits_overlaid (sound : ∀ table ∈ tables, table.Sound) :
    Fits ∅ (layeredRules (overlaid tables)) ∧
      ∀ rule ∈ layeredRules (overlaid tables), rule.1 ≠ "" := by
  refine ⟨⟨fun _ _ => rfl, ?_⟩, ?_⟩
  · rw [(spelled_overlaid sound).slots]
    exact nodup_keys_overlaid sound
  · intro rule member
    obtain ⟨row, held, rfl⟩ := List.mem_map.mp member
    have key := Dict.mem_keys_of_mem held
    rw [keys_overlaid sound, mem_firsts, List.mem_flatMap] at key
    obtain ⟨table, among, slot⟩ := key
    have kept := sound table among
    refine kept.named row.1.1 ?_
    rw [← mem_firsts, ← kept.firsts_slots, mem_firsts]
    exact List.mem_map_of_mem slot

/-- **What merging sound tables can do.** When all topmost actions have a title, the merged table is
made of the topmost rules. Otherwise the fault is that of a topmost action without one. -/
theorem merge_cases (sound : ∀ table ∈ tables, table.Sound) :
    ((∀ taken rule, topmost tables taken = some rule → rule.action.HasTitle) ∧
        (merge tables).result = .ok (added ∅ (layeredRules (overlaid tables)))) ∨
      ∃ taken rule fault, topmost tables taken = some rule ∧
        rule.action.title = .error fault ∧ (merge tables).result = .error fault := by
  obtain ⟨fits, named⟩ := fits_overlaid sound
  have bound : (merge tables).result =
      (bindAll ∅ (layeredRules (overlaid tables))).toReport.result := by
    rw [merge, Report.result_bind, result_layerTables sound]
    rfl
  have top {slot : String × String} {rule : Rule} :
      topmost tables slot = some rule ↔ (slot, rule) ∈ overlaid tables := by
    rw [← get?_overlaid sound, Dict.get?_eq_some_iff (nodup_keys_overlaid sound)]
  rw [bound, Progress.result_toReport]
  rcases each_bind_apart_cases ∅ .duplicate fits.apart with
    ⟨admits, ended, state⟩ | ⟨before, rule, after, fault, split, -, failed, refused⟩
  · left
    constructor
    · intro slot rule found
      exact admits.titled (slot.1, rule) (List.mem_map_of_mem (top.mp found))
    · rw [bindAll, ended, state]
  · right
    have member : rule ∈ layeredRules (overlaid tables) := by
      rw [split]
      exact List.mem_append_right _ List.mem_cons_self
    obtain ⟨row, held, rfl⟩ := List.mem_map.mp member
    rcases refused with ⟨blank, -⟩ | ⟨_, found, -⟩ | ⟨-, untitled, -⟩
    · exact absurd blank (named _ member)
    · cases found
    · exact ⟨row.1, row.2, fault, top.mpr held, untitled, by rw [bindAll, failed]⟩

/-- The chords of merged tables come in the order in which they came first. -/
theorem chords_overlaid (sound : ∀ table ∈ tables, table.Sound) :
    (added ∅ (layeredRules (overlaid tables))).chords = firsts (tables.flatMap chords) := by
  have names : (layeredRules (overlaid tables)).map Prod.fst =
      (overlaid tables).keys.map Prod.fst := by
    rw [layeredRules, Dict.keys, List.map_map, List.map_map]
    rfl
  calc (added ∅ (layeredRules (overlaid tables))).chords
      = firsts ((layeredRules (overlaid tables)).map Prod.fst) := chords_added sound_empty.apart _
    _ = firsts ((tables.flatMap slots).map Prod.fst) := by
        rw [names, keys_overlaid sound, firsts_map_firsts]
    _ = firsts (tables.flatMap fun table => table.slots.map Prod.fst) := by rw [List.map_flatMap]
    _ = firsts (tables.flatMap chords) :=
        firsts_flatMap_congr fun table member => (sound table member).firsts_slots

/-- The lines of a chord of merged tables come in the order in which they came first. -/
theorem lines_overlaid (sound : ∀ table ∈ tables, table.Sound) (chord : String) :
    (added ∅ (layeredRules (overlaid tables))).lines chord =
      firsts (tables.flatMap fun table => table.lines chord) := by
  let here (taken : String × String) : Bool := taken.1 = chord
  have apart : ∀ one ∈ (tables.flatMap slots).filter here,
      ∀ other ∈ (tables.flatMap slots).filter here, one.2 = other.2 → one = other := by
    intro one member other otherMember same
    have chords : one.1 = other.1 := (of_decide_eq_true (List.mem_filter.mp member).2).trans
      (of_decide_eq_true (List.mem_filter.mp otherMember).2).symm
    exact Prod.ext chords same
  have lines : ((tables.flatMap slots).filter here).map Prod.snd =
      tables.flatMap fun table => table.lines chord := by
    rw [List.filter_flatMap, List.map_flatMap]
    exact List.flatMap_congr fun table member => (sound table member).filter_slots chord
  have empty : bindings ∅ chord = [] := rfl
  rw [Table.lines, ← map_when_bindings, (fits_overlaid sound).1.bindings_added, empty,
    List.nil_append, map_when_given, (spelled_overlaid sound).slots, keys_overlaid sound,
    firsts_filter, map_firsts_of_injOn apart, lines]

/-- **What sound tables are merged to** is their overlay. -/
theorem isOverlay_of_merge (sound : ∀ table ∈ tables, table.Sound)
    (made : (merge tables).result = .ok merged) : IsOverlay tables merged := by
  rcases merge_cases sound with ⟨-, returned⟩ | ⟨_, _, _, -, -, failed⟩
  · obtain rfl := Except.ok.inj (made.symm.trans returned)
    refine ⟨sound_of_merge made, chords_overlaid sound, lines_overlaid sound, fun taken => ?_⟩
    rw [(spelled_overlaid sound).rule?_added (nodup_keys_overlaid sound), get?_overlaid sound]
  · cases made.symm.trans failed

/-- **When sound tables can be merged**: every topmost action has a title. -/
theorem exists_merge_iff (sound : ∀ table ∈ tables, table.Sound) :
    (∃ merged, (merge tables).result = .ok merged) ↔
      ∀ taken rule, topmost tables taken = some rule → rule.action.HasTitle := by
  rcases merge_cases sound with ⟨titled, returned⟩ | ⟨taken, rule, fault, found, untitled, failed⟩
  · exact ⟨fun _ => titled, fun _ => ⟨_, returned⟩⟩
  · constructor
    · rintro ⟨merged, made⟩
      cases made.symm.trans failed
    · intro titled
      obtain ⟨title, holds⟩ := titled taken rule found
      cases holds.symm.trans untitled

/-- Two lists of tables are merged alike when both fail or both lead to the same table. -/
def MergedAlike (tables others : List Table) : Prop :=
  ((∃ merged, (merge tables).result = .ok merged) ↔
      ∃ merged, (merge others).result = .ok merged) ∧
    ∀ merged other, (merge tables).result = .ok merged → (merge others).result = .ok other →
      merged.Same other

/-- **Tables may be merged in groups**: those of a group in the middle can be merged first. -/
theorem mergedAlike_flatten (front back : List Table) {below : List Table} {inner : Table}
    (soundBelow : ∀ table ∈ below, table.Sound)
    (sound : ∀ table ∈ front ++ back, table.Sound)
    (made : (merge below).result = .ok inner) :
    MergedAlike (front ++ inner :: back) (front ++ (below ++ back)) := by
  have overlay := isOverlay_of_merge soundBelow made
  obtain ⟨soundFront, soundBack⟩ := List.forall_mem_append.mp sound
  have grouped : ∀ table ∈ front ++ inner :: back, table.Sound :=
    List.forall_mem_append.mpr ⟨soundFront, List.forall_mem_cons.mpr ⟨overlay.sound, soundBack⟩⟩
  have flat : ∀ table ∈ front ++ (below ++ back), table.Sound :=
    List.forall_mem_append.mpr ⟨soundFront, List.forall_mem_append.mpr ⟨soundBelow, soundBack⟩⟩
  constructor
  · rw [exists_merge_iff grouped, exists_merge_iff flat]
    simp only [topmost_flatten overlay.held]
  · intro merged other left right
    exact (overlay.flatten (isOverlay_of_merge grouped left)).unique
      (isOverlay_of_merge flat right)

/-- Tables with a known overlay whose actions all have titles are merged to it. -/
theorem exists_merge_of_isOverlay (sound : ∀ table ∈ tables, table.Sound)
    (overlay : IsOverlay tables merged)
    (titled : ∀ chord line action, merged.find? chord line = some action → action.HasTitle) :
    ∃ made, (merge tables).result = .ok made ∧ made.Same merged := by
  have every : ∀ taken rule, topmost tables taken = some rule → rule.action.HasTitle := by
    intro taken rule found
    rw [← overlay.held] at found
    exact titled taken.1 taken.2 rule.action (rule?_eq_some_iff.mp found).2
  obtain ⟨made, merges⟩ := (exists_merge_iff sound).mpr every
  exact ⟨made, merges, (isOverlay_of_merge sound merges).unique overlay⟩

/-! ## Tables of histories -/

/-- A table that some history leads to. -/
def Reached (table : Table) : Prop :=
  ∃ operations name, History.run operations name = table

/-- Every table that is reached is sound. -/
theorem Reached.sound (reached : table.Reached) : table.Sound := by
  obtain ⟨operations, name, rfl⟩ := reached
  exact History.sound_run operations name

/-- **Merging tables.** Tables that histories lead to can be merged exactly when in each slot the
action of the last of them that has it has a title; the fault is otherwise that of such an action.
The merged table has the slots that one of them has, and holds in each what the last of them that
has it holds there, action and condition. Its chords, and the lines of each chord, come in the order
in which they came first. So it does not matter in which groups tables are merged, an empty table
changes nothing on either side, and a table merged with itself is the table. -/
theorem merge_overlays :
    (∀ tables : List Table, (∀ table ∈ tables, table.Reached) →
      ((∃ merged, (merge tables).result = .ok merged) ↔
        ∀ chord line action,
          (tables.filterMap fun table => table.find? chord line).getLast? = some action →
            action.HasTitle) ∧
      (∀ fault, (merge tables).result = .error fault → ∃ chord line action,
        (tables.filterMap fun table => table.find? chord line).getLast? = some action ∧
          action.title = .error fault) ∧
      ∀ merged, (merge tables).result = .ok merged →
        (∀ taken, taken ∈ merged.slots ↔ ∃ table ∈ tables, taken ∈ table.slots) ∧
        (∀ chord line, merged.find? chord line =
          (tables.filterMap fun table => table.find? chord line).getLast?) ∧
        (∀ taken, merged.conditions.get? taken =
          (tables.filterMap fun table => table.conditions.get? taken).getLast?) ∧
        merged.chords = firsts (tables.flatMap chords) ∧
        ∀ chord, merged.lines chord = firsts (tables.flatMap fun table => table.lines chord)) ∧
      (∀ a b c : Table, a.Reached → b.Reached → c.Reached →
        (∀ ab, (merge [a, b]).result = .ok ab → MergedAlike [ab, c] [a, b, c]) ∧
        ∀ bc, (merge [b, c]).result = .ok bc → MergedAlike [a, bc] [a, b, c]) ∧
      ∀ a : Table, a.Reached →
        (∀ chord line action, a.find? chord line = some action → action.HasTitle) →
        ∀ tables ∈ [[∅, a], [a, ∅], [a, a]],
          ∃ merged, (merge tables).result = .ok merged ∧ merged.Same a := by
  refine ⟨fun tables reached => ?_, fun a b c reachedA reachedB reachedC => ?_,
    fun a reached titled tables among => ?_⟩
  · have sound : ∀ table ∈ tables, table.Sound := fun table member => (reached table member).sound
    simp only [getLast?_find? sound, getLast?_conditions sound, Option.map_eq_some_iff]
    refine ⟨?_, ?_, ?_⟩
    · rw [exists_merge_iff sound]
      constructor
      · rintro titled chord line _ ⟨rule, top, rfl⟩
        exact titled (chord, line) rule top
      · intro titled taken rule top
        exact titled taken.1 taken.2 rule.action ⟨rule, top, rfl⟩
    · intro fault failed
      rcases merge_cases sound with ⟨-, returned⟩ | ⟨taken, rule, inner, top, untitled, stopped⟩
      · cases failed.symm.trans returned
      · obtain rfl : inner = fault := Except.error.inj (stopped.symm.trans failed)
        exact ⟨taken.1, taken.2, rule.action, ⟨rule, top, rfl⟩, untitled⟩
    · intro merged made
      have overlay := isOverlay_of_merge sound made
      refine ⟨fun taken => overlay.mem_slots_iff sound, fun chord line => ?_, fun taken => ?_,
        overlay.chords, overlay.lines⟩
      · rw [overlay.sound.find?_eq, overlay.held]
      · rw [overlay.sound.get?_conditions, overlay.held]
  · refine ⟨fun ab made => ?_, fun bc made => ?_⟩
    · exact mergedAlike_flatten [] [c] (by simp [reachedA.sound, reachedB.sound])
        (by simp [reachedC.sound]) made
    · exact mergedAlike_flatten [a] [] (by simp [reachedB.sound, reachedC.sound])
        (by simp [reachedA.sound]) made
  · have sound := reached.sound
    have alone : IsOverlay ([] ++ [a]) a := sound.isOverlay
    have behind : IsOverlay ([a] ++ []) a := sound.isOverlay
    simp only [List.mem_cons, List.not_mem_nil, or_false] at among
    rcases among with rfl | rfl | rfl
    · exact exists_merge_of_isOverlay (by simp [sound, sound_empty]) alone.insert_empty titled
    · exact exists_merge_of_isOverlay (by simp [sound, sound_empty]) behind.insert_empty titled
    · exact exists_merge_of_isOverlay (by simp [sound]) sound.isOverlay_self titled

/-- A chord that saves in a panel, and another one. -/
def baseHistory : List Operation :=
  [.register "base" "ctrl+x" (.ofCondition (.atom "panel"))
      (.action (.run (.invoke "save" .null))) .duplicate,
    .register "base" "up" (.ofCondition .always)
      (.action (.run (.invoke "scroll" .null))) .duplicate]

/-- The chord bound everywhere, and silenced in the panel. -/
def userHistory : List Operation :=
  [.register "user" "ctrl+x" (.ofCondition .always)
      (.action (.run (.invoke "cut" .null))) .duplicate,
    .register "user" "ctrl+x" (.ofCondition (.atom "panel")) (.action .suppress) .duplicate]

/-- The line that both tables have keeps its place in front, with the later action. -/
theorem merge_userHistory :
    let base := History.run baseHistory "base"
    let user := History.run userHistory "user"
    base.Reached ∧ user.Reached ∧
      ∃ merged, (merge [base, user]).result = .ok merged ∧
        merged.chords = ["ctrl+x", "up"] ∧ merged.lines "ctrl+x" = ["panel", ""] ∧
        merged.find? "ctrl+x" "panel" = some .suppress ∧
        MergedAlike [merged, base] [base, user, base] ∧
        ∃ twice, (merge [base, base]).result = .ok twice ∧ twice.Same base := by
  intro base user
  have reachedBase : base.Reached := ⟨baseHistory, "base", rfl⟩
  have reachedUser : user.Reached := ⟨userHistory, "user", rfl⟩
  have merges : ∃ merged, (merge [base, user]).result = .ok merged := ⟨_, rfl⟩
  obtain ⟨merged, made⟩ := merges
  obtain ⟨overlays, grouped, neutral⟩ := merge_overlays
  obtain ⟨-, held, -, chords, lines⟩ :=
    (overlays [base, user] (by simp [reachedBase, reachedUser])).2.2 merged made
  refine ⟨reachedBase, reachedUser, merged, made, ?_, ?_, ?_, ?_, ?_⟩
  · rw [chords]
    decide +kernel
  · rw [lines]
    decide +kernel
  · rw [held]
    rfl
  · exact (grouped base user base reachedBase reachedUser reachedBase).1 merged made
  · refine neutral base reachedBase (fun chord line action found => ?_) [base, base] (by simp)
    have listed := reachedBase.sound.mem_items_iff.mpr (mem_of_find? found)
    have items : base.items = [("ctrl+x", ⟨"panel", .run (.invoke "save" .null)⟩),
        ("up", ⟨"", .run (.invoke "scroll" .null)⟩)] := rfl
    simp only [items, List.mem_cons, List.not_mem_nil, or_false, Prod.mk.injEq,
      Binding.mk.injEq] at listed
    rcases listed with ⟨-, -, rfl⟩ | ⟨-, -, rfl⟩
    · exact Action.hasTitle_run _
    · exact Action.hasTitle_run _

/-- **A table that took a rule which was refused cannot be merged**: registering the rule again
fails again. -/
theorem merge_stepless :
    let table := History.run
      [.register "base" "ctrl+s" (.ofCondition .always) (.action History.stepless) .duplicate]
      "base"
    table.Reached ∧ (merge [table]).result = .error (.absentMember "Invoke" "to_dict") :=
  ⟨⟨_, _, rfl⟩, rfl⟩

end Table

end KeyChords
