import KeyChords.Dict
import KeyChords.Draft
import KeyChords.Draft.Equality
import KeyChords.Progress

/-! # Binding tables

A table holds, for each chord, the lines of the conditions under which it is bound and the action of
each. Within a chord a condition is known by its line alone, so two conditions with one line are the
same slot. The conditions themselves are kept beside the entries, under chord and line, and are what
a table is merged from. Chords and slots keep the order in which they were first bound.

Nothing in the type ties the two dictionaries together. What ties them is that a binding always goes
into both (`KeyChords.Table.add`).
-/

namespace KeyChords

open Debug Text

/-- **A rule of a chord**: a condition and the action that is bound under it. -/
structure Rule where
  condition : Condition
  action : Action

/-- **A slot of a chord that is taken**: the line by which it is known, and the action. -/
structure Binding where
  when : String
  action : Action

namespace Rule

/-- The line of a rule's condition. -/
def when (rule : Rule) : String :=
  rule.condition.text

/-- What a rule puts into the slot of its condition. -/
def binding (rule : Rule) : Binding :=
  ⟨rule.when, rule.action⟩

end Rule

/-- **A binding table**: for each chord its slots with their actions, and for each chord and line
the condition that was bound there. -/
structure Table where
  entries : Dict String (Dict String Action) := []
  conditions : Dict (String × String) Condition := []

namespace Table

instance : EmptyCollection Table := ⟨⟨[], []⟩⟩

instance : Inhabited Table := ⟨∅⟩

/-- The slots of a chord with their actions, in order. A chord that is not there has none. -/
def lookup (table : Table) (chord : String) : Dict String Action :=
  (table.entries.get? chord).getD []

/-- The bindings of a row of slots. -/
def rowBindings (row : Dict String Action) : List Binding :=
  row.map fun (line, action) => ⟨line, action⟩

/-- The bindings of a chord, in order. -/
def bindings (table : Table) (chord : String) : List Binding :=
  rowBindings (table.lookup chord)

/-- The action in a slot. -/
def find? (table : Table) (chord line : String) : Option Action :=
  (table.lookup chord).get? line

/-- The condition that was bound in a slot. Asking for it where nothing was bound is a fault. -/
def condition (table : Table) (chord line : String) : Except Fault Condition :=
  match table.conditions.get? (chord, line) with
  | some condition => .ok condition
  | none => .error (.absentRule chord line)

/-- The chords that are bound, in order. -/
def chords (table : Table) : List String :=
  table.entries.keys

/-- Every chord with each of its bindings, in order. -/
def items (table : Table) : List (String × Binding) :=
  table.entries.flatMap fun (chord, row) => (rowBindings row).map (chord, ·)

/-- The number of slots that are taken. -/
def size (table : Table) : Nat :=
  table.entries.foldr (fun row others => row.2.length + others) 0

/-- A table with rows of its own. As a value it is the table again. -/
def copy (table : Table) : Table where
  entries := table.entries.map fun (chord, row) => (chord, row)
  conditions := table.conditions

@[simp]
theorem copy_eq (table : Table) : table.copy = table := by
  simp [copy]

/-- Gives a chord a row without slots, unless it has a row. -/
def opened (table : Table) (chord : String) : Table :=
  { table with entries := table.entries.putNew chord [] }

/-- **Puts a rule into its slot**: the action among the entries, the condition beside them. -/
def add (table : Table) (chord : String) (rule : Rule) : Table where
  entries := table.entries.update chord fun row => (row.getD []).put rule.when rule.action
  conditions := table.conditions.put (chord, rule.when) rule.condition

/-- The fault of a rule whose slot is taken, which names both actions. Where one of them has no
name, that is the fault instead. -/
def taken (kind : Violation.Kind) (chord line : String) (held rejected : Action) : Fault :=
  match held.title with
  | .error fault => fault
  | .ok holder =>
    match rejected.title with
    | .error fault => fault
    | .ok newcomer =>
      .violation ⟨kind, .alreadyBound holder newcomer, some chord, some line⟩

/-- The event of a rule that was bound. -/
def bound (chord line title : String) : Event :=
  Category.register.event 2 (some chord)
    ("key=" ++ quoted chord ++ " when=" ++ quoted line ++ " -> " ++ title)

/-- Binds a rule in a free slot of a chord. The chord has its row before the slot is looked up, and
the rule is in its slot before the event names the action. -/
def enter (table : Table) (chord : String) (rule : Rule) (kind : Violation.Kind) : Progress Table :=
  let opened := table.opened chord
  match opened.find? chord rule.when with
  | some held => .stopped opened (taken kind chord rule.when held rule.action)
  | none =>
    let stored := opened.add chord rule
    match rule.action.title with
    | .error fault => .stopped stored fault
    | .ok title => .done stored [bound chord rule.when title]

/-- **Binds a chord as an author wrote it down.** The chord has to name a key, then the action has
to be one, then the condition; a slot that is taken is refused as a case of the given rule. -/
def register (table : Table) (chord : String) (condition action : Draft)
    (kind : Violation.Kind := .duplicate) : Progress Table :=
  if chord = "" then .stopped table .emptyChord
  else
    match action.toAction with
    | .error fault => .stopped table fault
    | .ok action =>
      match condition.toCondition with
      | .error fault => .stopped table fault
      | .ok condition => table.enter chord ⟨condition, action⟩ kind

/-- **Binds a chord** by a rule whose condition and action are what they should be. -/
def bind (table : Table) (chord : String) (rule : Rule) (kind : Violation.Kind := .duplicate) :
    Progress Table :=
  table.register chord (.ofCondition rule.condition) (.action rule.action) kind

/-- Registers the rules of one chord, up to the first fault. -/
def registerAll (table : Table) (chord : String) (pairs : List (Draft × Draft)) : Progress Table :=
  Progress.each (fun table (condition, action) => table.register chord condition action) table pairs

/-- Binds chord after chord, up to the first fault. -/
def bindAll (table : Table) (rules : List (String × Rule)) : Progress Table :=
  Progress.each (fun table (chord, rule) => table.bind chord rule) table rules

/-- **What may be looked for in a table.** -/
inductive Query where
  | chord (chord : String)
  | slot (chord condition : Draft)
  | foreign

/-- Whether a table holds what is looked for. The condition is read before the chord. -/
def contains (table : Table) : Query → Except Fault Bool
  | .chord chord => .ok !(table.lookup chord).isEmpty
  | .slot chord condition => do
    let line ← condition.lookupText
    chord.requireFixed
    match chord with
    | .value (.str name) => return (table.find? name line).isSome
    | _ => return false
  | .foreign => .ok false

/-- A table as messages show it. -/
def shown (table : Table) : String :=
  "BindingTable(" ++ toString table.entries.length ++ " chords, " ++ toString table.size ++
    " rules)"

/-! ## Merging -/

/-- Rules layered over each other, each under its chord and line. -/
abbrev Layers := Dict (String × String) Rule

/-- The event of a rule that another one replaces. -/
def replaced (chord line : String) : Event :=
  Category.register.event 2 (some chord)
    ("overlay replaces key=" ++ quoted chord ++ " when=" ++ quoted line)

/-- Layers one binding of a table over the others, with the condition that the table keeps for it.
A binding that another one covers already takes its place. -/
def layer (table : Table) (layers : Layers) (chord : String) (binding : Binding) :
    Progress Layers :=
  let slot := (chord, binding.when)
  let covering := if (layers.get? slot).isSome then [replaced chord binding.when] else []
  (Progress.done layers covering).andThen fun layers =>
    match table.condition chord binding.when with
    | .error fault => .stopped layers fault
    | .ok condition => .done (layers.put slot ⟨condition, binding.action⟩) []

/-- Layers the bindings of a table over the others, in order. -/
def layerTable (layers : Layers) (table : Table) : Progress Layers :=
  Progress.each (fun layers (chord, binding) => table.layer layers chord binding) layers table.items

/-- The rules of some layers, each under its chord. -/
def layeredRules (layers : Layers) : List (String × Rule) :=
  layers.map fun ((chord, _), rule) => (chord, rule)

/-- **Merges tables**: where several of them take a slot, the last one wins, in the place where the
slot first appeared. -/
def merge (tables : List Table) : Report Table := do
  let layers ← (Progress.each layerTable [] tables).toReport
  ((∅ : Table).bindAll (layeredRules layers)).toReport

end Table

end KeyChords
