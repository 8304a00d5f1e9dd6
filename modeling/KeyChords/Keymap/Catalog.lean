import KeyChords.Keymap.Stock
import KeyChords.Text.Pieces

/-! # Catalogs of keymaps

A keymap is asked for by a target `module:function`. A catalog lists the modules that there are, and
for each of them the functions that build something without being given anything. Whatever stands in
the way of a keymap is told in this order: the form of the target, the module, the function, and
what the function builds.
-/

namespace KeyChords

open Text

/-- **What a function of a module builds.** -/
inductive Built where
  | keymap (keymap : Keymap)
  /-- A table alone, which counts as a keymap. -/
  | table (table : Table)
  /-- Something else, of which only the name of its kind is of interest. -/
  | other (kindName : String)

/-- A module: its dotted name, and its functions with the outcomes of calling them. -/
structure Module where
  name : String
  functions : List (String × Report Built) := []

/-- **A catalog of modules.** -/
abbrev Catalog := List Module

namespace Catalog

/-- The dotted beginnings of a dotted name, the shortest first and the name itself last. -/
def beginnings (name : String) : List String :=
  let parts := pieces '.' name.toList
  (List.range parts.length).map fun index =>
    String.ofList (joined '.' (parts.take (index + 1)))

/-- Whether a module is there. -/
def holds (catalog : Catalog) (name : String) : Bool :=
  catalog.any fun entry => entry.name = name

/-- Whether a name is that of a package: some module is below it. -/
def isPackage (catalog : Catalog) (name : String) : Bool :=
  catalog.any fun entry => (name.toList ++ ['.']) <+: entry.name.toList

/-- The fault of the first name that is missing on the way to a module. A name beneath a module that
is no package is told apart. -/
def absence (catalog : Catalog) (parent : Option String) : List String → Option Fault
  | [] => none
  | name :: rest =>
    if catalog.holds name then catalog.absence (some name) rest
    else
      match parent with
      | some parent =>
        some (if catalog.isPackage parent then .absentModule name else .notPackage name parent)
      | none => some (.absentModule name)

/-- The module of a name, or why there is none. -/
def module? (catalog : Catalog) (name : String) : Except Fault Module :=
  if name.toList.head? = some '.' then .error (.relativeModule name)
  else
    match catalog.absence none (beginnings name) with
    | some fault => .error fault
    | none =>
      match catalog.find? fun entry => entry.name = name with
      | some entry => .ok entry
      | none => .error (.absentModule name)

/-- The names of the module and of the function in a target. Both are needed, and the first colon
divides them. -/
def splitTarget (target : String) : Except Fault (String × String) :=
  let chars := target.toList
  match chars.takeWhile (· ≠ ':'), chars.dropWhile (· ≠ ':') with
  | owner :: owners, _ :: letter :: letters =>
    .ok (String.ofList (owner :: owners), String.ofList (letter :: letters))
  | _, _ => .error (.targetForm target)

/-- The keymap that was built, or the fault that it is something else. -/
def keymapOf (target : String) : Built → Except Fault Keymap
  | .keymap keymap => .ok keymap
  | .table table => .ok { table }
  | .other kindName => .error (.targetResult target kindName)

/-- **Loads the keymap of a target.** -/
def load (catalog : Catalog) (target : String) : Report Keymap := do
  let (owner, function) ← (splitTarget target : Except Fault _)
  let entry ← (catalog.module? owner : Except Fault _)
  match entry.functions.lookup function with
  | none => Report.fail (.targetNotCallable target)
  | some outcome =>
    let built ← outcome
    (keymapOf target built : Except Fault _)

/-- **The modules that ship with the compiler.** -/
def stock : Catalog :=
  let package := "keybindings_compiler"
  let inside (name : String) (functions : List (String × Report Built)) : Module :=
    ⟨package ++ "." ++ name, functions⟩
  let emptyTable : Report Built := .answer (.table ∅)
  [⟨package, []⟩,
    inside "actions"
      [("suppress", .answer (.other "Suppress")), ("sequence", .fail .emptySequence)],
    inside "aliases" [],
    inside "cli" [],
    inside "compiler" [("Keymap", .answer (.keymap {}))],
    inside "debug" [],
    inside "drift" [],
    inside "errors" [],
    inside "expansion" [("typing_expansion", .answer (.other "TypingExpansion"))],
    inside "keymap"
      [("build_keymap", Built.keymap <$> Stock.keymap),
        ("build_table", Built.table <$> Stock.table.toReport)],
    inside "keys" [],
    inside "removals" [("RemovalOverlay", .answer (.other "RemovalOverlay"))],
    inside "table" [("BindingTable", emptyTable), ("merge_tables", emptyTable)],
    inside "when" []]

end Catalog

end KeyChords
