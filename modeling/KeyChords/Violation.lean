import KeyChords.Text.Quoted

/-! # Violations of the rules for keymaps

A violation names the rule that a keymap breaks, says how, and tells the chord and the condition
where they are known. The rules form a small hierarchy: every rule is a case of the general one, and
a collision of a generated binding is a case of a duplicate.
-/

namespace KeyChords

open Text

namespace Violation

/-- **The rules a keymap can break.** -/
inductive Kind where
  | general
  | duplicate
  | expansionCollision
  | negation
  | expansionSet
  | contextKey
  deriving DecidableEq, Repr

namespace Kind

/-- The name of a rule, which opens the text of its violations. -/
def name : Kind → String
  | .general => "KeybindingsError"
  | .duplicate => "DuplicateBinding"
  | .expansionCollision => "ExpansionCollision"
  | .negation => "InvalidNegation"
  | .expansionSet => "MismatchedExpansionSet"
  | .contextKey => "InvalidContextKey"

/-- Every rule. -/
def all : List Kind :=
  [.general, .duplicate, .expansionCollision, .negation, .expansionSet, .contextKey]

/-- The rule of a name. -/
def ofName? (name : String) : Option Kind :=
  all.find? fun kind => kind.name = name

@[simp]
theorem ofName?_name (kind : Kind) : ofName? kind.name = some kind := by
  cases kind <;> decide

/-- The wider rules of which a rule is a case, the nearest first. -/
def wider : Kind → List Kind
  | .general => []
  | .expansionCollision => [.duplicate, .general]
  | _ => [.general]

end Kind

/-- **How a rule was broken.** -/
inductive Detail where
  | alreadyBound (held rejected : String)
  /-- Two chords share a spelling and a condition and run different actions. -/
  | sharedSpelling (chord source held rejected : String)
  | negatedAlways
  | renegatedComparison
  | negatedCompound
  | unequalSets (plain shifted : Nat)
  | repeatedCharacter
  | compoundContext
  | remark (text : String)
  deriving DecidableEq, Repr

/-- The wording of a detail. -/
def Detail.message : Detail → String
  | .alreadyBound held rejected =>
    "already bound to " ++ held ++ ", cannot also bind " ++ rejected
  | .sharedSpelling chord source held rejected =>
    "alias of " ++ quoted chord ++ " collides with the binding from " ++ quoted source ++ " (" ++
      held ++ " vs " ++ rejected ++ ")"
  | .negatedAlways => "cannot negate the always atom"
  | .renegatedComparison => "cannot re-negate a != comparison"
  | .negatedCompound => "only atoms and comparisons can be negated"
  | .unequalSets plain shifted =>
    toString plain ++ " unshifted characters but " ++ toString shifted ++ " shifted ones"
  | .repeatedCharacter => "character listed twice in the expansion set"
  | .compoundContext => "context key does not match required regexp (^[a-zA-Z\\.]+$)"
  | .remark text => text

end Violation

/-- **A violation**: the rule, how it was broken, and where. -/
structure Violation where
  kind : Violation.Kind
  detail : Violation.Detail
  chord : Option String
  condition : Option String
  deriving DecidableEq, Repr

/-- The chord and the condition of a violation, as far as they are known, in parentheses. -/
def Violation.place (violation : Violation) : String :=
  let parts :=
    (violation.chord.map ("key=" ++ quoted ·)).toList ++
      (violation.condition.map ("when=" ++ quoted ·)).toList
  if parts.isEmpty then "" else " (" ++ ", ".intercalate parts ++ ")"

/-- **The wording of a violation**, with the place where the rule was broken. -/
def Violation.message (violation : Violation) : String :=
  violation.kind.name ++ ": " ++ violation.detail.message ++ violation.place

end KeyChords
