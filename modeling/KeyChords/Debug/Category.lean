/-! # Debug categories

Every event of the library belongs to the activity that reports it. A debug filter names one of the
activities.
-/

namespace KeyChords.Debug

/-- **What an event is about.** -/
inductive Category where
  | register
  | expand
  | alias
  | linearize
  | removal
  | check
  deriving DecidableEq, Repr

namespace Category

/-- The name of a category. -/
def name : Category → String
  | .register => "register"
  | .expand => "expand"
  | .alias => "alias"
  | .linearize => "linearize"
  | .removal => "removal"
  | .check => "check"

/-- Every category, in the order in which a refusal lists them. -/
def all : List Category :=
  [.register, .expand, .alias, .linearize, .removal, .check]

end Category

/-- The names of all categories, separated by commas. -/
def categoryList : String :=
  ", ".intercalate (Category.all.map Category.name)

end KeyChords.Debug
