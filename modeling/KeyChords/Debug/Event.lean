import KeyChords.Debug.Category

/-! # Debug events

The library's operations report what they do as a list of events beside their result. Whether an
event is shown depends on the debug settings and is no matter of the operation.
-/

namespace KeyChords.Debug

/-- **A debug event.** The higher its level, the finer the detail it tells. -/
structure Event where
  level : Int
  category : String
  /-- The chord the event is about, when it is about one. -/
  chord : Option String
  message : String
  deriving DecidableEq, Repr

/-- An event of a category. -/
def Category.event (category : Category) (level : Int) (chord : Option String)
    (message : String) : Event :=
  ⟨level, category.name, chord, message⟩

end KeyChords.Debug
