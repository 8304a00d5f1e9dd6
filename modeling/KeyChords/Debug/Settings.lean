import KeyChords.Debug.Event
import KeyChords.Fault
import KeyChords.Text.Blank
import KeyChords.Text.Digit

/-! # Debug settings

The settings decide which events are shown and whether they are coloured, which may also depend on
whether they are shown on a terminal. The settings are read from a list
of option values: a number sets the level, `target=` names the category to keep, `chord=` the chord
to keep, and a value without content asks for the first level.
-/

namespace KeyChords.Debug

open Text

/-- When the debug output is coloured. Automatic colouring is for terminals. -/
inductive ColorMode where
  | auto
  | always
  | never
  deriving DecidableEq, Repr

namespace ColorMode

/-- The name of a colour mode. -/
def name : ColorMode → String
  | .auto => "auto"
  | .always => "always"
  | .never => "never"

/-- Every colour mode. -/
def all : List ColorMode := [.auto, .always, .never]

/-- The colour mode of a name, if there is one. -/
def ofName? (name : String) : Option ColorMode :=
  all.find? fun mode => mode.name = name

@[simp]
theorem ofName?_name (mode : ColorMode) : ofName? mode.name = some mode := by
  cases mode <;> decide

/-- Whether a mode colours the output, which goes to a terminal or elsewhere. -/
def colors (terminal : Bool) : ColorMode → Bool
  | .auto => terminal
  | .always => true
  | .never => false

end ColorMode

/-- **Which events are shown.** -/
structure Filter where
  /-- The greatest level shown; at level zero nothing is. -/
  level : Nat := 0
  /-- The category to keep, all of them when there is none. -/
  category : Option String := none
  /-- The chord to keep, all of them when it is empty. -/
  chord : String := ""
  deriving DecidableEq, Repr

/-- **The debug settings.** -/
structure Settings extends Filter where
  color : ColorMode := .auto
  deriving DecidableEq, Repr

/-- The name that stands for all categories. -/
def everyCategory : String := "all"

namespace Filter

/-- A filter that shows at least the first level. -/
def raised (filter : Filter) : Filter :=
  { filter with level := max filter.level 1 }

/-- The level that a sequence of digits asks for. The digits up to the first one that is not decimal
may not be too many, whatever follows them. -/
def readLevel (digits : List Char) : Except Fault Nat :=
  let count := (digits.takeWhile fun c => (decimalValue? c).isSome).length
  if Decimal.digitLimit < count then .error (.debugLength count)
  else
    match readDigits 0 digits with
    | none => .error (.debugDigits (String.ofList digits))
    | some level => .ok level

/-- Reads a value that names what it sets. A filter without a level turns the output on. -/
def assign (filter : Filter) (raw : String) (name value : List Char) : Except Fault Filter :=
  let name := String.ofList name
  let value := String.ofList value
  if name = "target" ∨ name = "category" then
    if value = everyCategory ∨ value ∈ Category.all.map Category.name then
      .ok { filter with category := some value }.raised
    else .error (.debugTarget value)
  else if name = "chord" ∨ name = "key" then .ok { filter with chord := value }.raised
  else .error (.debugValue raw)

/-- Reads one option value. -/
def apply (filter : Filter) (raw : String) : Except Fault Filter :=
  let value := strip raw.toList
  if value.isEmpty then .ok filter.raised
  else if value.all isDigit then (fun level => { filter with level }) <$> readLevel value
  else if '=' ∈ value then
    filter.assign raw (value.takeWhile (· ≠ '=')) ((value.dropWhile (· ≠ '=')).drop 1)
  else .error (.debugValue raw)

/-- Reads the option values in order, up to the first one that is refused. -/
def ofValues (values : List String) : Except Fault Filter :=
  values.foldlM apply {}

/-- Whether an event is shown: at its level, in its category and for its chord. -/
def admits (filter : Filter) (event : Event) : Bool :=
  0 < filter.level && event.level ≤ filter.level &&
    (match filter.category with
      | none => true
      | some category => category = everyCategory || event.category = category) &&
    (filter.chord.isEmpty || event.chord = some filter.chord)

end Filter

namespace Settings

/-- **Configures the debug output** from option values and the name of a colour mode. A known colour
mode takes effect even when an option value is refused; the other settings change only together. -/
def configure (settings : Settings) (values : List String) (color : String) :
    Settings × Option Fault :=
  match ColorMode.ofName? color with
  | none => (settings, some (.colorMode (quoted color)))
  | some mode =>
    match Filter.ofValues values with
    | .ok filter => ({ toFilter := filter, color := mode }, none)
    | .error fault => ({ settings with color := mode }, some fault)

/-- What switches the colour of a level on. -/
def levelColor (level : Int) : String :=
  let code :=
    if level = 1 then "33" else if level = 2 then "36" else if level = 3 then "35"
    else if level = 4 then "34" else "37"
  "\x1b[" ++ code ++ "m"

/-- A text in the colour of a level, when colours are on. -/
def colored (settings : Settings) (terminal : Bool) (text : String) (level : Int) : String :=
  if settings.color.colors terminal then levelColor level ++ text ++ "\x1b[0m" else text

/-- The line that shows an event, and nothing when the event is not shown. -/
def line (settings : Settings) (terminal : Bool) (event : Event) : String :=
  if settings.admits event then
    settings.colored terminal
      ("[DEBUG:" ++ toString event.level ++ ":" ++ event.category ++ "] " ++ event.message)
      event.level ++ "\n"
  else ""

/-- **The debug output of a list of events.** -/
def output (settings : Settings) (terminal : Bool) (log : List Event) : String :=
  String.join (log.map (settings.line terminal))

end Settings

end KeyChords.Debug
