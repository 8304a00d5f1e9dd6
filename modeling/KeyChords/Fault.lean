import KeyChords.Debug.Category
import KeyChords.Json.Token
import KeyChords.Text.Utf8
import KeyChords.Violation

/-! # Faults

Everything that can stop an operation of the library. A fault is a cause; its wording and the name
of its class are functions of the cause.
-/

namespace KeyChords

open Json Text

/-- **What stops an operation.** -/
inductive Fault where
  | violation (violation : Violation)
  | blankCondition
  /-- Something of another kind stands in the place of a condition. -/
  | notCondition (kindName : String)
  | notAction (shown : String)
  | emptyChord
  | emptyCommand
  | notStepAction (shown : String)
  | negativeDelay (delay : Int)
  | notSequenceable (shown : String)
  | emptySequence
  | suppressedCommand
  | emptyRemovalChord
  | emptyRemoval (chord : String)
  /-- A removal names a command that already carries the mark of removals. -/
  | markedRemoval (chord command : String)
  | bareLeader (leader : String)
  | absentRule (chord condition : String)
  | unhashable (kindName : String)
  /-- A value is asked for something that values of its kind do not have. -/
  | absentMember (kindName member : String)
  | notNumber (text : String)
  /-- The colour mode, as a message shows it, is none. -/
  | colorMode (shown : String)
  | debugValue (value : String)
  | debugTarget (target : String)
  | debugDigits (digits : String)
  /-- A debug level is written with more digits than are ever read. -/
  | debugLength (count : Nat)
  | integerLength
  | targetForm (target : String)
  | targetNotCallable (target : String)
  | targetResult (target kindName : String)
  | absentModule (name : String)
  /-- A module is looked for beneath one that has none beneath it. -/
  | notPackage (name parent : String)
  | relativeModule (name : String)
  | brokenDocument (fault : SyntaxFault)
  | manifestForm
  | documentForm
  | recordForm (index : Nat) (shown : String)
  | undecodable (malformed : Utf8.Malformed)
  | nullInName
  deriving DecidableEq, Repr

namespace Fault

/-- How many characters of a text that is no number are shown. -/
def shownDigits : Nat := 200

/-- The rule that an integer of too many digits breaks. -/
def digitRule : String :=
  "Exceeds the limit (" ++ toString Decimal.digitLimit ++
    " digits) for integer string conversion"

/-- What may be done about the rule. -/
def digitRemedy : String :=
  "; use sys.set_int_max_str_digits() to increase the limit"

/-- **The wording of a fault.** -/
def message : Fault → String
  | .violation broken => broken.message
  | .blankCondition => ""
  | .notCondition kindName => "expected a when condition, got " ++ kindName
  | .notAction shown => "expected an action, got " ++ shown
  | .emptyChord => "cannot register an empty chord"
  | .emptyCommand => "invoke() requires a command name"
  | .notStepAction shown => "step() takes an invoke or raw_inject action, got " ++ shown
  | .negativeDelay delay => "step delay must not be negative, got " ++ toString delay
  | .notSequenceable shown => "cannot sequence " ++ shown
  | .emptySequence => "sequence() requires at least one step"
  | .suppressedCommand => "a suppressed binding has no command"
  | .emptyRemovalChord => "cannot register a removal for an empty chord"
  | .emptyRemoval chord => "removal at " ++ quoted chord ++ " needs a command name"
  | .markedRemoval chord command =>
    "removal at " ++ quoted chord ++ " takes the plain command name, got " ++ quoted command
  | .bareLeader leader => "leader " ++ quoted leader ++ " has no modifier to hold"
  | .absentRule chord condition => "(" ++ quoted chord ++ ", " ++ quoted condition ++ ")"
  | .unhashable kindName => "unhashable type: " ++ quoted kindName
  | .absentMember kindName member =>
    quoted kindName ++ " object has no attribute " ++ quoted member
  | .notNumber text => "could not convert string to float: " ++ quoted text
  | .colorMode shown => "invalid color mode " ++ shown
  | .debugValue value => "invalid --debug value " ++ quoted value
  | .debugTarget target =>
    "unknown debug target " ++ quoted target ++ "; choose from " ++ Debug.categoryList
  | .debugDigits digits =>
    "invalid literal for int() with base 10: " ++
      String.ofList ((quotedChars digits.toList).take shownDigits)
  | .debugLength count =>
    digitRule ++ ": value has " ++ toString count ++ " digits" ++ digitRemedy
  | .integerLength => digitRule ++ digitRemedy
  | .targetForm target => "keymap must look like module:function, got " ++ quoted target
  | .targetNotCallable target => quoted target ++ " is not a callable keymap factory"
  | .targetResult target kindName =>
    quoted target ++ " returned " ++ kindName ++ ", expected Keymap or BindingTable"
  | .absentModule name => "No module named " ++ quoted name
  | .notPackage name parent =>
    "No module named " ++ quoted name ++ "; " ++ quoted parent ++ " is not a package"
  | .relativeModule name =>
    "the 'package' argument is required to perform a relative import for " ++ quoted name
  | .brokenDocument fault => "failed to parse keybindings JSONC: " ++ fault.message
  | .manifestForm => "manifest 'contributes' is not an object"
  | .documentForm => "expected a top-level array of keybinding objects"
  | .recordForm index shown =>
    "keybinding #" ++ toString index ++ " is not an object: " ++ shown
  | .undecodable malformed => malformed.message
  | .nullInName => "embedded null byte"

/-- The name under which a fault is known. -/
def className : Fault → String
  | .violation broken => broken.kind.name
  | .blankCondition => "NotImplementedError"
  | .notCondition _ | .notAction _ | .unhashable _ | .relativeModule _ => "TypeError"
  | .absentMember _ _ => "AttributeError"
  | .absentRule _ _ => "KeyError"
  | .absentModule _ | .notPackage _ _ => "ModuleNotFoundError"
  | .undecodable _ => "UnicodeDecodeError"
  | _ => "ValueError"

end Fault

end KeyChords
