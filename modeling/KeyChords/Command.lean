import KeyChords.Fault
import KeyChords.Json.Value

/-! # Commands

A command is what the editor runs: one by its name, with arguments, or the one that types a text
into the terminal. A macro is itself run by one command, which takes the steps as its arguments.
-/

namespace KeyChords

open Json

/-- **One command.** Arguments that are `null` count as none. -/
inductive Command where
  | invoke (name : String) (args : Value)
  | inject (text : String)

namespace Command

/-- The command that runs macros. -/
def macroRunner : String := "keynav.multiCommand.execute"

/-- The command that sends a text to the terminal. -/
def terminalSender : String := "workbench.action.terminal.sendSequence"

/-- The command that shows a message. -/
def notifier : String := "keynav.message.info"

/-- The name and the arguments of a command. -/
def render : Command → String × Value
  | .invoke name args => (name, args)
  | .inject text => (terminalSender, .object [("text", .str text)])

/-- A command with a name, checked. -/
def named (name : String) (args : Value) : Except Fault Command :=
  if name = "" then .error .emptyCommand else .ok (.invoke name args)

/-- The command that shows the given message. -/
def notification (message : String) : Command :=
  .invoke notifier (.object [("message", .str message)])

end Command

/-- **One step of a macro**: a command, whether the next step waits for it, and the milliseconds to
wait before it. -/
structure Step where
  command : Command
  async : Bool := false
  delay : Nat := 0

namespace Step

/-- A step as an argument of the command that runs macros. Empty arguments and the hints that are
not set are left out. -/
def toValue (step : Step) : Value :=
  let (name, args) := step.command.render
  .object <|
    [("command", .str name)] ++
    (if args.isEmpty then [] else [("args", args)]) ++
    (if step.async then [("async", .bool true)] else []) ++
    (if step.delay = 0 then [] else [("delay", .int step.delay)])

end Step

end KeyChords
