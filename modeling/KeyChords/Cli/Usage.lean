import KeyChords.Chord.Leaders
import KeyChords.Cli.Options
import KeyChords.Debug.Category

/-! # Usage and help

The usage names the options in short. It stands before the refusal of a command line, and it opens
the help.
-/

namespace KeyChords.Cli

/-- The name of the program in its messages. -/
def programName : String := "keybindings-compile"

/-- Texts as lines. -/
def lines (texts : List String) : String :=
  String.join (texts.map (· ++ "\n"))

/-- **The usage.** -/
def usage : String :=
  lines
    ["usage: keybindings-compile [-h] [-o FILE] [-k MOD:FUNC] [-l KEY] [--no-typing]",
      "                           [-c FILE] [-d [VALUE]]",
      "                           [--color \x7bauto,always,never\x7d]"]

/-- **The help.** -/
def help : String :=
  usage ++
    lines
      ["",
        "Compile a keymap into a VS Code keybindings JSON array.",
        "",
        "options:",
        "  -h, --help            show this help message and exit",
        "  -o FILE, --out FILE   Write output to FILE (default: stdout).",
        "  -k MOD:FUNC, --keymap MOD:FUNC",
        "                        Keymap factory to compile (default: " ++
          stockTarget ++ ").",
        "  -l KEY, --leader KEY  Additional leader key (repeatable).",
        "  --no-typing           Skip the generated typing bindings.",
        "  -c FILE, --check FILE",
        "                        Compare compiled output with a checked-in JSONC file.",
        "  -d [VALUE], --debug [VALUE]",
        "                        Debug level or filter: " ++
          "N, target=CATEGORY, chord=KEY (repeatable).",
        "  --color \x7bauto,always,never\x7d",
        "                        ANSI coloring of debug output (default: auto).",
        "",
        "Examples:",
        "  keybindings-compile > keybindings.json",
        "",
        "  keybindings-compile --check keybindings.json",
        "",
        "  keybindings-compile -d 3 -d target=alias --no-typing",
        "",
        "Default leaders: " ++ ", ".intercalate Leaders.stock,
        "",
        "Debug targets: " ++ Debug.categoryList]

/-- What is said of a command line that is refused. -/
def refusal (fault : UsageFault) : String :=
  usage ++ lines [programName ++ ": error: " ++ fault.message]

end KeyChords.Cli
