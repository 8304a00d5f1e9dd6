import KeyChords.Keymap
import KeyChords.Table.Split

/-! # The stock keymap

The keymap that ships with the compiler, in sections. A section is a list of rules that are bound
one after the other, so a chord that two sections bind under the same condition fails the build.
-/

namespace KeyChords.Stock

open Chord Condition

/-- A chord with one of its rules. -/
abbrev ChordRule := String × Rule

/-! ## Contexts -/

def qmk : Condition := atom Split.keyboardContext
def plainKeyboard : Condition := leaf Split.keyboardContext true
def recording : Condition := atom Split.recordingContext
def notRecording : Condition := leaf Split.recordingContext true
def findMode : Condition := atom "keynav.findMode"
def quickOpen : Condition := atom "inQuickOpen"
def notQuickOpen : Condition := leaf "inQuickOpen" true
def editorTextFocus : Condition := atom "editorTextFocus"
def editorFocus : Condition := atom "editorFocus"
def notEditorFocus : Condition := leaf "editorFocus" true
def suggesting : Condition := atom "suggestWidgetVisible"
def notSuggesting : Condition := leaf "suggestWidgetVisible" true
def sideBarFocus : Condition := atom "sideBarFocus"
def notSideBarFocus : Condition := leaf "sideBarFocus" true
def panelFocus : Condition := atom "panelFocus"
def notPanelFocus : Condition := leaf "panelFocus" true
def panelActive : Condition := atom Split.panelContext
def panelInactive : Condition := leaf Split.panelContext true

/-! ## Actions and rules -/

/-- Runs a command without arguments. -/
def run (name : String) : Action := .run (.invoke name .null)

/-- Runs several commands, one after the other. -/
def runAll (names : List String) : Action :=
  .ofSteps (names.map fun name => { command := .invoke name .null })

/-- Closes the panel first, so that what follows opens in the editor area. -/
def closePanelThen (name : String) : Action :=
  .ofSteps
    [{ command := .invoke "workbench.action.closePanel" .null },
      { command := .invoke name .null, delay := 50 }]

/-- Shows the definition in an editor beside the present one. -/
def revealInNewEditor : Action :=
  runAll ["workbench.action.splitEditorRight", "editor.action.revealDefinition"]

/-- An action on a chord under a condition. -/
def rule (chord : String) (condition : Condition) (action : Action) : ChordRule :=
  (chord, ⟨condition, action⟩)

/-- Several actions on a chord, each under its condition. -/
def rules (chord : String) (bindings : List (Condition × Action)) : List ChordRule :=
  bindings.map fun (condition, action) => rule chord condition action

/-- A command on a chord under every condition. -/
def only (chord name : String) : List ChordRule := [rule chord always (run name)]

/-- Runs one action while the panel is active and another while it is not. -/
def byPanel (chord : String) (active otherwise : Action) : List ChordRule :=
  rules chord [(panelActive, active), (panelInactive, otherwise)]

/-- Runs one action while a recording runs and another while none does. -/
def byRecording (chord : String) (running otherwise : Action) : List ChordRule :=
  rules chord [(recording, running), (notRecording, otherwise)]

/-- A chord behind the leader that opens most of them. -/
def ctrlXThen (follower : String) : String := led ctrlX follower

/-! ## Sections -/

/-- Searching, and replacing what is found. -/
def finding : List ChordRule :=
  rules (ctrl "f")
    [(both qmk recording, run "keynav.record.findNext"),
      (both qmk notRecording, run "keynav.find"),
      (both plainKeyboard quickOpen, run "workbench.action.quickPickManyToggle"),
      (both plainKeyboard notQuickOpen, run "keynav.cursorRight")] ++
  rules (ctrl "s")
    [(both plainKeyboard notRecording, run "keynav.find"),
      (qmk, run "keynav.cursorRight"),
      (both plainKeyboard recording, run "keynav.record.findNext")] ++
  only (ctrl "r") "keynav.reverseFind" ++
  only (alt "s") "editor.action.startFindReplaceAction" ++
  [rule (shift "enter") findMode (run "editor.action.previousMatchFindAction"),
    rule "enter" findMode (run "editor.action.nextMatchFindAction")] ++
  only (alt "r") "toggleSearchEditorRegex" ++
  only (alt "c") "toggleSearchEditorCaseSensitive" ++
  rules (alt "f4")
    [(both qmk editorFocus, run "toggleFindWholeWord"),
      (both qmk (atom "inSearchEditor"), run "toggleSearchEditorWholeWord"),
      (both qmk (atom "searchViewletFocus"), run "toggleSearchWholeWord"),
      (both (both (both qmk notEditorFocus) (leaf "inSearchEditor" true))
          (leaf "searchViewletFocus" true),
        run "toggleSearchWholeWord")]

/-- The rules of a key that moves up or down, through text or through what is on offer. -/
def vertical (chord move suggestion picked : String) (match? : Option String) : List ChordRule :=
  rules chord
    ([(both editorTextFocus notSuggesting, run move),
      (both editorTextFocus suggesting, run suggestion),
      (quickOpen, run picked)] ++
      (match?.map fun name => (findMode, run name)).toList)

/-- The rules of a key that moves left or right. -/
def sideways (chord move : String) : List ChordRule :=
  rules chord
    [(quickOpen, run "workbench.action.quickPickManyToggle"), (notQuickOpen, run move)]

/-- Moving the cursor. -/
def cursor : List ChordRule :=
  vertical (ctrl "p") "keynav.cursorUp" "selectPrevSuggestion"
    "workbench.action.quickOpenNavigatePreviousInFilePicker"
    (some "editor.action.previousMatchFindAction") ++
  vertical "up" "keynav.cursorUp" "selectPrevSuggestion"
    "workbench.action.quickOpenNavigatePreviousInFilePicker" none ++
  vertical (ctrl "n") "keynav.cursorDown" "selectNextSuggestion"
    "workbench.action.quickOpenNavigateNextInFilePicker"
    (some "editor.action.nextMatchFindAction") ++
  vertical "down" "keynav.cursorDown" "selectNextSuggestion"
    "workbench.action.quickOpenNavigateNextInFilePicker" none ++
  sideways "left" "keynav.cursorLeft" ++
  sideways (ctrl "b") "keynav.cursorLeft" ++
  sideways "right" "keynav.cursorRight" ++
  only "home" "keynav.cursorHome" ++
  rules (ctrl "a")
    [(qmk, run "editor.action.selectAll"), (plainKeyboard, run "keynav.cursorHome")] ++
  only (ctrl (shift "a")) "editor.action.selectAll" ++
  only (ctrl (shift "home")) "editor.action.selectAll" ++
  only (shift "home") "editor.action.selectAll" ++
  only "end" "keynav.cursorEnd" ++
  only (ctrl "e") "keynav.cursorEnd" ++
  only (alt "f") "keynav.cursorWordRight" ++
  only (ctrl "right") "keynav.cursorWordRight" ++
  only (alt "b") "keynav.cursorWordLeft" ++
  only (ctrl "left") "keynav.cursorWordLeft" ++
  only (ctrlXThen "p") "keynav.cursorTop" ++
  only (ctrlXThen "l") "workbench.action.gotoLine" ++
  only "pageup" "keynav.jump" ++
  only (ctrl "v") "keynav.fall" ++
  only "pagedown" "keynav.fall" ++
  rules (ctrl "g")
    [(both (both notSideBarFocus notQuickOpen) notSuggesting, run "keynav.ctrlG"),
      (both (both sideBarFocus notQuickOpen) notSuggesting,
        run "workbench.action.focusActiveEditorGroup"),
      (both quickOpen notSuggesting, run "workbench.action.closeQuickOpen"),
      (suggesting, run "hideSuggestWidget")]

/-- Editing text. -/
def editing : List ChordRule :=
  only (ctrl "w") "keynav.yank" ++
  only (ctrl "y") "keynav.paste" ++
  only (ctrl "k") "keynav.kill" ++
  byPanel (ctrl "j") (run "workbench.action.previousPanelView") (run "keynav.toggleMarkMode") ++
  byPanel (ctrl "l") (run "workbench.action.nextPanelView") (run "keynav.jump") ++
  byPanel (ctrl "/") .suppress (run "keynav.undo") ++
  only (ctrl "h") "keynav.deleteLeft" ++
  only "backspace" "keynav.deleteLeft" ++
  only (ctrl "d") "keynav.deleteRight" ++
  only "delete" "keynav.deleteRight" ++
  only (alt "h") "keynav.deleteWordLeft" ++
  only (alt "backspace") "keynav.deleteWordLeft" ++
  rules (ctrl "backspace")
    [(both qmk panelFocus, .run (.inject "\x08")),
      (either plainKeyboard notPanelFocus, run "keynav.deleteWordLeft")] ++
  only (alt "d") "keynav.deleteWordRight" ++
  only (alt "delete") "keynav.deleteWordRight" ++
  only (ctrl "delete") "keynav.deleteWordRight" ++
  only (alt "x") "workbench.action.showCommands" ++
  only (ctrl ";") "editor.action.commentLine" ++
  only (ctrlXThen "tab") "keynav.format" ++
  only (ctrl "i") "editor.action.indentLines" ++
  only (ctrlXThen "i") "editor.action.organizeImports" ++
  only (ctrlXThen "y") "editor.action.clipboardPasteAction" ++
  only (ctrlXThen (shift "insert")) "editor.action.clipboardPasteAction" ++
  only (alt "y") "editor.action.clipboardPasteAction" ++
  [rule (shift "pageup") editorFocus (run "editor.action.selectHighlights")]

/-- A chord that goes to the terminal or the group of editors before the present one. -/
def previousGroup (chord : String) : List ChordRule :=
  byPanel chord (run "workbench.action.terminal.focusPrevious")
    (run "workbench.action.focusPreviousGroup")

/-- A chord that goes to the terminal or the group of editors behind the present one. -/
def nextGroup (chord : String) : List ChordRule :=
  byPanel chord (run "workbench.action.terminal.focusNext")
    (run "workbench.action.focusNextGroup")

/-- Files, editors and groups of them. -/
def files : List ChordRule :=
  only (ctrlXThen "s") "workbench.action.files.save" ++
  byPanel (ctrlXThen "f") (closePanelThen "workbench.action.quickOpen")
    (run "workbench.action.quickOpen") ++
  [rule (ctrlXThen "v") always
      (runAll ["workbench.action.splitEditorDown", "workbench.action.focusPreviousGroup"]),
    rule (ctrlXThen "h") always
      (runAll ["workbench.action.splitEditorRight", "workbench.action.focusPreviousGroup"])] ++
  only (ctrl (shift "n")) "workbench.action.files.newUntitledFile" ++
  only (ctrlXThen "d") "editor.action.revealDefinition" ++
  [rule (ctrl (shift "d")) always revealInNewEditor,
    rule (shift "delete") always revealInNewEditor] ++
  [ctrl "pageup", ctrl "u", ctrl (shift "tab")].flatMap previousGroup ++
  [ctrl "pagedown", ctrl "o", ctrl "tab"].flatMap nextGroup

/-- Recording keys and playing them back. -/
def recordings : List ChordRule :=
  only (ctrlXThen "x") "keynav.record.startRecording" ++
  byRecording (alt "e") (run "keynav.record.endRecording") (run "keynav.record.playRecording") ++
  byRecording (alt (shift "e")) (run "keynav.record.saveRecordingAs")
    (run "keynav.record.playNamedRecording") ++
  rules (ctrl (shift "s"))
    [(both plainKeyboard recording, run "keynav.record.find"),
      (both plainKeyboard notRecording, run "workbench.action.findInFiles")] ++
  rules (ctrl (shift "f"))
    [(both qmk recording, run "keynav.record.find"),
      (both qmk notRecording, run "workbench.action.findInFiles")]

/-- The panel, the side bar and the terminals. -/
def panels : List ChordRule :=
  only (ctrlXThen "q") "workbench.action.toggleSidebarVisibility" ++
  only (ctrlXThen "z") "workbench.action.togglePanel" ++
  byPanel (ctrl "q")
    (.run (Command.notification "Run ctrl+shift+q to kill the terminal"))
    (run "workbench.action.closeEditorsAndGroup") ++
  byPanel (ctrl (shift "q")) (run "workbench.action.terminal.kill") .suppress ++
  byPanel (ctrlXThen "n") (run "workbench.action.terminal.rename") (run "keynav.cursorBottom") ++
  byPanel (ctrl "t") (run "workbench.action.closePanel")
    (run "workbench.action.toggleMaximizedPanel") ++
  only (ctrl (shift "t")) "workbench.action.terminal.newInActiveWorkspace" ++
  only (alt "t") "workbench.action.terminal.newInActiveWorkspace" ++
  only (alt (shift "t")) "workbench.action.terminal.newWithProfile" ++
  byPanel (ctrlXThen "c") (.run (.inject "\x18\x03")) .suppress

/-- Opening the settings and the key bindings. -/
def settings : List ChordRule :=
  [(ctrl ".", "workbench.action.openGlobalKeybindings"),
    (ctrlXThen ".", "workbench.action.openGlobalKeybindingsFile"),
    (ctrl ",", "workbench.action.openSettings"),
    (ctrlXThen ",", "workbench.action.openSettingsJson")].flatMap fun (chord, name) =>
      byPanel chord (closePanelThen name) (run name)

/-- What belongs to no other section. -/
def others : List ChordRule :=
  [rule (ctrlXThen "m") (compare "editorLangId" "'markdown'" true)
      (run "markdown.showPreviewToSide")] ++
  only (alt "z") "git.revertSelectedRanges" ++
  only (alt "p") "workbench.action.editor.previousChange" ++
  only (alt "n") "workbench.action.editor.nextChange" ++
  only (ctrlXThen "t") "go.test.package" ++
  only (ctrlXThen "r") "workbench.action.reloadWindow" ++
  only (alt "g") "noop" ++
  only (ctrlXThen "o") "workbench.action.openRecent" ++
  only (ctrlXThen "k") "keynav.toggleQMK" ++
  only (ctrlXThen "e") "workbench.extensions.action.checkForUpdates"

/-- **The sections of the stock keymap**, in the order in which they are bound. -/
def sections : List (List ChordRule) :=
  [finding, cursor, editing, files, recordings, panels, settings, others]

/-! ## The keymap -/

/-- The table of all sections. -/
def table : Progress Table :=
  Progress.each Table.bindAll ∅ sections

/-- The default bindings that are taken away. -/
def removedDefaults : List (String × String) :=
  [(ctrl "p", "workbench.action.quickOpen"),
    (ctrl "n", "workbench.action.files.newUntitledFile")]

/-- The removals of those bindings. -/
def removals : Progress Removals :=
  Progress.each (fun removals (chord, command) => removals.register chord command) ∅
    removedDefaults

/-- **The stock keymap**, with or without the typing expansion. -/
def keymap (typing : Bool := true) : Report Keymap := do
  let removals ← removals.toReport
  let table ← table.toReport
  return { table, removals, expansion := if typing then some Expansion.keyboard else none }

end KeyChords.Stock
