import KeyChords.Proofs.Debug.Values

/-! # Configuring the debug output

A call of `configure` is refused for an unknown colour mode or else for the first option value that
is refused. A refused call keeps the level and both filters. The colour mode it keeps only when the
one that was asked for is unknown or in force already, because a known mode is taken over before the
values are read. Whether this is seen later is decided by how settings look, on a terminal or
elsewhere: two settings with the same filter show the same in all later calls exactly when nothing
is shown at their level or both have colours there or neither has
(`KeyChords.Debug.Settings.shown_eq_iff`). The outcome of a refused call follows
(`KeyChords.Debug.Settings.configure_refusal`).
-/

namespace KeyChords.Debug

open Text

namespace ColorMode

private theorem ofName?_eq_some_iff {name : String} {mode : ColorMode} :
    ofName? name = some mode ↔ mode.name = name := by
  constructor
  · intro found
    simpa using List.find?_some found
  · rintro rfl
    exact ofName?_name mode

private theorem ofName?_eq_none_iff {name : String} :
    ofName? name = none ↔ ∀ mode : ColorMode, mode.name ≠ name := by
  rw [Option.eq_none_iff_forall_ne_some]
  simp only [ne_eq, ofName?_eq_some_iff]

private theorem name_inj {first second : ColorMode} :
    first.name = second.name ↔ first = second := by
  rw [← ofName?_eq_some_iff, ofName?_name, Option.some.injEq, eq_comm]

end ColorMode

namespace Filter

/-- An event that a filter asks for. -/
def wanted (filter : Filter) : Event :=
  ⟨1, filter.category.getD everyCategory, some filter.chord, ""⟩

private theorem admits_wanted {filter : Filter} (loud : filter.level ≠ 0) :
    filter.admits filter.wanted = true := by
  have least : (1 : Int) ≤ filter.level := by omega
  have some : 0 < filter.level := by omega
  cases asked : filter.category <;> simp [admits, wanted, asked, least, some]

end Filter

namespace Settings

variable {settings first second : Settings} {terminal : Bool} {values : List String}
  {color : String} {fault : Fault}

/-! ## Calls -/

private theorem configure_of_unknown (unknown : ∀ mode : ColorMode, mode.name ≠ color) :
    settings.configure values color = (settings, some (.colorMode (quoted color))) := by
  rw [configure, ColorMode.ofName?_eq_none_iff.mpr unknown]

private theorem configure_of_error (stopped : Filter.ofValues values = .error fault)
    (mode : ColorMode) :
    settings.configure values mode.name = ({ settings with color := mode }, some fault) := by
  rw [configure, ColorMode.ofName?_name, stopped]

private theorem configure_of_ok {filter : Filter} (read : Filter.ofValues values = .ok filter)
    (mode : ColorMode) :
    settings.configure values mode.name = ({ toFilter := filter, color := mode }, none) := by
  rw [configure, ColorMode.ofName?_name, read]

/-- **Something done with the debug output**: it is configured, or an operation of the library
reports its events. -/
inductive Call where
  | configure (values : List String) (color : String)
  | report (log : List Event)

/-- The settings after a call, and what is shown during it, on a terminal or elsewhere. -/
def perform (terminal : Bool) (settings : Settings) : Call → Settings × String
  | .configure values color => ((settings.configure values color).1, "")
  | .report log => (settings, settings.output terminal log)

/-- What is shown during each of several calls. -/
def shown (terminal : Bool) (settings : Settings) : List Call → List String
  | [] => []
  | call :: rest =>
    let (after, text) := settings.perform terminal call
    text :: after.shown terminal rest

/-! ## Settings that show the same -/

/-- **Settings that look alike**, on a terminal or elsewhere: the same filter, and a colour that
only one of them has is never seen. -/
structure LooksAlike (terminal : Bool) (first second : Settings) : Prop where
  filter : first.toFilter = second.toFilter
  color : first.level = 0 ∨ first.color.colors terminal = second.color.colors terminal

/-- Settings that look alike show each event by the same line. -/
theorem LooksAlike.line (alike : LooksAlike terminal first second) (event : Event) :
    first.line terminal event = second.line terminal event := by
  have admits : first.admits event = second.admits event := by rw [alike.filter]
  rcases alike.color with silent | same
  · have hidden : first.admits event = false := by simp [Filter.admits, silent]
    rw [Settings.line, Settings.line, ← admits, hidden]
    rfl
  · rw [Settings.line, Settings.line, ← admits]
    simp only [colored, same]

/-- Settings that look alike still do after the same call. -/
theorem LooksAlike.configure (alike : LooksAlike terminal first second) (values : List String)
    (color : String) :
    LooksAlike terminal (first.configure values color).1 (second.configure values color).1 := by
  cases named : ColorMode.ofName? color with
  | none =>
      have unknown := ColorMode.ofName?_eq_none_iff.mp named
      rw [configure_of_unknown unknown, configure_of_unknown unknown]
      exact alike
  | some mode =>
      obtain rfl := ColorMode.ofName?_eq_some_iff.mp named
      -- a known mode makes the colours the same, whatever becomes of the values
      cases read : Filter.ofValues values with
      | error fault =>
          rw [configure_of_error read, configure_of_error read]
          exact ⟨alike.filter, Or.inr rfl⟩
      | ok filter =>
          rw [configure_of_ok read, configure_of_ok read]
          exact ⟨rfl, Or.inr rfl⟩

/-- **Settings that look alike** show the same during a call and look alike after it. -/
theorem LooksAlike.perform (alike : LooksAlike terminal first second) (call : Call) :
    (first.perform terminal call).2 = (second.perform terminal call).2 ∧
      LooksAlike terminal (first.perform terminal call).1 (second.perform terminal call).1 := by
  cases call with
  | configure values color => exact ⟨rfl, alike.configure values color⟩
  | report log =>
      refine ⟨?_, alike⟩
      have lines : first.line terminal = second.line terminal := funext alike.line
      simp only [Settings.perform, output, lines]

/-- **Settings that look alike** show the same from then on. -/
theorem LooksAlike.shown (alike : LooksAlike terminal first second) (calls : List Call) :
    first.shown terminal calls = second.shown terminal calls := by
  induction calls generalizing first second with
  | nil => rfl
  | cons call rest ih =>
      obtain ⟨same, after⟩ := alike.perform call
      rw [Settings.shown, Settings.shown]
      exact congrArg₂ List.cons same (ih after)

private theorem colored_eq_iff {text : String} {level : Int} :
    first.colored terminal text level = second.colored terminal text level ↔
      first.color.colors terminal = second.color.colors terminal := by
  have longer : levelColor level ++ text ++ "\x1b[0m" ≠ text := by
    intro same
    have lengths := congrArg String.length same
    have reset : "\x1b[0m".length = 4 := by decide
    rw [String.length_append, String.length_append] at lengths
    omega
  cases bright : first.color.colors terminal <;>
    cases alsoBright : second.color.colors terminal <;>
      simp [colored, bright, alsoBright, longer, longer.symm]

/-- **What settings show tells how they look**: a colour that only one of them has is seen in an
event that both let through. -/
theorem looksAlike_of_shown (same : first.toFilter = second.toFilter)
    (shows : ∀ calls, first.shown terminal calls = second.shown terminal calls) :
    LooksAlike terminal first second := by
  refine ⟨same, ?_⟩
  by_cases silent : first.level = 0
  · exact Or.inl silent
  · right
    have passes := Filter.admits_wanted silent
    have alsoPasses : second.admits first.wanted = true := same ▸ passes
    have lines : first.line terminal first.wanted = second.line terminal first.wanted := by
      simpa [Settings.shown, Settings.perform, output, String.join] using
        shows [.report [first.wanted]]
    rw [line, line, if_pos passes, if_pos alsoPasses] at lines
    exact colored_eq_iff.mp (String.append_left_inj _ |>.mp lines)

/-- **When settings with one filter show the same** in all calls. -/
theorem shown_eq_iff (same : first.toFilter = second.toFilter) :
    (∀ calls, first.shown terminal calls = second.shown terminal calls) ↔
      first.level = 0 ∨ first.color.colors terminal = second.color.colors terminal := by
  constructor
  · intro shows
    exact (looksAlike_of_shown same shows).color
  · intro color calls
    exact LooksAlike.shown ⟨same, color⟩ calls

/-! ## Refused calls -/

/-- **Why a call is refused**: its colour mode is unknown, or else for the first value that is. -/
def Refuses (values : List String) (color : String) (fault : Fault) : Prop :=
  ((∀ mode : ColorMode, mode.name ≠ color) ∧ fault = .colorMode (quoted color)) ∨
    ((∃ mode : ColorMode, mode.name = color) ∧ Filter.FirstRefused values fault)

private theorem refusal_eq_some_iff :
    (settings.configure values color).2 = some fault ↔ Refuses values color fault := by
  cases named : ColorMode.ofName? color with
  | none =>
      have unknown := ColorMode.ofName?_eq_none_iff.mp named
      simp [configure_of_unknown unknown, Refuses, unknown, eq_comm]
  | some mode =>
      obtain rfl := ColorMode.ofName?_eq_some_iff.mp named
      have known : ¬ ∀ other : ColorMode, other.name ≠ mode.name := fun unknown => unknown mode rfl
      simp only [Refuses, known, false_and, false_or, exists_apply_eq_apply, true_and,
        ← Filter.ofValues_eq_error_iff]
      cases read : Filter.ofValues values with
      | error stopped => simp [configure_of_error read]
      | ok filter => simp [configure_of_ok read]

/-- What a refused call leaves. A known colour mode is taken over all the same. -/
theorem after_of_refused (refused : (settings.configure values color).2 = some fault) :
    ((∀ mode : ColorMode, mode.name ≠ color) ∧ (settings.configure values color).1 = settings) ∨
      ∃ mode : ColorMode, mode.name = color ∧
        (settings.configure values color).1 = { settings with color := mode } := by
  rcases refusal_eq_some_iff.mp refused with ⟨unknown, -⟩ | ⟨⟨mode, rfl⟩, first⟩
  · rw [configure_of_unknown unknown]
    exact Or.inl ⟨unknown, rfl⟩
  · rw [configure_of_error (Filter.ofValues_eq_error_iff.mpr first)]
    exact Or.inr ⟨mode, rfl, rfl⟩

theorem Refuses.className_eq (refuses : Refuses values color fault) :
    fault.className = "ValueError" := by
  rcases refuses with ⟨-, rfl⟩ | ⟨-, before, raw, rest, -, -, refused⟩
  · rfl
  · exact refused.className_eq

/-- **What a refused call leaves.** A call is refused exactly for an unknown colour mode or for the
first refused value. It leaves the level and both filters as they were. All four settings are left
so exactly when the colour mode of the call is unknown or in force already. All later calls show
what they would have shown, on a terminal or elsewhere, exactly when nothing is shown at the level
in force, or the colour mode of the call is unknown or brings colours there just when the one in
force does. -/
theorem configure_refusal (settings : Settings) (values : List String) (color : String) :
    let after := (settings.configure values color).1
    let refusal := (settings.configure values color).2
    (∀ fault, refusal = some fault ↔ Refuses values color fault) ∧
      ∀ fault, refusal = some fault →
        fault.className = "ValueError" ∧
        after.level = settings.level ∧ after.category = settings.category ∧
        after.chord = settings.chord ∧
        (after = settings ↔ ∀ mode : ColorMode, mode.name = color → mode = settings.color) ∧
        ∀ terminal,
          (∀ calls, after.shown terminal calls = settings.shown terminal calls) ↔
            settings.level = 0 ∨ ∀ mode : ColorMode, mode.name = color →
              mode.colors terminal = settings.color.colors terminal := by
  refine ⟨fun fault => refusal_eq_some_iff, fun fault refused => ?_⟩
  refine ⟨(refusal_eq_some_iff.mp refused).className_eq, ?_⟩
  rcases after_of_refused refused with ⟨unknown, kept⟩ | ⟨mode, rfl, recolored⟩
  · have absent (mode : ColorMode) : mode.name = color ↔ False := iff_of_false (unknown mode) id
    simp [kept, absent]
  · have one : ({ settings with color := mode } : Settings).toFilter = settings.toFilter := rfl
    have same : ({ settings with color := mode } : Settings) = settings ↔
        mode = settings.color := by
      cases settings
      simp
    simp only [recolored, ColorMode.name_inj, forall_eq, same, shown_eq_iff one, implies_true,
      and_self]

/-- A target that is none behind a value that is read, and a colour mode that is in force. -/
theorem configure_unknownTarget :
    let settings : Settings := { level := 2, category := some "alias", color := .always }
    let call := settings.configure ["3", "target=nowhere"] "always"
    call.2 = some (.debugTarget "nowhere") ∧ call.1 = settings ∧
      ∀ terminal calls, call.1.shown terminal calls = settings.shown terminal calls := by
  intro settings call
  have refused : call.2 = some (.debugTarget "nowhere") := by decide +kernel
  obtain ⟨-, -, -, -, kept, shows⟩ :=
    (configure_refusal settings ["3", "target=nowhere"] "always").2 _ refused
  have inForce (mode : ColorMode) (named : mode.name = "always") : mode = .always :=
    ColorMode.name_inj.mp named
  refine ⟨refused, kept.mpr inForce, fun terminal => (shows terminal).mpr
    (Or.inr fun mode named => ?_)⟩
  rw [inForce mode named]

/-- A refused call that brings colours: the settings are not what they were, and the next event is
shown in another way where there is no terminal. -/
theorem configure_recolors :
    let settings : Settings := { level := 1 }
    let call := settings.configure ["x"] "always"
    let report := Call.report [Category.alias.event 1 none "m"]
    call.2 = some (.debugValue "x") ∧ call.1 ≠ settings ∧
      settings.shown false [report] = ["[DEBUG:1:alias] m\n"] ∧
      call.1.shown false [report] = ["\x1b[33m[DEBUG:1:alias] m\x1b[0m\n"] := by
  decide +kernel

end Settings

end KeyChords.Debug
