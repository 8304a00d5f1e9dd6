import KeyChords.Proofs.Dict
import KeyChords.Proofs.Sequence.Elements

/-! # Sequences are flat

However deep sequences are nested, the outer one holds the steps of all their leaves, from left to
right, and no other sequence. So it does not matter how the elements are grouped: terms with one
frontier build one macro, if none of them groups nothing at all. The macro is rendered with one
object for each leaf (`KeyChords.Term.sequence_flattens`).
-/

namespace KeyChords

open Json

namespace Step

/-- **An object shows a step**: it names the command, and it has arguments, the hint not to wait and
the delay only where there are any. -/
structure ShownBy (step : Step) (fields : Fields String) : Prop where
  command : fields.get? "command" = some (.str step.command.render.1)
  args : fields.get? "args" =
    if step.command.render.2.isEmpty then none else some step.command.render.2
  async : fields.get? "async" = if step.async then some (.bool true) else none
  delay : fields.get? "delay" = if step.delay = 0 then none else some (.int step.delay)
  keys : fields.keys.Sublist ["command", "args", "async", "delay"]

private theorem exists_shownBy (step : Step) : ∃ fields, step.toValue = .object fields ∧
    step.ShownBy fields := by
  have shown : step.toValue = .object ([("command", .str step.command.render.1)] ++
      (if step.command.render.2.isEmpty then [] else [("args", step.command.render.2)]) ++
      (if step.async then [("async", .bool true)] else []) ++
      if step.delay = 0 then [] else [("delay", .int step.delay)]) := rfl
  refine ⟨_, shown, ?_⟩
  cases empty : step.command.render.2.isEmpty <;> cases waits : step.async <;>
    by_cases prompt : step.delay = 0 <;> constructor <;>
    simp [Dict.get?_cons, empty, waits, prompt]

end Step

/-- A command that names what it runs. -/
def Command.IsNamed : Command → Prop
  | .invoke name _ => name ≠ ""
  | .inject _ => True

namespace Term

/-! ## Frontiers -/

mutual

/-- **The frontier of a term**: what is left of it when the sequences in it are opened. -/
def frontier : Term → List Term
  | .sequence elements => frontierAll elements
  | term => [term]
termination_by structural term => term

/-- The frontiers of several elements in a row. -/
def frontierAll : List Term → List Term
  | [] => []
  | element :: rest => frontier element ++ frontierAll rest
termination_by structural elements => elements

end

mutual

/-- Whether no sequence that is opened is without elements. -/
def isFilled : Term → Bool
  | .sequence elements => !elements.isEmpty && areFilled elements
  | _ => true
termination_by structural term => term

/-- Whether none of the elements holds a macro without elements. -/
def areFilled : List Term → Bool
  | [] => true
  | element :: rest => isFilled element && areFilled rest
termination_by structural elements => elements

end

/-- A term that can stand in a sequence. -/
def Sound (term : Term) : Prop :=
  ¬ Flawed term ∧ term.isPart = true

private theorem sound_sequence_iff {elements : List Term} :
    Sound (.sequence elements) ↔ elements ≠ [] ∧ ∀ element ∈ elements, Sound element := by
  constructor
  · rintro ⟨sound, -⟩
    refine ⟨?_, fun element member => ⟨fun flawed => sound (.element member flawed), ?_⟩⟩
    · rintro rfl
      exact sound .empty
    · by_contra other
      exact sound (.noPart member (by simpa using other))
  · rintro ⟨nonempty, sound⟩
    refine ⟨?_, rfl⟩
    intro flawed
    cases flawed with
    | empty => exact nonempty rfl
    | element member flawed => exact (sound _ member).1 flawed
    | noPart member other => exact absurd (sound _ member).2 (by simp [other])

private theorem element_sequence_iff {elements : List Term} :
    Element (.sequence elements) ↔ ∀ element ∈ elements, Element element := by
  refine ⟨?_, .sequence⟩
  intro element
  cases element with
  | foreign built strange =>
      exact absurd (noCommand_of_isForeign built strange).2.1 (by simp [isPart])
  | sequence elements => exact elements

mutual

/-- **What can stand in a sequence is told by its frontier**, if no sequence in it is empty. -/
theorem sound_iff_frontier (term : Term) :
    Sound term ↔ term.isFilled = true ∧ ∀ part ∈ term.frontier, Sound part := by
  cases term with
  | sequence elements =>
      rw [sound_sequence_iff, sound_iff_frontierAll elements, frontier, isFilled]
      simp [and_assoc]
  | _ => simp [frontier, isFilled]

private theorem sound_iff_frontierAll (elements : List Term) :
    (∀ element ∈ elements, Sound element) ↔
      areFilled elements = true ∧ ∀ part ∈ frontierAll elements, Sound part := by
  cases elements with
  | nil => simp [areFilled, frontierAll]
  | cons element rest =>
      rw [List.forall_mem_cons, sound_iff_frontier element, sound_iff_frontierAll rest, areFilled,
        frontierAll, List.forall_mem_append, Bool.and_eq_true]
      exact and_and_and_comm

end

mutual

private theorem element_iff_frontier (term : Term) :
    Element term ↔ ∀ part ∈ term.frontier, Element part := by
  cases term with
  | sequence elements => rw [element_sequence_iff, element_iff_frontierAll elements, frontier]
  | _ => simp [frontier]

private theorem element_iff_frontierAll (elements : List Term) :
    (∀ element ∈ elements, Element element) ↔ ∀ part ∈ frontierAll elements, Element part := by
  cases elements with
  | nil => simp [frontierAll]
  | cons element rest =>
      rw [List.forall_mem_cons, element_iff_frontier element, element_iff_frontierAll rest,
        frontierAll, List.forall_mem_append]

end

mutual

/-- Opening sequences keeps the leaves and their order. -/
theorem leaves_eq_frontier (term : Term) : term.leaves = term.frontier.flatMap leaves := by
  cases term with
  | sequence elements => rw [leaves, leavesAll_eq_frontierAll elements, frontier]
  | _ => simp [frontier]

private theorem leavesAll_eq_frontierAll (elements : List Term) :
    leavesAll elements = (frontierAll elements).flatMap leaves := by
  cases elements with
  | nil => rfl
  | cons element rest =>
      rw [leavesAll, leaves_eq_frontier element, leavesAll_eq_frontierAll rest, frontierAll,
        List.flatMap_append]

end

/-! ## Flattening -/

variable {elements : List Term}

/-- The leaves of a term that can stand in a sequence have names. -/
theorem Element.named {term : Term} (element : Element term) (sound : Sound term) :
    ∀ step ∈ term.leaves, step.command.IsNamed := by
  induction element with
  | name text =>
      have named : text ≠ "" := by simpa [isPart] using sound.2
      simpa [leaves, Command.IsNamed] using named
  | @invoke name args held read =>
      have named : name ≠ "" := by
        rintro rfl
        exact sound.1 (.unnamed args)
      simpa [leaves, read, Command.IsNamed] using named
  | inject text => simp [leaves, Command.IsNamed]
  | notification message =>
      simp [leaves, Command.notification, Command.IsNamed, Command.notifier]
  | suppress => exact absurd sound.2 (by simp [isPart])
  | foreign built strange =>
      exact absurd sound.2 (by simp [(noCommand_of_isForeign built strange).2.1])
  | @step operand async delay _ ih =>
      have single : operand.isCommand = true := by
        by_contra other
        exact sound.1 (.noCommand async delay (by simpa using other))
      have named := ih ⟨fun flawed => sound.1 (.operand async delay flawed),
        isPart_of_isCommand single⟩
      simpa [leaves] using named
  | sequence _ ih =>
      rw [sound_sequence_iff] at sound
      intro step member
      rw [leaves, leavesAll_eq_flatMap, List.mem_flatMap] at member
      obtain ⟨element, inside, leaf⟩ := member
      exact ih element inside (sound.2 element inside) step leaf

/-- A sequence that is not flawed builds the macro of its leaves. -/
theorem evaluate_sequence_of_sound (element : Element (.sequence elements))
    (sound : ¬ Flawed (.sequence elements)) :
    (Term.sequence elements).evaluate =
      .ok (.action (.ofSteps (Term.sequence elements).leaves)) := by
  rcases element.settled with ⟨flawed, -⟩ | ⟨-, draft, built, builds⟩
  · exact absurd flawed sound
  · cases builds with
    | sequence filled => rw [built, leaves]
    | command single _ => exact absurd single (by simp [isCommand])
    | foreign _ _ noPart => exact absurd noPart (by simp [isPart])

/-- **Regrouping.** A sequence with the same frontier builds the same macro, if nothing in it is an
empty sequence. -/
theorem evaluate_regrouped {others : List Term} (element : Element (.sequence elements))
    (sound : ¬ Flawed (.sequence elements)) (filled : (Term.sequence others).isFilled = true)
    (same : (Term.sequence others).frontier = (Term.sequence elements).frontier) :
    (Term.sequence others).evaluate = (Term.sequence elements).evaluate := by
  have parts := ((sound_iff_frontier _).mp ⟨sound, rfl⟩).2
  have otherSound : Sound (.sequence others) := (sound_iff_frontier _).mpr ⟨filled, same ▸ parts⟩
  have otherElement : Element (.sequence others) :=
    (element_iff_frontier _).mpr (same ▸ (element_iff_frontier _).mp element)
  rw [evaluate_sequence_of_sound otherElement otherSound.1,
    evaluate_sequence_of_sound element sound, leaves_eq_frontier (.sequence others), same,
    ← leaves_eq_frontier]

/-- **Macros are flat.** A sequence is refused exactly when something in it is flawed, at whatever
depth, and what it is refused for is an invalid value, unless a condition that is not well formed
stands in it. Otherwise it builds the macro of its leaves, and so does every sequence of the same
frontier. Each leaf runs a command with a name or sends a text; and the macro is rendered as the one
command that runs macros, with one object for each leaf. -/
theorem sequence_flattens (written : ∀ element ∈ elements, Element element) :
    ((∃ fault, (Term.sequence elements).evaluate = .error fault) ↔ Flawed (.sequence elements)) ∧
      (∀ fault, (Term.sequence elements).evaluate = .error fault →
        Refuses (.sequence elements) fault) ∧
      (¬ Flawed (.sequence elements) →
        let steps := (Term.sequence elements).leaves
        (Term.sequence elements).evaluate = .ok (.action (.ofSteps steps)) ∧
          (∀ others, (Term.sequence others).isFilled = true →
            (Term.sequence others).frontier = (Term.sequence elements).frontier →
            (Term.sequence others).evaluate = (Term.sequence elements).evaluate) ∧
          (∀ step ∈ steps, step.command.IsNamed) ∧
          (Action.ofSteps steps).render =
            .ok (Command.macroRunner, .object [("sequence", .list (steps.map Step.toValue))]) ∧
          ∀ step ∈ steps, ∃ fields, step.toValue = .object fields ∧ step.ShownBy fields) := by
  have element : Element (.sequence elements) := .sequence written
  have built (sound : ¬ Flawed (.sequence elements)) := evaluate_sequence_of_sound element sound
  refine ⟨⟨?_, ?_⟩, ?_, fun sound => ⟨built sound, ?_, ?_, Action.render_ofSteps _, ?_⟩⟩
  · rintro ⟨fault, refused⟩
    by_contra sound
    rw [built sound] at refused
    cases refused
  · intro flawed
    rcases element.settled with ⟨-, fault, refused, -⟩ | ⟨sound, -⟩
    · exact ⟨fault, refused⟩
    · exact absurd flawed sound
  · intro fault refused
    rcases element.settled with ⟨-, other, failed, refuses⟩ | ⟨sound, -⟩
    · rw [failed] at refused
      exact Except.error.inj refused ▸ refuses
    · rw [built sound] at refused
      cases refused
  · exact fun others filled same => evaluate_regrouped element sound filled same
  · exact element.named ⟨sound, rfl⟩
  · exact fun step _ => step.exists_shownBy

/-- A text to send between two commands, one of them with hints, grouped in two ways. -/
def nestedElements : List Term :=
  [.value (.str "save"), .sequence [.sequence [.step (.invoke "wait" .null) true 50], .inject "x"]]

/-- The elements in another grouping. -/
def regroupedElements : List Term :=
  [.sequence [.value (.str "save"), .step (.invoke "wait" .null) true 50], .inject "x"]

theorem nestedElements_flatten :
    (∀ element ∈ nestedElements, Element element) ∧ ¬ Flawed (.sequence nestedElements) ∧
      (Term.sequence regroupedElements).evaluate = (Term.sequence nestedElements).evaluate ∧
      (Term.sequence nestedElements).evaluate = .ok (.action (.ofSteps
        [⟨.invoke "save" .null, false, 0⟩, ⟨.invoke "wait" .null, true, 50⟩,
          ⟨.inject "x", false, 0⟩])) := by
  have written : ∀ element ∈ nestedElements, Element element := by
    have hinted : Element (.step (.invoke "wait" .null) true 50) :=
      .step true 50 (.invoke "wait" rfl)
    have inner :
        Element (.sequence [.sequence [.step (.invoke "wait" .null) true 50], .inject "x"]) :=
      .sequence (by simpa using ⟨.sequence (by simpa using hinted), .inject "x"⟩)
    simpa [nestedElements] using ⟨.name "save", inner⟩
  obtain ⟨refused, -, flat⟩ := sequence_flattens written
  have sound : ¬ Flawed (.sequence nestedElements) := by
    intro flawed
    obtain ⟨fault, failed⟩ := refused.mpr flawed
    cases failed
  obtain ⟨built, regroups, -⟩ := flat sound
  exact ⟨written, sound, regroups regroupedElements rfl rfl, built⟩

/-- A condition without content cannot be shown, so no message refuses it as an element. -/
theorem sequence_blank :
    Element .blank ∧ Flawed (.sequence [.value (.str "a"), .blank]) ∧
      (Term.sequence [.value (.str "a"), .blank]).evaluate = .error .blankCondition ∧
      Fault.blankCondition.className ≠ "ValueError" :=
  ⟨@Element.foreign .blank .blank rfl rfl, .noPart (.tail _ (.head _)) rfl, rfl, by decide⟩

end Term

end KeyChords
