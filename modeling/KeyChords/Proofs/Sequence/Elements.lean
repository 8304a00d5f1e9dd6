import Mathlib.Data.List.Forall2
import KeyChords.Draft.Term
import KeyChords.Proofs.Progress

/-! # Elements of sequences

A sequence is written down as a term over names of commands, commands, steps and further sequences,
to any depth. Whether such a term can be evaluated is read off its syntax: it is refused exactly
when something in it is flawed (`KeyChords.Term.Flawed`). Otherwise it builds a draft that stands
for the leaves of the term, from left to right, each with its hints
(`KeyChords.Term.Element.settled`).
-/

namespace KeyChords

namespace Draft

/-- Whether a draft is no action at all: a condition, or a value that names no command. -/
def isForeign : Draft → Bool
  | .action _ | .step _ | .value (.str _) => false
  | _ => true

/-! ## What cannot be shown -/

private theorem display_eq_error {value : Json.Value} {fault : Fault}
    (shows : value.display = .error fault) : fault = .integerLength := by
  rcases error_of_bind_eq_error shows with refused | ⟨_, -, ended⟩
  · exact (Json.Datum.requireWritable_eq_error_iff.mp refused).2
  · cases ended

private theorem shownCommand_eq_error {command : Command} {fault : Fault}
    (shows : shownCommand command = .error fault) : fault = .integerLength := by
  cases command with
  | invoke name args =>
      rcases error_of_bind_eq_error shows with refused | ⟨_, -, ended⟩
      · exact display_eq_error refused
      · cases ended
  | inject text => cases shows

private theorem shownStep_eq_error {step : Step} {fault : Fault}
    (shows : shownStep step = .error fault) : fault = .integerLength := by
  rcases error_of_bind_eq_error shows with refused | ⟨_, -, delayed⟩
  · exact shownCommand_eq_error refused
  · rcases error_of_bind_eq_error delayed with refused | ⟨_, -, ended⟩
    · exact display_eq_error refused
    · cases ended

private theorem shownAll_steps_eq_error {steps : List Step} {fault : Fault}
    (shows : shownAll (steps.map .step) = .error fault) : fault = .integerLength := by
  induction steps with
  | nil => cases shows
  | cons step rest ih =>
      rw [List.map_cons, shownAll, shown] at shows
      cases first : shownStep step with
      | error inner =>
          rw [first] at shows
          obtain rfl : inner = fault := Except.error.inj shows
          exact shownStep_eq_error first
      | ok text =>
          rw [first] at shows
          cases others : shownAll (rest.map .step) with
          | error inner =>
              rw [others] at shows
              obtain rfl : inner = fault := Except.error.inj shows
              exact ih others
          | ok texts =>
              rw [others] at shows
              cases shows

/-- What is no action at all can only not be shown for an integer that is too long, or as a
condition that is not well formed. -/
theorem shown_eq_error_of_isForeign {draft : Draft} {fault : Fault}
    (strange : draft.isForeign = true) (shows : draft.shown = .error fault) :
    fault = .integerLength ∨ draft.isCondition = true ∧ draft.toCondition = .error fault := by
  cases draft with
  | action acted => cases strange
  | step taken => cases strange
  | value held => exact Or.inl (display_eq_error shows)
  | _ => exact Or.inr ⟨rfl, eq_error_of_map (eq_error_of_map shows)⟩

end Draft

namespace Term

/-- Whether a term writes down one command, which may be made a step. -/
def isCommand : Term → Bool
  | .invoke _ _ | .inject _ | .notification _ => true
  | _ => false

/-- Whether a sequence takes a term as an element: the name of a command, a command, a step or a
sequence. A suppression is none of these, and a text that is empty names nothing. -/
def isPart : Term → Bool
  | .value (.str name) => name ≠ ""
  | .invoke _ _ | .inject _ | .notification _ | .step _ _ _ | .sequence _ => true
  | _ => false

/-- **What may be written down in a sequence**, rightly or wrongly. Arguments are values, and so is
what is no action at all: it has been built when it comes to stand in the sequence. -/
inductive Element : Term → Prop where
  | name (text : String) : Element (.value (.str text))
  | invoke (name : String) {args : Literal} {held : Json.Value} (read : args.evaluate = .ok held) :
      Element (.invoke name args)
  | inject (text : String) : Element (.inject text)
  | notification (message : String) : Element (.notification message)
  | suppress : Element .suppress
  | foreign {term : Term} {draft : Draft} (built : term.evaluate = .ok draft)
      (strange : draft.isForeign = true) : Element term
  | step {operand : Term} (async : Bool) (delay : Int) :
      Element operand → Element (.step operand async delay)
  | sequence {elements : List Term} :
      (∀ element ∈ elements, Element element) → Element (.sequence elements)

/-- **What is wrong with a term**, at whatever depth: a command without a name, a step over
something else than a command or with a negative delay, a sequence without elements or with an
element that it does not take. -/
inductive Flawed : Term → Prop where
  | unnamed (args : Literal) : Flawed (.invoke "" args)
  | operand {operand : Term} (async : Bool) (delay : Int) :
      Flawed operand → Flawed (.step operand async delay)
  | noCommand {operand : Term} (async : Bool) (delay : Int) :
      operand.isCommand = false → Flawed (.step operand async delay)
  | negative (operand : Term) (async : Bool) {delay : Int} :
      delay < 0 → Flawed (.step operand async delay)
  | empty : Flawed (.sequence [])
  | element {element : Term} {elements : List Term} :
      element ∈ elements → Flawed element → Flawed (.sequence elements)
  | noPart {element : Term} {elements : List Term} :
      element ∈ elements → element.isPart = false → Flawed (.sequence elements)

mutual

/-- **The leaves of a term**, from left to right: its commands as the steps of a macro, each with
the hints that are attached to it. -/
def leaves : Term → List Step
  | .value (.str name) => [⟨.invoke name .null, false, 0⟩]
  | .invoke name args =>
    match args.evaluate with
    | .ok held => [⟨.invoke name held, false, 0⟩]
    | .error _ => []
  | .inject text => [⟨.inject text, false, 0⟩]
  | .notification message => [⟨Command.notification message, false, 0⟩]
  | .step operand async delay =>
    (leaves operand).map fun step => ⟨step.command, async, delay.toNat⟩
  | .sequence elements => leavesAll elements
  | _ => []
termination_by structural term => term

/-- The leaves of several elements in a row. -/
def leavesAll : List Term → List Step
  | [] => []
  | element :: rest => leaves element ++ leavesAll rest
termination_by structural elements => elements

end

/-- The leaves of some terms are those of each. -/
theorem leavesAll_eq_flatMap (elements : List Term) :
    leavesAll elements = elements.flatMap leaves := by
  induction elements with
  | nil => rfl
  | cons element rest ih => rw [leavesAll, ih, List.flatMap_cons]

/-! ## What is built -/

/-- **The draft that a term builds** stands for the leaves of the term. -/
inductive Builds : Term → Draft → Prop where
  | name (text : String) : Builds (.value (.str text)) (.value (.str text))
  | suppress : Builds .suppress (.action .suppress)
  | command {term : Term} {command : Command} (single : term.isCommand = true)
      (leaf : term.leaves = [⟨command, false, 0⟩]) : Builds term (.action (.run command))
  | step {operand : Term} {async : Bool} {delay : Int} {taken : Step}
      (leaf : (Term.step operand async delay).leaves = [taken]) :
      Builds (.step operand async delay) (.step taken)
  | sequence {elements : List Term} (filled : leavesAll elements ≠ []) :
      Builds (.sequence elements) (.action (.ofSteps (leavesAll elements)))
  | foreign {term : Term} {draft : Draft} (strange : draft.isForeign = true)
      (noCommand : term.isCommand = false) (noPart : term.isPart = false) : Builds term draft

variable {term : Term} {draft : Draft}

/-- A term that stands for a command is a part. -/
theorem isPart_of_isCommand (single : term.isCommand = true) : term.isPart = true := by
  cases term <;> simp_all [isCommand, isPart]

private theorem Builds.run_of_isCommand (builds : Builds term draft)
    (single : term.isCommand = true) :
    ∃ command, draft = .action (.run command) ∧ term.leaves = [⟨command, false, 0⟩] := by
  cases builds with
  | command _ leaf => exact ⟨_, rfl, leaf⟩
  | foreign _ noCommand _ => exact absurd single (by simp [noCommand])
  | _ => exact absurd single (by simp [isCommand])

/-- What is no command is refused as the operand of a step. -/
theorem Builds.toStep_eq_refuse (builds : Builds term draft) (other : term.isCommand = false)
    (async : Bool) (delay : Int) : draft.toStep async delay = draft.refuse .notStepAction := by
  cases builds with
  | command single _ => exact absurd single (by simp [other])
  | foreign strange _ _ =>
      cases draft with
      | action acted => exact absurd strange (by simp [Draft.isForeign])
      | _ => rfl
  | _ => rfl

/-- **What a term builds can only not be shown** for an integer that is too long, or as a condition
that is not well formed. -/
theorem Builds.shown_eq_error (builds : Builds term draft) {fault : Fault}
    (shows : draft.shown = .error fault) :
    fault = .integerLength ∨ draft.isCondition = true ∧ draft.toCondition = .error fault := by
  cases builds with
  | name text => exact Or.inl (Draft.display_eq_error shows)
  | suppress => cases shows
  | command _ _ => exact Or.inl (Draft.shownCommand_eq_error shows)
  | step _ => exact Or.inl (Draft.shownStep_eq_error shows)
  | sequence _ => exact Or.inl (Draft.shownAll_steps_eq_error (eq_error_of_map shows))
  | foreign strange _ _ => exact Draft.shown_eq_error_of_isForeign strange shows

/-- What a sequence takes stands in it for its leaves. -/
theorem Builds.elements_eq (builds : Builds term draft) (part : term.isPart = true) :
    draft.elements = .ok (term.leaves.map .step) := by
  cases builds with
  | name text =>
      have named : text ≠ "" := by simpa [isPart] using part
      simp only [Draft.elements, Command.named, if_neg named, leaves]
      rfl
  | suppress => exact absurd part (by simp [isPart])
  | command _ leaf => rw [leaf]; rfl
  | step leaf => rw [leaf]; rfl
  | sequence filled => rfl
  | foreign _ _ noPart => exact absurd part (by simp [noPart])

private theorem Builds.leaves_ne_nil (builds : Builds term draft) (part : term.isPart = true) :
    term.leaves ≠ [] := by
  cases builds with
  | name text => simp [leaves]
  | suppress => exact absurd part (by simp [isPart])
  | command _ leaf => simp [leaf]
  | step leaf => simp [leaf]
  | sequence filled => exact filled
  | foreign _ _ noPart => exact absurd part (by simp [noPart])

/-- What a sequence does not take is refused as an element. -/
theorem Builds.elements_refused (builds : Builds term draft) (other : term.isPart = false) :
    draft.elements = .error .emptyCommand ∨
      draft.elements = draft.refuse .notSequenceable := by
  cases builds with
  | name text =>
      obtain rfl : text = "" := by simpa [isPart] using other
      exact .inl rfl
  | suppress => exact .inr rfl
  | command single _ => exact absurd (isPart_of_isCommand single) (by simp [other])
  | foreign strange _ _ =>
      cases draft with
      | action acted => exact absurd strange (by simp [Draft.isForeign])
      | step taken => exact absurd strange (by simp [Draft.isForeign])
      | value held =>
          cases held with
          | str text => exact absurd strange (by simp [Draft.isForeign])
          | _ => exact .inr rfl
      | _ => exact .inr rfl
  | _ => exact absurd other (by simp [isPart])

/-! ## How a term is settled -/

/-- A term stands in another: as the operand of a step or the element of a sequence, at whatever
depth. -/
inductive Within (part : Term) : Term → Prop where
  | operand (async : Bool) (delay : Int) : Within part (.step part async delay)
  | inOperand {operand : Term} (async : Bool) (delay : Int) :
      Within part operand → Within part (.step operand async delay)
  | element {elements : List Term} : part ∈ elements → Within part (.sequence elements)
  | inElement {element : Term} {elements : List Term} :
      element ∈ elements → Within part element → Within part (.sequence elements)

/-- **What a flawed term is refused for**: a fault of the class of invalid values, or the fault of a
condition in the term that is not well formed, so that no message can show it. -/
def Refuses (term : Term) (fault : Fault) : Prop :=
  fault.className = "ValueError" ∨
    ∃ part draft, Within part term ∧ part.evaluate = .ok draft ∧ draft.isCondition = true ∧
      draft.toCondition = .error fault

/-- **A term is settled**: it is flawed and refused, or it is not and builds what its leaves say. -/
def Settled (term : Term) : Prop :=
  (Flawed term ∧ ∃ fault, term.evaluate = .error fault ∧ Refuses term fault) ∨
    (¬ Flawed term ∧ ∃ draft, term.evaluate = .ok draft ∧ Builds term draft)

private theorem Refuses.of_within {whole : Term} {fault : Fault} (refuses : Refuses term fault)
    (within : ∀ part, Within part term → Within part whole) : Refuses whole fault := by
  rcases refuses with invalid | ⟨part, draft, inside, broken⟩
  · exact .inl invalid
  · exact .inr ⟨part, draft, within part inside, broken⟩

/-- A draft that is refused where it stands. -/
theorem Builds.exists_refuse {α : Type} {whole : Term} (builds : Builds term draft)
    (wording : String → Fault) (invalid : ∀ shown, (wording shown).className = "ValueError")
    (inside : Within term whole) (built : term.evaluate = .ok draft) :
    ∃ fault, (draft.refuse wording : Except Fault α) = .error fault ∧ Refuses whole fault := by
  rw [Draft.refuse]
  cases shows : draft.shown with
  | ok shown => exact ⟨_, rfl, .inl (invalid shown)⟩
  | error inner =>
      refine ⟨inner, rfl, ?_⟩
      rcases builds.shown_eq_error shows with rfl | ⟨condition, broken⟩
      · exact .inl rfl
      · exact .inr ⟨term, draft, inside, built, condition, broken⟩

/-- A term with a foreign value is neither a command, nor a part, nor flawed. -/
theorem noCommand_of_isForeign (built : term.evaluate = .ok draft)
    (strange : draft.isForeign = true) :
    term.isCommand = false ∧ term.isPart = false ∧ ¬ Flawed term := by
  cases term with
  | invoke name args =>
      obtain ⟨held, -, named⟩ := exists_of_bind_eq_ok built
      obtain ⟨command, -, rfl⟩ := exists_of_map_eq_ok named
      exact absurd strange (by simp [Draft.isForeign])
  | step operand async delay =>
      obtain ⟨inner, -, hinted⟩ := exists_of_bind_eq_ok built
      obtain ⟨taken, -, rfl⟩ := exists_of_map_eq_ok hinted
      exact absurd strange (by simp [Draft.isForeign])
  | sequence elements =>
      obtain ⟨drafts, -, joined⟩ := exists_of_bind_eq_ok built
      obtain ⟨action, -, rfl⟩ := exists_of_map_eq_ok joined
      exact absurd strange (by simp [Draft.isForeign])
  | inject text =>
      cases built
      exact absurd strange (by simp [Draft.isForeign])
  | notification message =>
      cases built
      exact absurd strange (by simp [Draft.isForeign])
  | value held =>
      cases held with
      | str text =>
          cases built
          exact absurd strange (by simp [Draft.isForeign])
      | _ => exact ⟨rfl, rfl, nofun⟩
  | _ => exact ⟨rfl, rfl, nofun⟩

/-- A draft is built by a term and stands for its leaves. -/
def BuiltBy (term : Term) (draft : Draft) : Prop :=
  term.evaluate = .ok draft ∧ Builds term draft

/-- The drafts of several elements: the first that is refused, or all of them. -/
theorem evaluateAll_cases {elements : List Term} (settled : ∀ element ∈ elements, Settled element) :
    (∃ element ∈ elements, Flawed element ∧
        ∃ fault, evaluateAll elements = .error fault ∧ Refuses element fault) ∨
      ((∀ element ∈ elements, ¬ Flawed element) ∧
        ∃ drafts, evaluateAll elements = .ok drafts ∧
          List.Forall₂ BuiltBy elements drafts) := by
  induction elements with
  | nil => exact .inr ⟨by simp, [], rfl, .nil⟩
  | cons first rest ih =>
      have step : evaluateAll (first :: rest) = do
          let draft ← evaluate first
          let drafts ← evaluateAll rest
          return draft :: drafts := rfl
      rcases settled first List.mem_cons_self with
        ⟨flawed, fault, refused, refuses⟩ | ⟨sound, draft, built, builds⟩
      · exact .inl ⟨first, List.mem_cons_self, flawed, fault, by rw [step, refused]; rfl, refuses⟩
      · rcases ih fun element member => settled element (List.mem_cons_of_mem first member) with
          ⟨element, member, flawed, fault, refused, refuses⟩ | ⟨others, drafts, builtAll, buildsAll⟩
        · exact .inl ⟨element, List.mem_cons_of_mem first member, flawed, fault,
            by rw [step, built, refused]; rfl, refuses⟩
        · exact .inr ⟨List.forall_mem_cons.mpr ⟨sound, others⟩, draft :: drafts,
            by rw [step, built, builtAll]; rfl, .cons ⟨built, builds⟩ buildsAll⟩

/-- What several elements put into a macro: the first that is refused, or the leaves of them all. -/
theorem allElements_cases {whole : Term} {elements : List Term} {drafts : List Draft}
    (inside : ∀ element ∈ elements, Within element whole)
    (builds : List.Forall₂ BuiltBy elements drafts) :
    ((∃ element ∈ elements, element.isPart = false) ∧
        ∃ fault, Draft.allElements drafts = .error fault ∧ Refuses whole fault) ∨
      ((∀ element ∈ elements, element.isPart = true) ∧
        Draft.allElements drafts = .ok ((leavesAll elements).map .step) ∧
        (elements ≠ [] → leavesAll elements ≠ [])) := by
  induction builds with
  | nil => exact .inr ⟨by simp, rfl, by simp⟩
  | @cons first draft rest drafts built _ ih =>
      obtain ⟨evaluated, builds⟩ := built
      cases part : first.isPart with
      | false =>
          have refused : ∃ fault, draft.elements = .error fault ∧ Refuses whole fault := by
            rcases builds.elements_refused part with unnamed | other
            · exact ⟨_, unnamed, .inl rfl⟩
            · rw [other]
              exact builds.exists_refuse .notSequenceable (fun _ => rfl)
                (inside first List.mem_cons_self) evaluated
          obtain ⟨fault, refused, refuses⟩ := refused
          exact .inl ⟨⟨first, List.mem_cons_self, part⟩, fault,
            by rw [Draft.allElements, refused], refuses⟩
      | true =>
          have taken := builds.elements_eq part
          rcases ih fun element member => inside element (List.mem_cons_of_mem first member) with
            ⟨⟨element, member, noPart⟩, fault, refused, refuses⟩ | ⟨parts, steps, -⟩
          · exact .inl ⟨⟨element, List.mem_cons_of_mem first member, noPart⟩, fault,
              by rw [Draft.allElements, taken, refused], refuses⟩
          · refine .inr ⟨List.forall_mem_cons.mpr ⟨part, parts⟩,
              by rw [Draft.allElements, taken, steps, leavesAll, List.map_append], fun _ => ?_⟩
            rw [leavesAll]
            exact List.append_ne_nil_of_left_ne_nil (builds.leaves_ne_nil part) _

/-- A negative delay is an invalid value, even where its digits are too many to be shown. -/
theorem toStep_of_negative (command : Command) (async : Bool) {delay : Int}
    (negative : delay < 0) :
    ∃ fault, (Draft.action (.run command)).toStep async delay = .error fault ∧
      fault.className = "ValueError" := by
  rw [Draft.toStep, if_pos negative]
  cases checked : (Json.Datum.int delay : Json.Value).requireWritable with
  | ok => exact ⟨.negativeDelay delay, rfl, rfl⟩
  | error inner =>
      obtain rfl := (Json.Datum.requireWritable_eq_error_iff.mp checked).2
      exact ⟨.integerLength, rfl, rfl⟩

/-- A step over a settled operand. -/
theorem settled_step {operand : Term} (async : Bool) (delay : Int) (settled : Settled operand) :
    Settled (.step operand async delay) := by
  rcases settled with ⟨flawed, fault, refused, refuses⟩ | ⟨sound, draft, built, builds⟩
  · refine .inl ⟨.operand async delay flawed, fault, by rw [evaluate, refused]; rfl, ?_⟩
    exact refuses.of_within fun part => .inOperand async delay
  · have hinted : (Term.step operand async delay).evaluate =
        .step <$> draft.toStep async delay := by
      rw [evaluate, built]
      rfl
    cases single : operand.isCommand with
    | false =>
        obtain ⟨fault, refused, refuses⟩ :=
          builds.exists_refuse .notStepAction (fun _ => rfl) (Within.operand async delay) built
        refine .inl ⟨.noCommand async delay single, fault, ?_, refuses⟩
        rw [hinted, builds.toStep_eq_refuse single, refused]
        rfl
    | true =>
        obtain ⟨command, rfl, leaf⟩ := builds.run_of_isCommand single
        by_cases negative : delay < 0
        · obtain ⟨fault, refused, invalid⟩ := toStep_of_negative command async negative
          refine .inl ⟨.negative operand async negative, fault, ?_, .inl invalid⟩
          rw [hinted, refused]
          rfl
        · refine .inr ⟨?_, .step ⟨command, async, delay.toNat⟩, ?_, .step ?_⟩
          · rintro (_ | ⟨_, _, flawed⟩ | ⟨_, _, other⟩ | ⟨_, _, below⟩)
            · exact sound flawed
            · exact absurd single (by simp [other])
            · exact negative below
          · rw [hinted, Draft.toStep, if_neg negative]
            rfl
          · rw [leaves, leaf]
            rfl

/-- A sequence over settled elements. -/
theorem settled_sequence {elements : List Term} (settled : ∀ element ∈ elements, Settled element) :
    Settled (.sequence elements) := by
  rcases evaluateAll_cases settled with
    ⟨element, member, flawed, fault, refused, refuses⟩ | ⟨sound, drafts, built, builds⟩
  · refine .inl ⟨.element member flawed, fault, by rw [evaluate, refused]; rfl, ?_⟩
    exact refuses.of_within fun part => .inElement member
  · have joined : (Term.sequence elements).evaluate = .action <$> Draft.sequence drafts := by
      rw [evaluate, built]
      rfl
    rcases allElements_cases (fun _ => Within.element) builds with
      ⟨⟨element, member, other⟩, fault, refused, refuses⟩ | ⟨parts, steps, filled⟩
    · exact .inl ⟨.noPart member other, fault, by rw [joined, Draft.sequence, refused]; rfl,
        refuses⟩
    · by_cases blank : elements = []
      · subst blank
        exact .inl ⟨.empty, .emptySequence, by rw [joined, Draft.sequence, steps]; rfl, .inl rfl⟩
      · have nonempty := filled blank
        refine .inr ⟨?_, .action (.ofSteps (leavesAll elements)), ?_, .sequence nonempty⟩
        · intro flawed
          cases flawed with
          | empty => exact blank rfl
          | element member flawed => exact sound _ member flawed
          | noPart member other => exact absurd (parts _ member) (by simp [other])
        · rw [joined, Draft.sequence, steps]
          split
          · next none => exact absurd (List.map_eq_nil_iff.mp (Except.ok.inj none)) nonempty
          · next taken =>
              rw [← Except.ok.inj taken]
              rfl
          · next failed => cases failed

/-- **Every element is settled.** -/
theorem Element.settled (element : Element term) : Settled term := by
  induction element with
  | name text => exact .inr ⟨nofun, _, rfl, .name text⟩
  | @invoke name args held read =>
      have run : (Term.invoke name args).evaluate =
          (fun command => .action (.run command)) <$> Command.named name held := by
        change (args.evaluate >>= fun held => _) = _
        rw [read]
        rfl
      by_cases blank : name = ""
      · subst blank
        exact .inl ⟨.unnamed args, .emptyCommand, run, .inl rfl⟩
      · refine .inr ⟨?_, .action (.run (.invoke name held)), ?_, .command rfl ?_⟩
        · rintro ⟨⟩
          exact blank rfl
        · rw [run, Command.named, if_neg blank]
          rfl
        · simp only [leaves, read]
  | inject text => exact .inr ⟨nofun, _, rfl, .command rfl rfl⟩
  | notification message => exact .inr ⟨nofun, _, rfl, .command rfl rfl⟩
  | suppress => exact .inr ⟨nofun, _, rfl, .suppress⟩
  | foreign built strange =>
      obtain ⟨noCommand, noPart, sound⟩ := noCommand_of_isForeign built strange
      exact .inr ⟨sound, _, built, .foreign strange noCommand noPart⟩
  | step async delay _ ih => exact settled_step async delay ih
  | sequence _ ih => exact settled_sequence ih

end Term

end KeyChords
