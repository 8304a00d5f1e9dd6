import KeyChords.Progress

/-! # Runs of steps

`Progress.each` takes one step for each element of a list until a fault stops it. What relates a
state to the elements that were taken to reach it is carried through the run by one step lemma
(`KeyChords.Progress.each_cases`). A run that is stopped has taken every element in front of the
refused one, and its fault is the fault of that one step.
-/

namespace KeyChords

/-- What succeeds in two steps has taken the first and then the second. -/
theorem exists_of_bind_eq_ok {ε α β : Type} {first : Except ε α} {next : α → Except ε β}
    {result : β} (ran : first >>= next = .ok result) :
    ∃ value, first = .ok value ∧ next value = .ok result := by
  cases first with
  | error fault => cases ran
  | ok value => exact ⟨value, rfl, ran⟩

/-- What fails in two steps has failed in the first, or in the second behind it. -/
theorem error_of_bind_eq_error {ε α β : Type} {first : Except ε α} {next : α → Except ε β}
    {fault : ε} (failed : first >>= next = .error fault) :
    first = .error fault ∨ ∃ value, first = .ok value ∧ next value = .error fault := by
  cases first with
  | error inner => exact Or.inl (congrArg Except.error (Except.error.inj failed))
  | ok value => exact Or.inr ⟨value, rfl, failed⟩

theorem exists_of_map_eq_ok {ε α β : Type} {first : Except ε α} {change : α → β} {result : β}
    (ran : change <$> first = .ok result) : ∃ value, first = .ok value ∧ result = change value := by
  cases first with
  | error fault => cases ran
  | ok value => exact ⟨value, rfl, (Except.ok.inj ran).symm⟩

theorem eq_error_of_map {ε α β : Type} {first : Except ε α} {change : α → β} {fault : ε}
    (failed : change <$> first = .error fault) : first = .error fault := by
  cases first with
  | error inner => exact congrArg Except.error (Except.error.inj failed)
  | ok value => cases failed

section Checks

variable {ε α : Type} {check : α → Except ε Unit} {elements : List α}

/-- A list passes a check when all its elements do. -/
theorem forM_eq_ok_iff :
    elements.forM check = .ok () ↔ ∀ element ∈ elements, check element = .ok () := by
  induction elements with
  | nil => exact ⟨fun _ => List.forall_mem_nil _, fun _ => rfl⟩
  | cons element rest hyp =>
    rw [List.forM_eq_forM, List.forM_cons, ← List.forM_eq_forM, List.forall_mem_cons, ← hyp]
    cases checked : check element with
    | error fault => exact ⟨nofun, nofun⟩
    | ok => exact ⟨fun others => ⟨rfl, others⟩, And.right⟩

end Checks

namespace Report

variable {α β : Type}

@[simp]
theorem result_bind (report : Report α) (next : α → Report β) :
    (report >>= next).result = report.result >>= fun value => (next value).result := by
  obtain ⟨log, result⟩ := report
  cases result <;> rfl

@[simp]
theorem result_map (change : α → β) (report : Report α) :
    (change <$> report).result = change <$> report.result := by
  obtain ⟨log, result⟩ := report
  cases result <;> rfl

@[simp]
theorem result_pure (value : α) : (pure value : Report α).result = .ok value := rfl

@[simp]
theorem result_ofExcept (result : Except Fault α) : (ofExcept result).result = result := rfl

@[simp]
theorem result_liftM (result : Except Fault α) :
    (liftM result : Report α).result = result := rfl

@[simp]
theorem result_say (event : Debug.Event) : (say event).result = .ok () := rfl

end Report

namespace Progress

variable {σ ι : Type}

/-- A progress reports its state, or the fault that stopped it. -/
theorem result_toReport (progress : Progress σ) :
    progress.toReport.result =
      match progress.fault with
      | none => .ok progress.state
      | some fault => .error fault := rfl

/-- What a progress reports is its state. -/
theorem state_of_toReport {progress : Progress σ} {state : σ}
    (ended : progress.toReport.result = .ok state) : progress.state = state := by
  rw [result_toReport] at ended
  split at ended
  · exact Except.ok.inj ended
  · cases ended

theorem fault_andThen_of_none {progress : Progress σ} (sound : progress.fault = none)
    (next : σ → Progress σ) : (progress.andThen next).fault = (next progress.state).fault := by
  simp only [andThen, sound]

theorem state_andThen_of_none {progress : Progress σ} (sound : progress.fault = none)
    (next : σ → Progress σ) : (progress.andThen next).state = (next progress.state).state := by
  simp only [andThen, sound]

/-- What has stopped goes no further. -/
theorem andThen_of_some {progress : Progress σ} {fault : Fault}
    (stopped : progress.fault = some fault) (next : σ → Progress σ) :
    progress.andThen next = progress := by
  simp only [andThen, stopped]

/-- **A run ends or is stopped.** Let `Holds state made` be kept by every step that succeeds. A run
that ends reaches a state at which it holds of all elements; a run that is stopped has reached such
a state for the elements in front of the one that is refused. -/
theorem each_cases (step : σ → ι → Progress σ) (Holds : σ → List ι → Prop)
    (kept : ∀ state made element, Holds state made → (step state element).fault = none →
      Holds (step state element).state (made ++ [element]))
    (elements : List ι) {state : σ} {made : List ι} (start : Holds state made) :
    ((each step state elements).fault = none ∧
        Holds (each step state elements).state (made ++ elements)) ∨
      ∃ before element after reached fault, elements = before ++ element :: after ∧
        Holds reached (made ++ before) ∧ (step reached element).fault = some fault ∧
        (each step state elements).fault = some fault ∧
        (each step state elements).state = (step reached element).state := by
  induction elements generalizing state made with
  | nil =>
      left
      rw [List.append_nil]
      exact ⟨rfl, start⟩
  | cons element rest ih =>
      cases outcome : (step state element).fault with
      | some fault =>
          right
          refine ⟨[], element, rest, state, fault, rfl, ?_, outcome, ?_, ?_⟩
          · rwa [List.append_nil]
          · rw [each, andThen_of_some outcome, outcome]
          · rw [each, andThen_of_some outcome]
      | none =>
          rw [each, fault_andThen_of_none outcome, state_andThen_of_none outcome]
          rcases ih (kept state made element start outcome) with
            ended | ⟨before, refused, after, reached, fault, split, holds, stops, same⟩
          · left
            rwa [List.append_assoc] at ended
          · right
            refine ⟨element :: before, refused, after, reached, fault, ?_, ?_, stops, same⟩
            · rw [split, List.cons_append]
            · rwa [List.append_assoc] at holds

/-- **What no step breaks holds in the state that a run leaves**, whether or not it is stopped. -/
theorem each_keeps (step : σ → ι → Progress σ) (Kept : σ → Prop)
    (kept : ∀ state element, Kept state → Kept (step state element).state)
    (elements : List ι) {state : σ} (start : Kept state) :
    Kept (each step state elements).state := by
  induction elements generalizing state with
  | nil => exact start
  | cons element rest ih =>
      cases outcome : (step state element).fault with
      | some fault =>
          rw [each, andThen_of_some outcome]
          exact kept state element start
      | none =>
          rw [each, state_andThen_of_none outcome]
          exact ih (kept state element start)

/-- A run over two lists goes on with the second where it ended with the first. -/
theorem each_append_of_none {step : σ → ι → Progress σ} {state : σ} {elements : List ι}
    (sound : (each step state elements).fault = none) (others : List ι) :
    (each step state (elements ++ others)).fault =
      (each step (each step state elements).state others).fault := by
  induction elements generalizing state with
  | nil => rfl
  | cons element rest ih =>
      cases outcome : (step state element).fault with
      | some fault =>
          rw [each, andThen_of_some outcome, outcome] at sound
          cases sound
      | none =>
          rw [each, fault_andThen_of_none outcome] at sound
          rw [List.cons_append, each, fault_andThen_of_none outcome, ih sound, each,
            state_andThen_of_none outcome]

/-- A run that is stopped takes none of the elements behind. -/
theorem each_append_of_some {step : σ → ι → Progress σ} {state : σ} {elements : List ι}
    {fault : Fault} (stopped : (each step state elements).fault = some fault) (others : List ι) :
    (each step state (elements ++ others)).fault = some fault := by
  induction elements generalizing state with
  | nil => cases stopped
  | cons element rest ih =>
      cases outcome : (step state element).fault with
      | some inner =>
          rw [each, andThen_of_some outcome] at stopped
          rwa [List.cons_append, each, andThen_of_some outcome]
      | none =>
          rw [each, fault_andThen_of_none outcome] at stopped
          rw [List.cons_append, each, fault_andThen_of_none outcome]
          exact ih stopped

/-- To go through the images of some elements is to go through the elements. -/
theorem each_map {κ : Type} (step : σ → ι → Progress σ) (change : κ → ι) (state : σ)
    (elements : List κ) :
    each step state (elements.map change) =
      each (fun state element => step state (change element)) state elements := by
  induction elements generalizing state with
  | nil => rfl
  | cons element rest ih => simp only [List.map_cons, each, ih]

/-- Two operations are alike when the same fault stops them, or none does, and the states that they
reach are related. -/
structure Alike {τ : Type} (Related : σ → τ → Prop) (one : Progress σ) (two : Progress τ) :
    Prop where
  fault : one.fault = two.fault
  state : Related one.state two.state

section Alike

variable {τ : Type} {Related : σ → τ → Prop}

/-- Runs that go alike, and go on alike, go alike. -/
theorem Alike.andThen {one : Progress σ} {two : Progress τ} (alike : Alike Related one two)
    {next : σ → Progress σ} {other : τ → Progress τ}
    (go : ∀ left right, Related left right → Alike Related (next left) (other right)) :
    Alike Related (one.andThen next) (two.andThen other) := by
  cases outcome : one.fault with
  | some fault =>
      rw [andThen_of_some outcome, andThen_of_some (alike.fault.symm.trans outcome)]
      exact alike
  | none =>
      have sound : two.fault = none := alike.fault.symm.trans outcome
      have further := go one.state two.state alike.state
      refine ⟨?_, ?_⟩
      · rw [fault_andThen_of_none outcome, fault_andThen_of_none sound]
        exact further.fault
      · rw [state_andThen_of_none outcome, state_andThen_of_none sound]
        exact further.state

/-- **Runs of alike steps are alike.** -/
theorem Alike.each {step : σ → ι → Progress σ} {other : τ → ι → Progress τ}
    (kept : ∀ left right element, Related left right →
      Alike Related (step left element) (other right element))
    (elements : List ι) {one : σ} {two : τ} (start : Related one two) :
    Alike Related (Progress.each step one elements) (Progress.each other two elements) := by
  induction elements generalizing one two with
  | nil => exact ⟨rfl, start⟩
  | cons element rest ih =>
      rw [Progress.each, Progress.each]
      exact (kept one two element start).andThen fun _ _ related => ih related

end Alike

end Progress

end KeyChords
