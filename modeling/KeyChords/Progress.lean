import KeyChords.Debug.Event
import KeyChords.Fault

/-! # Outcomes of operations

A `Report` is the outcome of an operation that either answers or fails; its events are kept either
way. A `Progress` is the outcome of an operation on a state: when it fails half way, the state is
the one that was reached.
-/

namespace KeyChords

open Debug

/-- **An answer or a fault**, with the events up to it. -/
structure Report (α : Type) where
  log : List Event
  result : Except Fault α

namespace Report

variable {α β : Type}

/-- An answer without events. -/
def answer (value : α) : Report α := ⟨[], .ok value⟩

/-- A fault without events. -/
def fail (fault : Fault) : Report α := ⟨[], .error fault⟩

/-- Nothing but an event. -/
def say (event : Event) : Report Unit := ⟨[event], .ok ()⟩

/-- Goes on with the answer, unless there is none. -/
def andThen (report : Report α) (next : α → Report β) : Report β :=
  match report.result with
  | .ok value => ⟨report.log ++ (next value).log, (next value).result⟩
  | .error fault => ⟨report.log, .error fault⟩

instance : Monad Report where
  pure := answer
  bind := andThen

/-- A result without events. -/
def ofExcept (result : Except Fault α) : Report α := ⟨[], result⟩

instance : MonadLift (Except Fault) Report := ⟨ofExcept⟩

end Report

/-- **How far an operation on a state got**: the state it left, the events, and the fault that
stopped it, if one did. -/
structure Progress (σ : Type) where
  state : σ
  log : List Event
  fault : Option Fault

namespace Progress

variable {σ τ ι : Type}

/-- An operation that went through. -/
def done (state : σ) (log : List Event) : Progress σ := ⟨state, log, none⟩

/-- An operation that a fault stopped before it said anything. -/
def stopped (state : σ) (fault : Fault) : Progress σ := ⟨state, [], some fault⟩

/-- The same outcome for a state that is seen through a function. -/
def map (change : σ → τ) (progress : Progress σ) : Progress τ :=
  ⟨change progress.state, progress.log, progress.fault⟩

/-- Goes on from the state that was reached, unless a fault stopped the operation. -/
def andThen (progress : Progress σ) (next : σ → Progress σ) : Progress σ :=
  match progress.fault with
  | some _ => progress
  | none =>
    ⟨(next progress.state).state, progress.log ++ (next progress.state).log,
      (next progress.state).fault⟩

/-- Takes one step for each element of a list, up to the first fault. -/
def each (step : σ → ι → Progress σ) (state : σ) : List ι → Progress σ
  | [] => done state []
  | element :: rest => (step state element).andThen fun reached => each step reached rest

/-- The final state as an answer, when no fault stopped the operation. -/
def toReport (progress : Progress σ) : Report σ :=
  ⟨progress.log,
    match progress.fault with
    | none => .ok progress.state
    | some fault => .error fault⟩

end Progress

end KeyChords
