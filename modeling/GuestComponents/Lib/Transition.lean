import Mathlib.Logic.Basic

/-! Transition systems with a computable step, and runs whose steps all meet a
guard. An invariant is shown once to hold initially and to survive one guarded
step; `Reachable.invariant` then gives it for every state of every guarded
run. Two guards are compared by `Reachable.weaken`, and a run that was computed
is turned into a reachable state by `reachable_of_exec` and `Reachable.execIf`. What is
said about the past of a run is said about its history (`System.withHistory`). -/
namespace GuestComponents.Lib

universe u v

/-- A labelled transition system: the states it may start in, and a partial
step function, so that a concrete run can be evaluated. -/
structure System (State : Type u) (Label : Type v) where
  start : State → Prop
  step : State → Label → Option State

namespace System

variable {State : Type u} {Label : Type v} (system : System State Label)
  {guard guard' : State → Label → Prop} {state final : State}

/-- The state after a list of labels, when each of them is enabled in turn. -/
def exec : State → List Label → Option State
  | state, [] => some state
  | state, label :: labels =>
    match system.step state label with
    | none => none
    | some next => exec next labels

/-- A run that is computed with a test before each step. -/
def execIf (test : State → Label → Bool) : State → List Label → Option State
  | state, [] => some state
  | state, label :: labels =>
    if test state label then
      match system.step state label with
      | none => none
      | some next => execIf test next labels
    else none

/-- The states of the runs all of whose steps meet `guard`. -/
inductive Reachable (guard : State → Label → Prop) : State → Prop where
  | start {state : State} : system.start state → Reachable guard state
  | step {state next : State} {label : Label} : Reachable guard state → guard state label →
      system.step state label = some next → Reachable guard next

/-- The guard every step meets: all runs of the system. -/
def Free : State → Label → Prop := fun _ _ => True

/-- The system with a history of its runs, which is recorded and never read. -/
def withHistory {History : Type u} (initial : State → History)
    (record : History → State → Label → State → History) : System (State × History) Label where
  start both := system.start both.1 ∧ both.2 = initial both.1
  step both label :=
    (system.step both.1 label).map fun next => (next, record both.2 both.1 label next)

variable {system}

theorem withHistory_step {History : Type u} {initial : State → History}
    {record : History → State → Label → State → History} {both both' : State × History} {label : Label}
    (stepped : (system.withHistory initial record).step both label = some both') :
    system.step both.1 label = some both'.1 ∧ both'.2 = record both.2 both.1 label both'.1 := by
  obtain ⟨next, ran, rfl⟩ := Option.map_eq_some_iff.mp stepped
  exact ⟨ran, rfl⟩

/-- What holds initially and survives one guarded step holds in every state a
guarded run reaches. -/
theorem Reachable.invariant {Inv : State → Prop} (initial : ∀ state, system.start state → Inv state)
    (preserved : ∀ state label next, Inv state → guard state label →
      system.step state label = some next → Inv next)
    (reached : system.Reachable guard state) : Inv state := by
  induction reached with
  | start begins => exact initial _ begins
  | step _ allowed ran ih => exact preserved _ _ _ ih allowed ran

/-- A run under a stronger guard is a run under a weaker one. -/
theorem Reachable.weaken (implies : ∀ state label, guard state label → guard' state label)
    (reached : system.Reachable guard state) : system.Reachable guard' state := by
  induction reached with
  | start begins => exact .start begins
  | step _ allowed ran ih => exact .step ih (implies _ _ allowed) ran

/-- A guard may use what is already known of the states it is asked in. -/
theorem Reachable.strengthen (implies : ∀ state label next, system.Reachable guard state →
    guard state label → system.step state label = some next → guard' state label)
    (reached : system.Reachable guard state) : system.Reachable guard' state := by
  induction reached with
  | start begins => exact .start begins
  | step before allowed ran ih => exact .step ih (implies _ _ _ before allowed ran) ran

/-- A tested run from a reachable state ends in one, if its labels are allowed where they
pass the test. -/
theorem Reachable.execIf {test : State → Label → Bool} {labels : List Label}
    (reached : system.Reachable guard state)
    (allowed : ∀ label ∈ labels, ∀ state, test state label = true → guard state label)
    (ran : system.execIf test state labels = some final) : system.Reachable guard final := by
  induction labels generalizing state with
  | nil =>
    cases ran
    exact reached
  | cons label labels ih =>
    obtain ⟨here, later⟩ := List.forall_mem_cons.mp allowed
    simp only [System.execIf] at ran
    split at ran
    · rename_i passed
      split at ran
      · cases ran
      · rename_i next stepped
        exact ih (.step reached (here state passed) stepped) later ran
    · cases ran

/-- A computed run of allowed labels from a reachable state ends in one. -/
theorem Reachable.exec {labels : List Label} (reached : system.Reachable guard state)
    (allowed : ∀ label ∈ labels, ∀ state, guard state label)
    (ran : system.exec state labels = some final) : system.Reachable guard final := by
  induction labels generalizing state with
  | nil =>
    cases ran
    exact reached
  | cons label labels ih =>
    simp only [System.exec] at ran
    split at ran
    · cases ran
    · rename_i next stepped
      obtain ⟨first, others⟩ := List.forall_mem_cons.mp allowed
      exact ih (.step reached (first state) stepped) others ran

/-- A computed run from a starting state ends in a reachable state. -/
theorem reachable_of_exec {labels : List Label} (begins : system.start state)
    (allowed : ∀ label ∈ labels, ∀ state, guard state label)
    (ran : system.exec state labels = some final) : system.Reachable guard final :=
  (Reachable.start begins).exec allowed ran

end System

end GuestComponents.Lib
