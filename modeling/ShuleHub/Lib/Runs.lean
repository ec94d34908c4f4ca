import Mathlib.Data.List.Basic

/-! Finite runs of a deterministic step function, and the rules that carry a property of one step
to a whole run. -/

namespace Runs

variable {State Event : Type*} (step : State → Event → State)

def run (state : State) (events : List Event) : State := events.foldl step state

@[simp] theorem run_nil (state : State) : run step state [] = state := rfl

@[simp] theorem run_cons (state : State) (event : Event) (events : List Event) :
    run step state (event :: events) = run step (step state event) events := rfl

@[simp] theorem run_append (state : State) (first second : List Event) :
    run step state (first ++ second) = run step (run step state first) second :=
  List.foldl_append

/-- Every step of the run meets `guard`, a condition on its event and the state before it. -/
@[grind =] def Meets (guard : State → Event → Prop) : State → List Event → Prop
  | _, [] => True
  | state, event :: events => guard state event ∧ Meets guard (step state event) events

/-- `property` holds in every state of the run, the first and the last included. -/
@[grind =] def Along (property : State → Prop) : State → List Event → Prop
  | state, [] => property state
  | state, event :: events => property state ∧ Along property (step state event) events

instance decidableMeets (guard : State → Event → Prop)
    [decision : ∀ state event, Decidable (guard state event)] :
    (state : State) → (events : List Event) → Decidable (Meets step guard state events)
  | _, [] => instDecidableTrue
  | state, event :: events =>
    have := decidableMeets guard (step state event) events
    inferInstanceAs (Decidable (guard state event ∧ Meets step guard (step state event) events))

instance decidableAlong (property : State → Prop)
    [decision : ∀ state, Decidable (property state)] :
    (state : State) → (events : List Event) → Decidable (Along step property state events)
  | state, [] => decision state
  | state, event :: events =>
    have := decidableAlong property (step state event) events
    inferInstanceAs (Decidable (property state ∧ Along step property (step state event) events))

section Rules

variable {step} {guard : State → Event → Prop} {invariant property : State → Prop}
  {state : State} {events : List Event} {first second allowed : State → Event → Prop}

theorem meets_append (state : State) (first second : List Event) :
    Meets step guard state (first ++ second) ↔
      Meets step guard state first ∧ Meets step guard (run step state first) second := by
  induction first generalizing state with
  | nil => simp [Meets]
  | cons event events ih => simp [Meets, ih, and_assoc]

theorem meets_and {other : State → Event → Prop}
    (left : Meets step guard state events) (right : Meets step other state events) :
    Meets step (fun state event => guard state event ∧ other state event) state events := by
  induction events generalizing state with
  | nil => trivial
  | cons event events ih => exact ⟨⟨left.1, right.1⟩, ih left.2 right.2⟩

theorem meets_of_meets
    (implied : ∀ state event, invariant state → first state event → second state event)
    (preserved : ∀ state event, invariant state → first state event → invariant (step state event)) (initial : invariant state) (each : Meets step first state events) :
    Meets step second state events := by
  induction events generalizing state with
  | nil => trivial
  | cons event events ih =>
    exact ⟨implied state event initial each.1, ih (preserved state event initial each.1) each.2⟩

theorem meets_iff_meets_of_allowed
    (agree : ∀ state event, invariant state → allowed state event → (first state event ↔ second state event))
    (preserved : ∀ state event, invariant state → allowed state event → second state event →
      invariant (step state event)) (initial : invariant state) (each : Meets step allowed state events) :
    Meets step first state events ↔ Meets step second state events := by
  induction events generalizing state with
  | nil => exact Iff.rfl
  | cons event events ih =>
    simp only [Meets, agree state event initial each.1]
    refine and_congr_right fun held => ?_
    exact ih (preserved state event initial each.1 held) each.2

theorem meets_iff_meets
    (agree : ∀ state event, invariant state → (first state event ↔ second state event))
    (preserved : ∀ state event, invariant state → second state event → invariant (step state event)) (events : List Event) (initial : invariant state) :
    Meets step first state events ↔ Meets step second state events := by
  induction events generalizing state with
  | nil => exact Iff.rfl
  | cons event events ih =>
    simp only [Meets, agree state event initial]
    exact and_congr_right fun held => ih (preserved state event initial held)

theorem meets_preserves
    (preserved : ∀ state event, invariant state → guard state event → invariant (step state event)) (initial : invariant state)
    (guarded : Meets step guard state events) : invariant (run step state events) := by
  induction events generalizing state with
  | nil => exact initial
  | cons event events ih => exact ih (preserved state event initial guarded.1) guarded.2

theorem run_preserves
    (preserved : ∀ state event, invariant state → invariant (step state event)) (events : List Event) (initial : invariant state) :
    invariant (run step state events) := by
  induction events generalizing state with
  | nil => exact initial
  | cons event events ih => exact ih (preserved state event initial)

theorem along_of_meets
    (preserved : ∀ state event, invariant state → guard state event → invariant (step state event))
    (implied : ∀ state, invariant state → property state) (initial : invariant state)
    (guarded : Meets step guard state events) : Along step property state events := by
  induction events generalizing state with
  | nil => exact implied state initial
  | cons event events ih =>
    exact ⟨implied state initial, ih (preserved state event initial guarded.1) guarded.2⟩

theorem along_of_preserves (preserved : ∀ state event, invariant state → invariant (step state event))
    (implied : ∀ state, invariant state → property state) (events : List Event)
    (initial : invariant state) : Along step property state events := by
  induction events generalizing state with
  | nil => exact implied state initial
  | cons event events ih => exact ⟨implied state initial, ih (preserved state event initial)⟩

theorem start_of_along (holds : Along step property state events) :
    property state := by
  cases events with
  | nil => exact holds
  | cons event events => exact holds.1

theorem along_imp (implied : ∀ state, invariant state → property state)
    (holds : Along step invariant state events) : Along step property state events := by
  induction events generalizing state with
  | nil => exact implied state holds
  | cons event events ih => exact ⟨implied state holds.1, ih holds.2⟩

theorem along_append {first second : List Event} :
    Along step property state (first ++ second) ↔
      Along step property state first ∧ Along step property (run step state first) second := by
  induction first generalizing state with
  | nil =>
    rw [List.nil_append, run_nil]
    constructor
    · intro holds
      have now : property state := start_of_along holds
      exact ⟨now, holds⟩
    · intro holds
      exact holds.2
  | cons event first ih => simp only [List.cons_append, Along, run_cons, ih, and_assoc]

theorem run_of_along (holds : Along step property state events) :
    property (run step state events) := by
  induction events generalizing state with
  | nil => exact holds
  | cons event events ih => exact ih holds.2

theorem along_iff_meets_of_each
    (preserved : ∀ state event, invariant state → allowed state event → guard state event →
      invariant (step state event))
    (implied : ∀ state, invariant state → property state)
    (broken : ∀ state event, invariant state → allowed state event → ¬ guard state event →
      ¬ property (step state event)) (initial : invariant state) (each : Meets step allowed state events) :
    Along step property state events ↔ Meets step guard state events := by
  induction events generalizing state with
  | nil => exact ⟨fun _ => trivial, fun _ => implied state initial⟩
  | cons event events ih =>
    by_cases guarded : guard state event
    · have rest := ih (preserved state event initial each.1 guarded) each.2
      exact ⟨fun holds => ⟨guarded, rest.mp holds.2⟩, fun meets => ⟨implied state initial, rest.mpr meets.2⟩⟩
    · refine ⟨fun holds => absurd ?_ (broken state event initial each.1 guarded), fun meets => absurd meets.1 guarded⟩
      cases events with
      | nil => exact holds.2
      | cons next rest => exact holds.2.1

theorem meets_of_forall {allowed : Event → Prop} (state : State)
    (each : ∀ event ∈ events, allowed event) : Meets step (fun _ event => allowed event) state events := by
  induction events generalizing state with
  | nil => trivial
  | cons event events ih =>
    obtain ⟨own, later⟩ := List.forall_mem_cons.mp each
    exact ⟨own, ih _ later⟩

theorem along_iff_meets_of_allowed {allowed : Event → Prop}
    (preserved : ∀ state event, allowed event → invariant state → guard state event → invariant (step state event))
    (implied : ∀ state, invariant state → property state)
    (broken : ∀ state event, allowed event → invariant state → ¬ guard state event → ¬ property (step state event)) (events : List Event) (each : ∀ event ∈ events, allowed event) (initial : invariant state) :
    Along step property state events ↔ Meets step guard state events :=
  along_iff_meets_of_each (fun state event held own => preserved state event own held) implied
    (fun state event held own => broken state event own held) initial (meets_of_forall state each)

theorem along_iff_meets
    (preserved : ∀ state event, invariant state → guard state event → invariant (step state event))
    (implied : ∀ state, invariant state → property state)
    (broken : ∀ state event, invariant state → ¬ guard state event → ¬ property (step state event)) (events : List Event) (initial : invariant state) :
    Along step property state events ↔ Meets step guard state events :=
  along_iff_meets_of_allowed (fun state event (_ : True) => preserved state event) implied
    (fun state event _ => broken state event) events (fun _ _ => trivial) initial

end Rules

end Runs
