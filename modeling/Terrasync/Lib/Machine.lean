import Mathlib.Data.List.Basic

/-! Labelled transition machines with a partial step function. A run is a list of
actions, every one of which was enabled. Conditions on runs speak about the state
before a step and the action taken there. -/

set_option autoImplicit false

namespace Terrasync.Lib

structure Machine (State Action : Type) where
  step : State → Action → Option State

namespace Machine

variable {State Action : Type}

/-- The state after a list of actions, if each of them was enabled. -/
def exec (machine : Machine State Action) : State → List Action → Option State
  | state, [] => some state
  | state, action :: rest => (machine.step state action).bind fun next => machine.exec next rest

/-- Every step of a run meets a condition on the state before it. -/
def Along (machine : Machine State Action) (condition : State → Action → Prop) :
    State → List Action → Prop
  | _, [] => True
  | state, action :: rest =>
      condition state action ∧ ∀ next, machine.step state action = some next →
        machine.Along condition next rest

instance decidableAlong (machine : Machine State Action) (condition : State → Action → Prop)
    [decidable : ∀ state action, Decidable (condition state action)] :
    ∀ (state : State) (actions : List Action), Decidable (machine.Along condition state actions)
  | _, [] => isTrue trivial
  | state, action :: rest =>
      match stepped : machine.step state action with
      | none =>
          decidable_of_iff (condition state action)
            ⟨fun holds => ⟨holds, fun next taken => by rw [stepped] at taken; cases taken⟩, And.left⟩
      | some next =>
          match decidable state action, decidableAlong machine condition next rest with
          | isFalse fails, _ => isFalse fun along => fails along.1
          | isTrue _, isFalse fails => isFalse fun along => fails (along.2 next stepped)
          | isTrue holds, isTrue later =>
              isTrue ⟨holds, fun other taken => by rw [stepped] at taken; cases taken; exact later⟩

variable {machine : Machine State Action}

theorem exec_cons {state final : State} {action : Action} {rest : List Action}
    (run : machine.exec state (action :: rest) = some final) :
    ∃ next, machine.step state action = some next ∧ machine.exec next rest = some final := by
  simp only [exec] at run
  exact Option.bind_eq_some_iff.mp run

theorem exec_append {state : State} (first second : List Action) :
    machine.exec state (first ++ second) =
      (machine.exec state first).bind fun middle => machine.exec middle second := by
  induction first generalizing state with
  | nil => rfl
  | cons action rest ih =>
      simp only [List.cons_append, exec, Option.bind_assoc]
      cases machine.step state action with
      | none => rfl
      | some next => exact ih

theorem exec_trans {state middle final : State} {first second : List Action}
    (run : machine.exec state first = some middle) (later : machine.exec middle second = some final) :
    machine.exec state (first ++ second) = some final := by
  rw [exec_append, run, Option.bind_some, later]

/-- What every enabled step preserves, a run preserves. -/
theorem exec_invariant {invariant : State → Prop}
    (preserved : ∀ {state action next}, invariant state → machine.step state action = some next →
      invariant next)
    {actions : List Action} {state final : State} (holds : invariant state)
    (run : machine.exec state actions = some final) : invariant final := by
  induction actions generalizing state with
  | nil =>
      cases run
      exact holds
  | cons action rest ih =>
      obtain ⟨next, stepped, remaining⟩ := exec_cons run
      exact ih (preserved holds stepped) remaining

/-- An invariant whose preservation needs a condition on the steps. -/
theorem exec_invariant_along {invariant : State → Prop} {condition : State → Action → Prop}
    (preserved : ∀ {state action next}, invariant state → condition state action →
      machine.step state action = some next → invariant next)
    {actions : List Action} {state final : State} (holds : invariant state)
    (along : machine.Along condition state actions)
    (run : machine.exec state actions = some final) : invariant final := by
  induction actions generalizing state with
  | nil =>
      cases run
      exact holds
  | cons action rest ih =>
      obtain ⟨next, stepped, remaining⟩ := exec_cons run
      exact ih (preserved holds along.1 stepped) (along.2 next stepped) remaining

theorem exec_concat {actions : List Action} {action : Action} {state final : State}
    (run : machine.exec state (actions ++ [action]) = some final) :
    ∃ middle, machine.exec state actions = some middle ∧ machine.step middle action = some final := by
  rw [exec_append] at run
  obtain ⟨middle, reached, last⟩ := Option.bind_eq_some_iff.mp run
  obtain ⟨next, stepped, done⟩ := exec_cons last
  cases done
  exact ⟨middle, reached, stepped⟩

theorem Along.append {condition : State → Action → Prop} {state middle : State}
    {first second : List Action} (along : machine.Along condition state first)
    (run : machine.exec state first = some middle) (later : machine.Along condition middle second) :
    machine.Along condition state (first ++ second) := by
  induction first generalizing state with
  | nil =>
      cases run
      exact later
  | cons action rest ih =>
      obtain ⟨next, stepped, remaining⟩ := exec_cons run
      refine ⟨along.1, fun other taken => ?_⟩
      rw [stepped] at taken
      cases taken
      exact ih (along.2 next stepped) remaining

theorem Along.and {condition other : State → Action → Prop} {state : State} {actions : List Action}
    (along : machine.Along condition state actions) (also : machine.Along other state actions) :
    machine.Along (fun state action => condition state action ∧ other state action) state actions := by
  induction actions generalizing state with
  | nil => trivial
  | cons action rest ih =>
      exact ⟨⟨along.1, also.1⟩, fun next stepped => ih (along.2 next stepped) (also.2 next stepped)⟩

/-- A condition on the actions alone. -/
theorem along_of_forall {condition : Action → Prop} {actions : List Action}
    (each : ∀ action ∈ actions, condition action) (state : State) :
    machine.Along (fun _ action => condition action) state actions := by
  induction actions generalizing state with
  | nil => trivial
  | cons action rest ih =>
      obtain ⟨first, later⟩ := List.forall_mem_cons.1 each
      exact ⟨first, fun next _ => ih later next⟩

/-- A run emits only good events exactly when each of its steps meets the condition under
which that step does. Events are kept in the state, in order. -/
theorem emitted_iff_along {Event : Type} {emitted : State → List Event} {good : Event → Prop}
    {invariant : State → Prop} {condition : State → Action → Prop}
    (each : ∀ {state action next}, invariant state → machine.step state action = some next →
      invariant next ∧ ∃ events, emitted next = emitted state ++ events ∧
        ((∀ event ∈ events, good event) ↔ condition state action))
    {actions : List Action} {state final : State} (holds : invariant state)
    (run : machine.exec state actions = some final) :
    (∀ event ∈ emitted final, good event) ↔
      (∀ event ∈ emitted state, good event) ∧ machine.Along condition state actions := by
  induction actions generalizing state with
  | nil =>
      cases run
      exact ⟨fun all => ⟨all, trivial⟩, And.left⟩
  | cons action rest ih =>
      obtain ⟨next, stepped, remaining⟩ := exec_cons run
      obtain ⟨kept, events, grown, exact_⟩ := each holds stepped
      rw [ih kept remaining, grown, List.forall_mem_append, exact_, and_assoc]
      refine and_congr_right fun _ => and_congr_right fun _ => ⟨fun later other taken => ?_, fun later =>
        later next stepped⟩
      rw [stepped] at taken
      cases taken
      exact later

/-- What holds after a step only if it held before it goes back to the start of a run. -/
theorem live_of_exec {live : State → Prop}
    (back : ∀ {state action next}, machine.step state action = some next → live next → live state)
    {actions : List Action} {state final : State} (run : machine.exec state actions = some final)
    (alive : live final) : live state := by
  induction actions generalizing state with
  | nil =>
      cases run
      exact alive
  | cons action rest ih =>
      obtain ⟨next, stepped, remaining⟩ := exec_cons run
      exact back stepped (ih remaining)

/-- A measure that every step lowers by its loss is back at its start exactly when no step
of the run lost anything. The account holds as long as the machine is live. -/
theorem conserved_iff_along {measure : State → Nat} {loss : State → Action → Nat}
    {live invariant : State → Prop}
    (back : ∀ {state action next}, machine.step state action = some next → live next → live state)
    (each : ∀ {state action next}, invariant state → machine.step state action = some next → live next →
      invariant next ∧ measure next + loss state action = measure state)
    {actions : List Action} {state final : State} (holds : invariant state)
    (run : machine.exec state actions = some final) (alive : live final) :
    measure final ≤ measure state ∧ (measure final = measure state ↔
      machine.Along (fun state action => loss state action = 0) state actions) := by
  induction actions generalizing state with
  | nil =>
      cases run
      exact ⟨Nat.le_refl _, fun _ => trivial, fun _ => rfl⟩
  | cons action rest ih =>
      obtain ⟨next, stepped, remaining⟩ := exec_cons run
      obtain ⟨kept, lost⟩ := each holds stepped (live_of_exec back remaining alive)
      obtain ⟨least, exact_⟩ := ih kept remaining
      refine ⟨by omega, fun same => ⟨by omega, fun other taken => ?_⟩, fun along => ?_⟩
      · rw [stepped] at taken
        cases taken
        exact exact_.mp (by omega)
      · have later := exact_.mpr (along.2 next stepped)
        have first : loss state action = 0 := along.1
        omega

/-- The step at which an action of a run was taken. -/
theorem exec_split {actions : List Action} {action : Action} {state final : State}
    (run : machine.exec state actions = some final) (member : action ∈ actions) :
    ∃ before middle next after, actions = before ++ action :: after ∧
      machine.exec state before = some middle ∧ machine.step middle action = some next ∧
        machine.exec next after = some final := by
  obtain ⟨before, after, rfl⟩ := List.append_of_mem member
  rw [exec_append] at run
  obtain ⟨middle, reached, last⟩ := Option.bind_eq_some_iff.mp run
  obtain ⟨next, stepped, remaining⟩ := exec_cons last
  exact ⟨before, middle, next, after, rfl, reached, stepped, remaining⟩

end Machine

end Terrasync.Lib
