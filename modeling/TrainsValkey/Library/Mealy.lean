import Mathlib.Data.List.Induction

/-
Deterministic machines that answer each input with a list of outputs.

A run folds the step over an input list and concatenates what the steps
emitted.  Three rules carry every induction over runs: `run_history` for a
property of the state together with everything emitted so far, `run_safe_iff`
for a property that each step keeps when it meets a guard, and `run_simulation`
for two machines that read the same inputs.
-/

set_option autoImplicit false

namespace TrainsValkey.Library

universe u v w x y

structure Machine (State : Type u) (Input : Type v) (Output : Type w) where
  step : State → Input → State × List Output

namespace Machine

variable {State : Type u} {Input : Type v} {Output : Type w}

def run (machine : Machine State Input Output) :
    State → List Input → State × List Output
  | state, [] => (state, [])
  | state, input :: rest =>
      let next := machine.step state input
      let later := run machine next.1 rest
      (later.1, next.2 ++ later.2)

variable (machine : Machine State Input Output)

@[simp] theorem run_nil (state : State) : machine.run state [] = (state, []) := rfl

theorem run_cons (state : State) (input : Input) (rest : List Input) :
    machine.run state (input :: rest) =
      ((machine.run (machine.step state input).1 rest).1,
        (machine.step state input).2 ++
          (machine.run (machine.step state input).1 rest).2) := rfl

/-- A run over one more input is the run followed by one step. -/
theorem run_snoc (state : State) (earlier : List Input) (input : Input) :
    (machine.run state (earlier ++ [input])).1 =
      (machine.step (machine.run state earlier).1 input).1 := by
  induction earlier generalizing state with
  | nil => rfl
  | cons first earlier ih => exact ih (machine.step state first).1

/-- A property of the state and of everything emitted so far that one step
preserves holds after every run. -/
theorem run_history (History : State → List Output → Prop)
    (preserved : ∀ state emitted input, History state emitted →
      History (machine.step state input).1 (emitted ++ (machine.step state input).2))
    (state : State) (emitted : List Output) (start : History state emitted)
    (inputs : List Input) :
    History (machine.run state inputs).1 (emitted ++ (machine.run state inputs).2) := by
  induction inputs generalizing state emitted with
  | nil => simpa only [run_nil, List.append_nil] using start
  | cons input rest ih =>
      have later := ih (machine.step state input).1
        (emitted ++ (machine.step state input).2) (preserved state emitted input start)
      rw [run_cons]
      simpa only [List.append_assoc] using later

theorem run_loses (Holds : State → Prop) {state : State} {inputs : List Input}
    (start : Holds state) (lost : ¬Holds (machine.run state inputs).1) :
    ∃ earlier input later, inputs = earlier ++ input :: later ∧
      Holds (machine.run state earlier).1 ∧ ¬Holds (machine.run state (earlier ++ [input])).1 := by
  induction inputs generalizing state with
  | nil => exact absurd start lost
  | cons first rest ih =>
      by_cases held : Holds (machine.step state first).1
      · obtain ⟨earlier, input, later, rfl, before, after⟩ := ih held lost
        exact ⟨first :: earlier, input, later, rfl, before, after⟩
      · exact ⟨[], first, rest, rfl, start, held⟩

section Guarded

variable {Inv Safe : State → Prop} {Guard : State → Input → Prop}

/-- An invariant that the guarded steps keep holds after a run of them. -/
theorem run_guarded
    (kept : ∀ state input, Inv state → Guard state input → Inv (machine.step state input).1)
    {state : State} (start : Inv state) (inputs : List Input)
    (guarded : ∀ before input, before ++ [input] <+: inputs →
      Guard (machine.run state before).1 input) : Inv (machine.run state inputs).1 := by
  induction inputs using List.reverseRecOn with
  | nil => exact start
  | append_singleton earlier input ih =>
      rw [run_snoc]
      refine kept _ input (ih ?_) (guarded earlier input List.prefix_rfl)
      intro before next step
      exact guarded before next (step.trans (List.prefix_append earlier [input]))

/-- A run is safe in every state it passes exactly when each of its steps meets
the guard, if a step that does not is unsafe at once. -/
theorem run_safe_iff
    (kept : ∀ state input, Inv state → Guard state input → Inv (machine.step state input).1)
    (safe : ∀ state, Inv state → Safe state)
    (needed : ∀ state input, Safe (machine.step state input).1 → Guard state input)
    {state : State} (start : Inv state) (inputs : List Input) :
    (∀ before, before <+: inputs → Safe (machine.run state before).1) ↔
      ∀ before input, before ++ [input] <+: inputs → Guard (machine.run state before).1 input := by
  constructor
  · intro everywhere before input step
    have after := everywhere (before ++ [input]) step
    rw [run_snoc] at after
    exact needed _ input after
  · intro guarded before earlier
    refine safe _ (machine.run_guarded kept start before ?_)
    intro first next step
    exact guarded first next (step.trans earlier)

end Guarded

end Machine

/-- Two machines over the same inputs, related step by step and emitting
outputs that look the same through `left` and `right`, do so over every run. -/
theorem Machine.run_simulation
    {Concrete : Type u} {Abstract : Type x} {Input : Type v} {Output : Type w}
    {Visible : Type y}
    (concrete : Machine Concrete Input Output) (abstract : Machine Abstract Input Output)
    (Related : Concrete → Abstract → Prop) (visible : List Output → List Visible)
    (visibleNil : visible [] = [])
    (visibleAppend : ∀ first second, visible (first ++ second) =
      visible first ++ visible second)
    (simulates : ∀ left right input, Related left right →
      Related (concrete.step left input).1 (abstract.step right input).1 ∧
        visible (concrete.step left input).2 = visible (abstract.step right input).2)
    (left : Concrete) (right : Abstract) (start : Related left right)
    (inputs : List Input) :
    Related (concrete.run left inputs).1 (abstract.run right inputs).1 ∧
      visible (concrete.run left inputs).2 = visible (abstract.run right inputs).2 := by
  induction inputs generalizing left right with
  | nil => exact ⟨start, by rw [run_nil, run_nil, visibleNil]⟩
  | cons input rest ih =>
      obtain ⟨related, sameStep⟩ := simulates left right input start
      obtain ⟨relatedEnd, sameRest⟩ := ih _ _ related
      refine ⟨relatedEnd, ?_⟩
      rw [run_cons, run_cons, visibleAppend, visibleAppend, sameStep, sameRest]

end TrainsValkey.Library
