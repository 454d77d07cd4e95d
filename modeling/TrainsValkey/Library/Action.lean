import Mathlib.Data.List.Induction
import TrainsValkey.Library.Mealy

/-
Actions on a state that emit events, and the traces they leave.

`Keeps` says that an action preserves a property of the state together with
everything emitted so far; it composes along `andThen` and along runs of a
machine.  `Frames` says that an action leaves a view of the state alone and
emits none of the events that matter to it.  `Explained` says of a trace that
each of its events is justified by the events before it.
-/

set_option autoImplicit false

namespace TrainsValkey.Library

universe u v w

abbrev Action (State : Type u) (Event : Type v) := State → State × List Event

namespace Action

variable {State : Type u} {Event : Type v}

def andThen (first second : Action State Event) : Action State Event := fun state =>
  let reached := first state
  let final := second reached.1
  (final.1, reached.2 ++ final.2)

def Keeps (Holds : State → List Event → Prop) (action : Action State Event) : Prop :=
  ∀ state trace, Holds state trace → Holds (action state).1 (trace ++ (action state).2)

variable {Holds : State → List Event → Prop}

theorem Keeps.nothing : Keeps Holds (fun state => (state, [])) := by
  intro state trace held
  rw [List.append_nil]
  exact held

theorem Keeps.andThen {first second : Action State Event} (keepsFirst : Keeps Holds first)
    (keepsSecond : Keeps Holds second) : Keeps Holds (first.andThen second) := by
  intro state trace held
  have later := keepsSecond _ _ (keepsFirst state trace held)
  rw [List.append_assoc] at later
  exact later

theorem Keeps.run {Input : Type w} {machine : Machine State Input Event}
    (keepsStep : ∀ input, Keeps Holds (fun state => machine.step state input))
    (inputs : List Input) : Keeps Holds (fun state => machine.run state inputs) := by
  intro state trace held
  exact machine.run_history Holds (fun reached emitted input => keepsStep input reached emitted)
    state trace held inputs

theorem Keeps.runOf {Input : Type w} {machine : Machine State Input Event} {inputs : List Input}
    (keepsStep : ∀ input ∈ inputs, Keeps Holds (fun state => machine.step state input)) :
    Keeps Holds (fun state => machine.run state inputs) := by
  induction inputs with
  | nil => exact Keeps.nothing
  | cons input rest ih =>
      have first := keepsStep input List.mem_cons_self
      exact first.andThen (ih (fun other member => keepsStep other (List.mem_cons_of_mem _ member)))

/-! ### Frames -/

section Frames

variable {View : Type w} (view : State → View) (loud : Event → Bool)

/-- The action leaves what `view` sees of the state alone and emits no loud
event. -/
def Frames (action : Action State Event) : Prop :=
  ∀ state, view (action state).1 = view state ∧
    ∀ event ∈ (action state).2, loud event = false

variable {view} {loud}

theorem Frames.nothing : Frames view loud (fun state => (state, [])) := by
  intro state
  refine ⟨rfl, ?_⟩
  intro event member
  cases member

theorem Frames.andThen {first second : Action State Event} (framesFirst : Frames view loud first)
    (framesSecond : Frames view loud second) : Frames view loud (first.andThen second) := by
  intro state
  obtain ⟨sameFirst, quietFirst⟩ := framesFirst state
  obtain ⟨sameSecond, quietSecond⟩ := framesSecond (first state).1
  refine ⟨sameSecond.trans sameFirst, ?_⟩
  intro event member
  rcases List.mem_append.mp member with earlier | later
  · exact quietFirst event earlier
  · exact quietSecond event later

theorem Frames.announced {action : Action State Event} (frames : Frames view loud action)
    {event : Event} (quiet : loud event = false) :
    Frames view loud (fun state => ((action state).1, event :: (action state).2)) := by
  intro state
  obtain ⟨same, rest⟩ := frames state
  refine ⟨same, ?_⟩
  intro other member
  rcases List.mem_cons.mp member with rfl | later
  · exact quiet
  · exact rest other later

end Frames

end Action

/-! ### Explained traces -/

section Explained

variable {Event : Type v}

inductive Explained (justified : List Event → Event → Prop) : List Event → Prop
  | nil : Explained justified []
  | snoc {trace : List Event} {event : Event} (earlier : Explained justified trace)
      (here : justified trace event) : Explained justified (trace ++ [event])

variable {justified : List Event → Event → Prop}

theorem Explained.last {trace : List Event} {event : Event}
    (explained : Explained justified (trace ++ [event])) :
    Explained justified trace ∧ justified trace event := by
  generalize whole : trace ++ [event] = full at explained
  cases explained with
  | nil => simp at whole
  | snoc earlier here =>
      obtain ⟨rfl, same⟩ := List.append_inj' whole rfl
      cases same
      exact ⟨earlier, here⟩

theorem Explained.before {before : List Event} (after : List Event)
    (explained : Explained justified (before ++ after)) : Explained justified before := by
  induction after using List.reverseRecOn with
  | nil =>
      rw [List.append_nil] at explained
      exact explained
  | append_singleton earlier event ih =>
      rw [← List.append_assoc] at explained
      exact ih explained.last.1

theorem Explained.justifies {before after : List Event} {event : Event}
    (explained : Explained justified (before ++ event :: after)) : justified before event := by
  rw [List.append_cons] at explained
  exact (explained.before after).last.2

theorem Explained.mono {weaker : List Event → Event → Prop}
    (implies : ∀ {before event}, justified before event → weaker before event)
    {trace : List Event} (explained : Explained justified trace) : Explained weaker trace := by
  induction explained with
  | nil => exact Explained.nil
  | snoc earlier here ih => exact Explained.snoc ih (implies here)

def ExplainedFrom (justified : List Event → Event → Prop) : List Event → List Event → Prop
  | _, [] => True
  | before, event :: rest =>
      justified before event ∧ ExplainedFrom justified (before ++ [event]) rest

theorem Explained.of_from {before rest : List Event} (earlier : Explained justified before)
    (later : ExplainedFrom justified before rest) : Explained justified (before ++ rest) := by
  induction rest generalizing before with
  | nil =>
      rw [List.append_nil]
      exact earlier
  | cons event rest ih =>
      rw [List.append_cons]
      exact ih (Explained.snoc earlier later.1) later.2

end Explained

end TrainsValkey.Library
