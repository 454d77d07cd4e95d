import Mathlib.Data.Finset.Card
import Mathlib.Data.Finset.Image
import Mathlib.Dynamics.PeriodicPts.Defs

/-
Walks that go round a finite set.

A map that stays in the set and leads from each of its points to every other
goes through the whole set, once, before it comes back.
-/

set_option autoImplicit false

namespace TrainsValkey.Library

universe u

variable {α : Type u}

structure Circuit (points : Finset α) (next : α → α) : Prop where
  stays : ∀ x ∈ points, next x ∈ points
  leads : ∀ x ∈ points, ∀ y ∈ points, ∃ steps, next^[steps] x = y

/-- From `x`, the walk meets every point, each once, and is then back. -/
structure GoesRound (points : Finset α) (next : α → α) (x : α) : Prop where
  within : ∀ steps, next^[steps] x ∈ points
  visits : ∀ y ∈ points, ∃ steps < points.card, next^[steps] x = y
  once : Set.InjOn (fun steps => next^[steps] x) (Set.Iio points.card)
  back : next^[points.card] x = x

namespace Circuit

variable {points : Finset α} {next : α → α} {x : α}

theorem iterate_mem (circuit : Circuit points next) (member : x ∈ points) (steps : Nat) :
    next^[steps] x ∈ points := by
  induction steps with
  | zero => exact member
  | succ steps ih =>
      rw [Function.iterate_succ_apply']
      exact circuit.stays _ ih

theorem periodic (circuit : Circuit points next) (member : x ∈ points) :
    x ∈ Function.periodicPts next := by
  obtain ⟨steps, back⟩ := circuit.leads (next x) (circuit.stays x member) x member
  exact Function.mk_mem_periodicPts (Nat.succ_pos steps) back

theorem visits_in_period (circuit : Circuit points next) (member : x ∈ points) :
    ∀ y ∈ points, ∃ steps < Function.minimalPeriod next x, next^[steps] x = y := by
  intro y inPoints
  obtain ⟨steps, reached⟩ := circuit.leads x member y inPoints
  have positive := Function.minimalPeriod_pos_of_mem_periodicPts (circuit.periodic member)
  refine ⟨steps % Function.minimalPeriod next x, Nat.mod_lt _ positive, ?_⟩
  rw [← reached]
  exact Function.iterate_mod_minimalPeriod_eq

theorem minimalPeriod_eq [DecidableEq α] (circuit : Circuit points next) (member : x ∈ points) :
    Function.minimalPeriod next x = points.card := by
  have visited : (Finset.range (Function.minimalPeriod next x)).image
      (fun steps => next^[steps] x) = points := by
    ext y
    rw [Finset.mem_image]
    constructor
    · rintro ⟨steps, _, rfl⟩
      exact circuit.iterate_mem member steps
    · intro inPoints
      obtain ⟨steps, early, reached⟩ := circuit.visits_in_period member y inPoints
      exact ⟨steps, Finset.mem_range.mpr early, reached⟩
  have distinct : Set.InjOn (fun steps => next^[steps] x)
      (Finset.range (Function.minimalPeriod next x)) := by
    rw [Finset.coe_range]
    exact Function.iterate_injOn_Iio_minimalPeriod
  rw [← visited, Finset.card_image_of_injOn distinct, Finset.card_range]

theorem goesRound [DecidableEq α] (circuit : Circuit points next) (member : x ∈ points) :
    GoesRound points next x := by
  have period := circuit.minimalPeriod_eq member
  constructor
  · exact circuit.iterate_mem member
  · rw [← period]
    exact circuit.visits_in_period member
  · rw [← period]
    exact Function.iterate_injOn_Iio_minimalPeriod
  · rw [← period]
    exact Function.iterate_minimalPeriod

theorem image {β : Type u} [DecidableEq β] (circuit : Circuit points next) {name : α → β}
    {next' : β → β} (moves : ∀ x ∈ points, next' (name x) = name (next x)) :
    Circuit (points.image name) next' := by
  have walk {x : α} (member : x ∈ points) (steps : Nat) :
      next'^[steps] (name x) = name (next^[steps] x) := by
    induction steps with
    | zero => rfl
    | succ steps ih =>
        rw [Function.iterate_succ_apply', Function.iterate_succ_apply', ih]
        exact moves _ (circuit.iterate_mem member steps)
  constructor
  · intro y member
    obtain ⟨x, inside, rfl⟩ := Finset.mem_image.mp member
    rw [moves x inside]
    exact Finset.mem_image_of_mem name (circuit.stays x inside)
  · intro y member y' member'
    obtain ⟨x, inside, rfl⟩ := Finset.mem_image.mp member
    obtain ⟨x', inside', rfl⟩ := Finset.mem_image.mp member'
    obtain ⟨steps, reached⟩ := circuit.leads x inside x' inside'
    refine ⟨steps, ?_⟩
    rw [walk inside, reached]

end Circuit

end TrainsValkey.Library
