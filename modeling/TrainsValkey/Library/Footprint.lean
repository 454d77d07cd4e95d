import Mathlib.Data.Set.Basic

/-
Steps confined to a region of the state.

A state is read location by location.  A confined step leaves every location
outside its region alone, and what it answers and writes depends on nothing
outside it.  Steps with disjoint regions commute.
-/

set_option autoImplicit false

namespace TrainsValkey.Library

universe u v w x

variable {State : Type u} {Loc : Type v} {Cell : Type w} {Answer : Type x}
variable (cell : State → Loc → Cell)

def AgreeOn (region : Set Loc) (s t : State) : Prop := ∀ loc ∈ region, cell s loc = cell t loc

structure Confined (region : Set Loc) (step : State → Answer × State) : Prop where
  answer : ∀ s t, AgreeOn cell region s t → (step s).1 = (step t).1
  written : ∀ s t, AgreeOn cell region s t → AgreeOn cell region (step s).2 (step t).2
  frame : ∀ s, ∀ loc ∉ region, cell (step s).2 loc = cell s loc

variable {cell} {region other : Set Loc} {first second : State → Answer × State}

theorem AgreeOn.symm {s t : State} (agree : AgreeOn cell region s t) : AgreeOn cell region t s :=
  fun loc member => (agree loc member).symm

theorem Confined.agrees (confined : Confined cell region first)
    (disjoint : ∀ loc ∈ other, loc ∉ region) (s : State) : AgreeOn cell other (first s).2 s :=
  fun loc member => confined.frame s loc (disjoint loc member)

theorem Confined.commute (extensional : ∀ s t, (∀ loc, cell s loc = cell t loc) → s = t)
    (confinedFirst : Confined cell region first) (confinedSecond : Confined cell other second)
    (disjoint : ∀ loc ∈ region, loc ∉ other) (s : State) :
    (second (first s).2).2 = (first (second s).2).2 ∧
      (first (second s).2).1 = (first s).1 ∧ (second (first s).2).1 = (second s).1 := by
  have apart : ∀ loc ∈ other, loc ∉ region := fun loc member within => disjoint loc within member
  have unseenFirst := confinedFirst.agrees apart s
  have unseenSecond := confinedSecond.agrees disjoint s
  refine ⟨extensional _ _ ?_, confinedFirst.answer _ _ unseenSecond,
    confinedSecond.answer _ _ unseenFirst⟩
  intro loc
  by_cases inFirst : loc ∈ region
  · rw [confinedSecond.frame _ loc (disjoint loc inFirst)]
    exact (confinedFirst.written _ _ unseenSecond loc inFirst).symm
  · rw [confinedFirst.frame _ loc inFirst]
    by_cases inSecond : loc ∈ other
    · exact confinedSecond.written _ _ unseenFirst loc inSecond
    · rw [confinedSecond.frame _ loc inSecond, confinedSecond.frame _ loc inSecond,
        confinedFirst.frame _ loc inFirst]

end TrainsValkey.Library
