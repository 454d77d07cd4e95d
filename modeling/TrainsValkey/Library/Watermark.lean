import Mathlib.Data.Set.Basic

/-
Sets of numbers kept as a watermark and a window above it.

Everything below the watermark is in the set, the watermark itself is not, and
the window lists what lies beyond.  A set has one such form only, so two of
them are equal when their sets are.
-/

set_option autoImplicit false

namespace TrainsValkey.Library

/-- The set is what lies below the watermark or in the window, and the window
lies above the watermark. -/
structure Watermarked (seen : Set Nat) (watermark : Nat) (window : Set Nat) : Prop where
  mem : ∀ id, id ∈ seen ↔ id < watermark ∨ id ∈ window
  beyond : ∀ id ∈ window, watermark < id

namespace Watermarked

variable {seen window window' : Set Nat} {watermark watermark' : Nat}

theorem not_mem (marked : Watermarked seen watermark window) : watermark ∉ seen := by
  intro member
  rcases (marked.mem watermark).mp member with below | within
  · exact Nat.lt_irrefl watermark below
  · exact Nat.lt_irrefl watermark (marked.beyond watermark within)

theorem le_of_not_mem (marked : Watermarked seen watermark window) {id : Nat} (absent : id ∉ seen) :
    watermark ≤ id := by
  by_contra below
  exact absent ((marked.mem id).mpr (.inl (Nat.lt_of_not_le below)))

theorem watermark_unique (marked : Watermarked seen watermark window)
    (marked' : Watermarked seen watermark' window') : watermark = watermark' :=
  Nat.le_antisymm (marked.le_of_not_mem marked'.not_mem) (marked'.le_of_not_mem marked.not_mem)

theorem mem_window_iff (marked : Watermarked seen watermark window) (id : Nat) :
    id ∈ window ↔ id ∈ seen ∧ watermark < id := by
  constructor
  · intro within
    exact ⟨(marked.mem id).mpr (.inr within), marked.beyond id within⟩
  · intro both
    obtain ⟨member, above⟩ := both
    rcases (marked.mem id).mp member with below | within
    · exact absurd below (Nat.lt_asymm above)
    · exact within

theorem window_unique (marked : Watermarked seen watermark window)
    (marked' : Watermarked seen watermark' window') : window = window' := by
  ext id
  rw [marked.mem_window_iff, marked'.mem_window_iff, marked.watermark_unique marked']

theorem window_empty (marked : Watermarked seen watermark window)
    (downward : ∀ id ∈ seen, ∀ below < id, below ∈ seen) (id : Nat) : id ∉ window := by
  intro within
  obtain ⟨member, above⟩ := (marked.mem_window_iff id).mp within
  exact marked.not_mem (downward id member watermark above)

theorem watermark_le (marked : Watermarked seen watermark window) {bound : Nat}
    (bounded : ∀ id ∈ seen, id < bound) : watermark ≤ bound := by
  by_contra passed
  have member : bound ∈ seen := (marked.mem bound).mpr (.inl (Nat.lt_of_not_le passed))
  exact Nat.lt_irrefl bound (bounded bound member)

end Watermarked

end TrainsValkey.Library
