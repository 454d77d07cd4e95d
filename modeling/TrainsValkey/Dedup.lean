import Mathlib.Data.Set.Insert
import TrainsValkey.Command

/-
Apply-side deduplication: for every origin a watermark below which all request
ids have been applied, and the applied ids above it.
-/

set_option autoImplicit false

namespace TrainsValkey

open Std (ExtTreeMap ExtTreeSet)

structure OriginDedup where
  watermark : Nat
  recent : ExtTreeSet Nat
deriving DecidableEq

namespace OriginDedup

def default : OriginDedup := { watermark := 0, recent := ∅ }

def isDup (od : OriginDedup) (id : Nat) : Bool := id < od.watermark || od.recent.contains id

/-- `while recent.remove(&watermark) { watermark += 1 }`.  Every turn removes
an element, so as many turns as there are elements reach the end. -/
def sweep : Nat → OriginDedup → OriginDedup
  | 0, od => od
  | turns + 1, od =>
      if od.recent.contains od.watermark then
        sweep turns
          { watermark := od.watermark + 1, recent := od.recent.erase od.watermark }
      else od

def record (od : OriginDedup) (id : Nat) : OriginDedup :=
  let recent := od.recent.insert id
  sweep recent.size { od with recent }

@[simp] theorem isDup_default (id : Nat) : default.isDup id = false := by
  simp [isDup, default]

theorem isDup_iff (od : OriginDedup) (id : Nat) :
    od.isDup id = true ↔ id < od.watermark ∨ id ∈ od.recent := by
  simp only [isDup, Bool.or_eq_true, decide_eq_true_eq, ExtTreeSet.contains_iff_mem]

theorem isDup_sweep (turns : Nat) (od : OriginDedup) (id : Nat) :
    (sweep turns od).isDup id = od.isDup id := by
  induction turns generalizing od with
  | zero => rfl
  | succ turns ih =>
      rw [sweep]
      split
      · rename_i inWindow
        have member : od.watermark ∈ od.recent := ExtTreeSet.contains_iff_mem.mp inWindow
        rw [ih, Bool.eq_iff_iff, isDup_iff, isDup_iff]
        simp only [ExtTreeSet.mem_erase, compare_eq_iff_eq, ne_eq]
        constructor
        · rintro (below | ⟨_, recent⟩)
          · by_cases same : id = od.watermark
            · exact Or.inr (same ▸ member)
            · exact Or.inl (by omega)
          · exact Or.inr recent
        · rintro (below | recent)
          · exact Or.inl (by omega)
          · by_cases same : od.watermark = id
            · exact Or.inl (by omega)
            · exact Or.inr ⟨same, recent⟩
      · rfl

theorem isDup_record (od : OriginDedup) (id other : Nat) :
    (od.record id).isDup other = true ↔ other = id ∨ od.isDup other = true := by
  rw [record, isDup_sweep, isDup_iff, isDup_iff]
  simp only [ExtTreeSet.mem_insert, compare_eq_iff_eq]
  tauto

end OriginDedup

structure WriteDedup where
  origins : ExtTreeMap ProcId OriginDedup
deriving DecidableEq

namespace WriteDedup

def new : WriteDedup := { origins := ∅ }

def origin (dedup : WriteDedup) (origin : ProcId) : Option OriginDedup := dedup.origins[origin]?

def firstSeen (dedup : WriteDedup) (origin : ProcId) (requestId : Nat) : Bool × WriteDedup :=
  let od := (dedup.origin origin).getD OriginDedup.default
  if od.isDup requestId then (false, { origins := dedup.origins.insert origin od })
  else (true, { origins := dedup.origins.insert origin (od.record requestId) })

def isDup (dedup : WriteDedup) (origin : ProcId) (requestId : Nat) : Bool :=
  ((dedup.origin origin).getD OriginDedup.default).isDup requestId

@[simp] theorem isDup_new (origin : ProcId) (requestId : Nat) :
    new.isDup origin requestId = false := by
  simp [isDup, WriteDedup.origin, new]

theorem firstSeen_fresh {dedup : WriteDedup} {origin : ProcId} {requestId : Nat}
    (fresh : dedup.isDup origin requestId = false) :
    dedup.firstSeen origin requestId =
      (true, ⟨dedup.origins.insert origin
        (((dedup.origin origin).getD OriginDedup.default).record requestId)⟩) := by
  have notDup : ¬((dedup.origin origin).getD OriginDedup.default).isDup requestId = true := by
    rw [← isDup, fresh]
    exact Bool.false_ne_true
  exact if_neg notDup

theorem firstSeen_dup {dedup : WriteDedup} {origin : ProcId} {requestId : Nat}
    (dup : dedup.isDup origin requestId = true) :
    dedup.firstSeen origin requestId = (false, dedup) := by
  have kept : dedup.firstSeen origin requestId =
      (false, ⟨dedup.origins.insert origin
        ((dedup.origin origin).getD OriginDedup.default)⟩) := if_pos dup
  unfold isDup at dup
  have present : ∃ od, dedup.origin origin = some od := by
    cases found : dedup.origin origin with
    | some od => exact ⟨od, rfl⟩
    | none =>
        rw [found, Option.getD_none, OriginDedup.isDup_default] at dup
        cases dup
  obtain ⟨od, found⟩ := present
  rw [kept, found, Option.getD_some]
  congr 1
  cases dedup with
  | mk origins =>
      congr 1
      apply ExtTreeMap.ext_getElem?
      intro other
      rw [ExtTreeMap.getElem?_insert]
      split
      · rename_i same
        rw [compare_eq_iff_eq] at same
        subst same
        exact found.symm
      · rfl

theorem isDup_firstSeen (dedup : WriteDedup) (origin other : ProcId)
    (requestId otherId : Nat) :
    (dedup.firstSeen origin requestId).2.isDup other otherId = true ↔
      (other, otherId) = (origin, requestId) ∨ dedup.isDup other otherId = true := by
  cases dup : dedup.isDup origin requestId with
  | true =>
      rw [firstSeen_dup dup]
      constructor
      · exact Or.inr
      · rintro (same | already)
        · cases same
          exact dup
        · exact already
  | false =>
      rw [firstSeen_fresh dup]
      simp only [isDup, WriteDedup.origin, ExtTreeMap.getElem?_insert, compare_eq_iff_eq,
        Prod.mk.injEq]
      by_cases same : origin = other
      · subst same
        rw [if_pos rfl, Option.getD_some, OriginDedup.isDup_record]
        simp only [true_and]
      · rw [if_neg same]
        constructor
        · exact Or.inr
        · rintro (⟨equal, _⟩ | already)
          · exact absurd equal.symm same
          · exact already

theorem firstSeen_fst (dedup : WriteDedup) (origin : ProcId) (requestId : Nat) :
    (dedup.firstSeen origin requestId).1 = !dedup.isDup origin requestId := by
  cases dup : dedup.isDup origin requestId with
  | true => rw [firstSeen_dup dup]; rfl
  | false => rw [firstSeen_fresh dup]; rfl

end WriteDedup

end TrainsValkey
