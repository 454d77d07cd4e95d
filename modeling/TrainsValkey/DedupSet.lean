import TrainsValkey.Dedup
import TrainsValkey.Library.Watermark

/-
The deduplication state as a set of pairs.

A watermark and a window hold what an ever-growing set of applied pairs would
hold, and only one state stands for each set, so replicas that have applied
the same operations in any order compare equal.
-/

set_option autoImplicit false

namespace TrainsValkey

open Std (ExtTreeMap ExtTreeSet LawfulEqCmp)
open Library (Watermarked)

/-! ### One origin -/

namespace OriginDedup

def seen (od : OriginDedup) : Set Nat := {id | od.isDup id = true}

def Canonical (od : OriginDedup) : Prop := ∀ id ∈ od.recent, od.watermark < id

variable {od other : OriginDedup}

theorem Canonical.watermarked (canonical : od.Canonical) :
    Watermarked od.seen od.watermark {id | id ∈ od.recent} where
  mem := od.isDup_iff
  beyond := canonical

theorem Canonical.ext (canonical : od.Canonical) (canonical' : other.Canonical)
    (same : ∀ id, od.isDup id = true ↔ other.isDup id = true) : od = other := by
  have seen : other.seen = od.seen := by
    ext id
    exact (same id).symm
  have marked := canonical.watermarked
  have marked' := canonical'.watermarked
  rw [seen] at marked'
  have watermark := marked.watermark_unique marked'
  have window := marked.window_unique marked'
  have recent : od.recent = other.recent := by
    apply ExtTreeSet.ext_mem
    intro id
    exact Set.ext_iff.mp window id
  cases od
  cases other
  cases watermark
  cases recent
  rfl

/-- The loop has as many turns as the window has ids, so it ends with none of
them at the watermark. -/
theorem sweep_canonical (turns : Nat) (od : OriginDedup) (enough : od.recent.size ≤ turns)
    (above : ∀ id ∈ od.recent, od.watermark ≤ id) : (sweep turns od).Canonical := by
  induction turns generalizing od with
  | zero =>
      have empty : od.recent = ∅ :=
        ExtTreeSet.eq_empty_iff_size_eq_zero.mpr (Nat.le_zero.mp enough)
      intro id member
      rw [sweep, empty] at member
      exact absurd member ExtTreeSet.not_mem_empty
  | succ turns ih =>
      rw [sweep]
      split
      · rename_i inWindow
        apply ih
        · rw [ExtTreeSet.size_erase, if_pos inWindow]
          exact Nat.sub_le_of_le_add enough
        · intro id member
          rw [ExtTreeSet.mem_erase, ne_eq, LawfulEqCmp.compare_eq_iff_eq] at member
          exact Nat.lt_of_le_of_ne (above id member.2) member.1
      · rename_i notInWindow
        intro id member
        refine Nat.lt_of_le_of_ne (above id member) ?_
        intro same
        rw [same] at notInWindow
        exact notInWindow (ExtTreeSet.contains_iff_mem.mpr member)

theorem Canonical.record (canonical : od.Canonical) {id : Nat} (fresh : od.isDup id = false) :
    (od.record id).Canonical := by
  apply sweep_canonical
  · exact Nat.le_refl _
  · intro other member
    rw [ExtTreeSet.mem_insert, LawfulEqCmp.compare_eq_iff_eq] at member
    rcases member with rfl | earlier
    · apply canonical.watermarked.le_of_not_mem
      intro dup
      exact absurd (fresh.symm.trans dup) Bool.false_ne_true
    · exact Nat.le_of_lt (canonical other earlier)

theorem canonical_default : default.Canonical :=
  fun _ member => absurd member ExtTreeSet.not_mem_empty

end OriginDedup

/-! ### All origins -/

namespace WriteDedup

/-- Every origin's state is canonical, and there is one only for an origin of
which something was applied. -/
structure Canonical (dedup : WriteDedup) : Prop where
  origins : ∀ origin od, dedup.origin origin = some od → od.Canonical
  inhabited : ∀ origin od, dedup.origin origin = some od → ∃ id, od.isDup id = true

variable {dedup other : WriteDedup}

theorem Canonical.getD (canonical : dedup.Canonical) (origin : ProcId) :
    ((dedup.origin origin).getD OriginDedup.default).Canonical := by
  cases found : dedup.origin origin with
  | none => exact OriginDedup.canonical_default
  | some od => exact canonical.origins origin od found

theorem Canonical.firstSeen (canonical : dedup.Canonical) (origin : ProcId) (requestId : Nat) :
    (dedup.firstSeen origin requestId).2.Canonical := by
  cases dup : dedup.isDup origin requestId with
  | true =>
      rw [firstSeen_dup dup]
      exact canonical
  | false =>
      have recorded := (canonical.getD origin).record dup
      rw [firstSeen_fresh dup]
      have lookup (at_ : ProcId) (od : OriginDedup)
          (found : WriteDedup.origin ⟨dedup.origins.insert origin
            (((dedup.origin origin).getD OriginDedup.default).record requestId)⟩ at_ = some od) :
          od = ((dedup.origin origin).getD OriginDedup.default).record requestId ∨
            dedup.origin at_ = some od := by
        rw [WriteDedup.origin, ExtTreeMap.getElem?_insert] at found
        split at found
        · exact .inl (Option.some.inj found).symm
        · exact .inr found
      constructor
      · intro at_ od found
        rcases lookup at_ od found with rfl | earlier
        · exact recorded
        · exact canonical.origins at_ od earlier
      · intro at_ od found
        rcases lookup at_ od found with rfl | earlier
        · exact ⟨requestId, (OriginDedup.isDup_record _ _ _).mpr (.inl rfl)⟩
        · exact canonical.inhabited at_ od earlier

theorem Canonical.origin_none_iff (canonical : dedup.Canonical) (origin : ProcId) :
    dedup.origin origin = none ↔ ∀ id, dedup.isDup origin id = false := by
  unfold isDup
  cases found : dedup.origin origin with
  | none => simp
  | some od =>
      obtain ⟨id, dup⟩ := canonical.inhabited origin od found
      simp only [reduceCtorEq, Option.getD_some, false_iff, not_forall, Bool.not_eq_false]
      exact ⟨id, dup⟩

theorem Canonical.ext (canonical : dedup.Canonical) (canonical' : other.Canonical)
    (same : ∀ origin id, dedup.isDup origin id = true ↔ other.isDup origin id = true) :
    dedup = other := by
  have agree (origin : ProcId) (id : Nat) : dedup.isDup origin id = other.isDup origin id :=
    Bool.eq_iff_iff.mpr (same origin id)
  have lookup (origin : ProcId) : dedup.origin origin = other.origin origin := by
    have absent := canonical.origin_none_iff origin
    have absent' := canonical'.origin_none_iff origin
    simp only [agree] at absent
    cases found : dedup.origin origin with
    | none => exact (absent'.mpr (absent.mp found)).symm
    | some od =>
        cases found' : other.origin origin with
        | none => rw [absent.mpr (absent'.mp found')] at found; cases found
        | some od' =>
            congr 1
            apply (canonical.origins origin od found).ext (canonical'.origins origin od' found')
            intro id
            have here := same origin id
            unfold isDup at here
            rw [found, found'] at here
            exact here
  cases dedup
  cases other
  congr 1
  exact ExtTreeMap.ext_getElem? (fun {origin} => lookup origin)

theorem canonical_new : new.Canonical where
  origins _ _ found := by simp [WriteDedup.origin, new] at found
  inhabited _ _ found := by simp [WriteDedup.origin, new] at found

/-! ### A sequence of pairs -/

def seeAll (dedup : WriteDedup) (pairs : List (ProcId × Nat)) : WriteDedup :=
  pairs.foldl (fun dedup pair => (dedup.firstSeen pair.1 pair.2).2) dedup

theorem seeAll_canonical (canonical : dedup.Canonical) (pairs : List (ProcId × Nat)) :
    (dedup.seeAll pairs).Canonical := by
  induction pairs generalizing dedup with
  | nil => exact canonical
  | cons pair rest ih => exact ih (canonical.firstSeen pair.1 pair.2)

theorem isDup_seeAll (dedup : WriteDedup) (pairs : List (ProcId × Nat)) (origin : ProcId)
    (id : Nat) :
    (dedup.seeAll pairs).isDup origin id = true ↔
      (origin, id) ∈ pairs ∨ dedup.isDup origin id = true := by
  induction pairs generalizing dedup with
  | nil => simp [seeAll]
  | cons pair rest ih =>
      have later := ih (dedup.firstSeen pair.1 pair.2).2
      rw [isDup_firstSeen] at later
      change (seeAll (dedup.firstSeen pair.1 pair.2).2 rest).isDup origin id = true ↔ _
      rw [later, List.mem_cons]
      tauto

theorem isDup_seeAll_new (pairs : List (ProcId × Nat)) (origin : ProcId) (id : Nat) :
    (new.seeAll pairs).isDup origin id = true ↔ (origin, id) ∈ pairs := by
  rw [isDup_seeAll, isDup_new]
  simp

/-- The first occurrences of an origin's ids come in the order 0, 1, 2, ...:
all smaller ids have occurred before a new one does. -/
def InOrder (pairs : List (ProcId × Nat)) (origin : ProcId) : Prop :=
  ∀ before id after, pairs = before ++ (origin, id) :: after → (origin, id) ∉ before →
    ∀ below < id, (origin, below) ∈ before

theorem InOrder.downward {pairs before : List (ProcId × Nat)} {origin : ProcId}
    (ordered : InOrder pairs origin) (isFront : before <+: pairs) {id : Nat}
    (member : (origin, id) ∈ before) {below : Nat} (smaller : below < id) :
    (origin, below) ∈ before := by
  obtain ⟨rest, rfl⟩ := isFront
  obtain ⟨first, later, rfl, fresh⟩ := List.eq_append_cons_of_mem member
  have occurred := ordered first id (later ++ rest) (by simp) fresh below smaller
  exact List.mem_append_left _ occurred

/-- The states a sequence of pairs leads through from `new`, read as the set
of the pairs seen. -/
structure ActsAsSet (pairs : List (ProcId × Nat)) : Prop where
  answers : ∀ before pair after, pairs = before ++ pair :: after →
    (((new.seeAll before).firstSeen pair.1 pair.2).1 = true ↔ pair ∉ before)
  canonical : ∀ others : List (ProcId × Nat), (∀ pair, pair ∈ others ↔ pair ∈ pairs) →
    new.seeAll others = new.seeAll pairs
  window : ∀ before, before <+: pairs → ∀ origin od, (new.seeAll before).origin origin = some od →
    od.watermark ∉ od.recent ∧ ∀ id ∈ od.recent, od.watermark < id
  drained : ∀ origin, InOrder pairs origin → ∀ before, before <+: pairs → ∀ od,
    (new.seeAll before).origin origin = some od → od.recent = ∅
  counts : ∀ bound, (∀ pair ∈ pairs, pair.2 < bound) → ∀ before, before <+: pairs →
    ∀ origin od, (new.seeAll before).origin origin = some od → od.watermark ≤ bound

theorem isDup_of_origin {origin : ProcId} {od : OriginDedup} (found : dedup.origin origin = some od)
    (id : Nat) : od.isDup id = dedup.isDup origin id := by
  rw [isDup, found]
  rfl

/-- The deduplication state acts as the set of all pairs seen, in every order
in which they can come. -/
theorem watermark_dedup_is_set (pairs : List (ProcId × Nat)) : ActsAsSet pairs := by
  have canonical (before : List (ProcId × Nat)) : (new.seeAll before).Canonical :=
    seeAll_canonical canonical_new before
  constructor
  · intro before pair after _
    rw [firstSeen_fst, Bool.not_eq_true', ← Bool.not_eq_true, isDup_seeAll_new]
  · intro others same
    apply (canonical others).ext (canonical pairs)
    intro origin id
    rw [isDup_seeAll_new, isDup_seeAll_new, same]
  · intro before _ origin od found
    have above := (canonical before).origins origin od found
    exact ⟨fun within => Nat.lt_irrefl _ (above _ within), above⟩
  · intro origin ordered before isFront od found
    have marked := ((canonical before).origins origin od found).watermarked
    apply ExtTreeSet.eq_empty_iff_forall_not_mem.mpr
    apply marked.window_empty
    intro id member below smaller
    change od.isDup id = true at member
    change od.isDup below = true
    rw [isDup_of_origin found, isDup_seeAll_new] at member ⊢
    exact ordered.downward isFront member smaller
  · intro bound bounded before isFront origin od found
    apply ((canonical before).origins origin od found).watermarked.watermark_le
    intro id member
    change od.isDup id = true at member
    rw [isDup_of_origin found, isDup_seeAll_new] at member
    exact bounded _ (isFront.subset member)

end WriteDedup

end TrainsValkey
