import TrainsValkey.Library.Circuit
import TrainsValkey.RingTarget

/-
The ring that the survivors form.

Every survivor sends to the first live node after it.  Going from live node to
live node in this way is a circuit through all of them, whatever nodes are dead.
-/

set_option autoImplicit false

namespace TrainsValkey

open Std (ExtTreeSet)
open Library (Circuit GoesRound)

/-! ### The loop of `next_alive` -/

/-- The loop of the source, started at a position, ends at another. -/
inductive NextAliveLoop (me n : Nat) (dead : ExtTreeSet Nat) : Nat → Nat → Prop where
  | stop {j : Nat} : ¬(dead.contains j = true ∧ j ≠ me) → NextAliveLoop me n dead j j
  | turn {j ends : Nat} : dead.contains j = true ∧ j ≠ me →
      NextAliveLoop me n dead ((j + 1) % n) ends → NextAliveLoop me n dead j ends

def liveNodes (n : Nat) (dead : ExtTreeSet Nat) : Finset Nat :=
  (Finset.range n).filter (fun v => dead.contains v = false)

/-- The position that many steps round the ring is the first live one. -/
structure FirstLive (me n : Nat) (dead : ExtTreeSet Nat) (steps : Nat) : Prop where
  moves : 0 < steps
  within : steps ≤ n
  live : dead.contains ((me + steps) % n) = false
  before : ∀ earlier, 0 < earlier → earlier < steps → dead.contains ((me + earlier) % n) = true

section Walk

variable {me n : Nat} {dead : ExtTreeSet Nat}

theorem mem_liveNodes (v : Nat) : v ∈ liveNodes n dead ↔ v < n ∧ dead.contains v = false := by
  rw [liveNodes, Finset.mem_filter, Finset.mem_range]

theorem next_position (k : Nat) : ((me + k) % n + 1) % n = (me + (k + 1)) % n := by
  rw [Nat.mod_add_mod, Nat.add_assoc]

theorem goes_on {k : Nat} (within : me < n) (low : k ≤ n)
    (goesOn : (dead.contains ((me + k) % n) && (me + k) % n != me) = true) :
    dead.contains ((me + k) % n) = true ∧ (me + k) % n ≠ me ∧ k < n := by
  obtain ⟨isDead, notMe⟩ := Bool.and_eq_true_iff.mp goesOn
  have away : (me + k) % n ≠ me := bne_iff_ne.mp notMe
  refine ⟨isDead, away, ?_⟩
  by_contra around
  have whole : k = n := by omega
  rw [whole, Nat.add_mod_right, Nat.mod_eq_of_lt within] at away
  exact away rfl

theorem nextAliveFrom_loop (within : me < n) {turns k : Nat} (enough : k + turns = n + 1)
    (low : k ≤ n) :
    NextAliveLoop me n dead ((me + k) % n) (nextAliveFrom me n dead turns ((me + k) % n)) := by
  induction turns generalizing k with
  | zero => omega
  | succ turns ih =>
      rw [nextAliveFrom]
      split
      · rename_i goesOn
        obtain ⟨isDead, notMe, early⟩ := goes_on within low goesOn
        refine .turn ⟨isDead, notMe⟩ ?_
        rw [next_position]
        exact ih (by omega) early
      · rename_i stops
        refine .stop (fun goesOn => stops ?_)
        rw [goesOn.1, bne_iff_ne.mpr goesOn.2]
        rfl

theorem nextAliveFrom_firstLive (live : me ∈ liveNodes n dead) {turns k : Nat}
    (enough : k + turns = n + 1) (moves : 0 < k) (low : k ≤ n)
    (before : ∀ earlier, 0 < earlier → earlier < k → dead.contains ((me + earlier) % n) = true) :
    ∃ steps, FirstLive me n dead steps ∧
      nextAliveFrom me n dead turns ((me + k) % n) = (me + steps) % n := by
  obtain ⟨within, alive⟩ := (mem_liveNodes me).mp live
  induction turns generalizing k with
  | zero => omega
  | succ turns ih =>
      rw [nextAliveFrom]
      split
      · rename_i goesOn
        obtain ⟨isDead, _, early⟩ := goes_on within low goesOn
        rw [next_position]
        refine ih (by omega) (Nat.succ_pos k) early (fun earlier positive bound => ?_)
        by_cases last : earlier = k
        · rw [last]
          exact isDead
        · exact before earlier positive (by omega)
      · rename_i stops
        have here : dead.contains ((me + k) % n) = false := by
          by_contra isDead
          rw [Bool.not_eq_false] at isDead
          by_cases same : (me + k) % n = me
          · rw [same, alive] at isDead
            cases isDead
          · rw [isDead, bne_iff_ne.mpr same] at stops
            exact stops rfl
        exact ⟨k, ⟨moves, low, here, before⟩, rfl⟩

theorem nextAlive_firstLive (live : me ∈ liveNodes n dead) :
    ∃ steps, FirstLive me n dead steps ∧ nextAlive me n dead = (me + steps) % n := by
  have within := ((mem_liveNodes me).mp live).1
  exact nextAliveFrom_firstLive live (by omega) Nat.zero_lt_one (by omega)
    (fun earlier positive below => by omega)

/-! ### One circuit -/

/-- Every hop comes closer to a live node ahead, and never passes it. -/
theorem nextAlive_leads (live : me ∈ liveNodes n dead) (away : Nat) (bound : away < n)
    (aheadLive : (me + away) % n ∈ liveNodes n dead) :
    ∃ steps, (fun v => nextAlive v n dead)^[steps] me = (me + away) % n := by
  induction away using Nat.strongRecOn generalizing me with
  | ind away ih =>
      have within := ((mem_liveNodes me).mp live).1
      by_cases here : away = 0
      · refine ⟨0, ?_⟩
        rw [here, Nat.add_zero, Nat.mod_eq_of_lt within]
        rfl
      · obtain ⟨hop, first, next⟩ := nextAlive_firstLive live
        have notPast : hop ≤ away := by
          by_contra past
          have skipped := first.before away (by omega) (by omega)
          rw [((mem_liveNodes _).mp aheadLive).2] at skipped
          cases skipped
        have rest : ((me + hop) % n + (away - hop)) % n = (me + away) % n := by
          rw [Nat.mod_add_mod]
          congr 1
          omega
        have nextLive : (me + hop) % n ∈ liveNodes n dead :=
          (mem_liveNodes _).mpr ⟨Nat.mod_lt _ (by omega), first.live⟩
        have moves := first.moves
        obtain ⟨steps, reached⟩ := ih (away - hop) (by omega) nextLive (by omega)
          (by rw [rest]; exact aheadLive)
        refine ⟨steps + 1, ?_⟩
        rw [Function.iterate_succ_apply, next, reached, rest]

theorem nextAlive_circuit (n : Nat) (dead : ExtTreeSet Nat) :
    Circuit (liveNodes n dead) (fun v => nextAlive v n dead) := by
  constructor
  · intro me live
    obtain ⟨steps, first, next⟩ := nextAlive_firstLive live
    have within := ((mem_liveNodes me).mp live).1
    rw [mem_liveNodes, next]
    exact ⟨Nat.mod_lt _ (by omega), first.live⟩
  · intro me live ahead aheadLive
    have within := ((mem_liveNodes me).mp live).1
    have aheadWithin := ((mem_liveNodes ahead).mp aheadLive).1
    have target : (me + (ahead + n - me) % n) % n = ahead := by
      have sum : me + (ahead + n - me) = ahead + n := by omega
      rw [Nat.add_mod_mod, sum, Nat.add_mod_right, Nat.mod_eq_of_lt aheadWithin]
    have leads := nextAlive_leads live ((ahead + n - me) % n) (Nat.mod_lt _ (by omega))
    rw [target] at leads
    exact leads aheadLive

end Walk

/-- From every live node, the loop of `next_alive` ends at the first live node
after it, and following it meets every live node once before it returns. -/
theorem survivors_form_one_ring (n : Nat) (dead : ExtTreeSet Nat) :
    ∀ me ∈ liveNodes n dead,
      NextAliveLoop me n dead ((me + 1) % n) (nextAlive me n dead) ∧
      (∃ steps, FirstLive me n dead steps ∧ nextAlive me n dead = (me + steps) % n) ∧
      (liveNodes n dead = {me} → nextAlive me n dead = me) ∧
      GoesRound (liveNodes n dead) (fun v => nextAlive v n dead) me := by
  intro me live
  have circuit := nextAlive_circuit n dead
  have within := ((mem_liveNodes me).mp live).1
  refine ⟨nextAliveFrom_loop within (Nat.add_comm 1 n) (by omega), nextAlive_firstLive live, ?_,
    circuit.goesRound live⟩
  intro sole
  have stays := circuit.stays me live
  rw [sole] at stays
  exact Finset.mem_singleton.mp stays

def deadNeighbours : ExtTreeSet Nat := .ofList [4, 0]

theorem survivors_form_one_ring_wrapped :
    nextAlive 3 5 deadNeighbours = 1 ∧
      GoesRound (liveNodes 5 deadNeighbours) (fun v => nextAlive v 5 deadNeighbours) 3 :=
  ⟨by decide, (survivors_form_one_ring 5 deadNeighbours 3
    ((mem_liveNodes 3).mpr ⟨by decide, by decide⟩)).2.2.2⟩

end TrainsValkey
