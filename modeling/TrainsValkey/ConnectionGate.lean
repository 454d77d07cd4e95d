import Mathlib.Logic.Relation
import TrainsValkey.Library.Tally

/-
The gate that admits client connections.

An admission takes a permit of the semaphore and then, under the lock of the
map, counts itself in or is refused.  A guard that is dropped counts itself out
and then gives the permit back.  The four steps of any number of connections
interleave in every order.
-/

set_option autoImplicit false

namespace TrainsValkey

open Std (ExtTreeMap)
open Library (Tally)

def perIpConnCap : Nat := 32

/-- The source's key is an address of either version. -/
abbrev IpAddr := Nat

/-! ### The gate -/

@[ext] structure ConnGate where
  available : Nat
  perIp : ExtTreeMap IpAddr Nat

namespace ConnGate

def new (maxConns : Nat) : ConnGate := { available := maxConns, perIp := ∅ }

def tryAcquire (gate : ConnGate) : Option ConnGate :=
  if gate.available = 0 then none else some { gate with available := gate.available - 1 }

/-- The rest of `try_admit`, with the map locked: whether a guard is returned. -/
def enter (ip : IpAddr) (gate : ConnGate) : Bool × ConnGate :=
  let m := gate.perIp.insertIfNew ip 0
  let entry := m.getD ip 0
  if perIpConnCap ≤ entry then (false, { gate with perIp := m })
  else (true, { gate with perIp := m.insert ip (entry + 1) })

/-- `ConnGuard::drop`, with the map locked. -/
def leave (ip : IpAddr) (gate : ConnGate) : ConnGate :=
  match gate.perIp[ip]? with
  | some c =>
      let c := c - 1
      { gate with perIp := if c = 0 then gate.perIp.erase ip else gate.perIp.insert ip c }
  | none => gate

def release (gate : ConnGate) : ConnGate := { gate with available := gate.available + 1 }

end ConnGate

/-! ### Connections in every order -/

inductive ConnPhase where
  | entering
  /-- It was refused and still holds its permit. -/
  | refused
  | admitted
  /-- Its guard counted itself out and still holds its permit. -/
  | leaving
deriving DecidableEq

structure ConnTask where
  ip : IpAddr
  phase : ConnPhase

structure GateState where
  gate : ConnGate
  tasks : List ConnTask

/-- One step of one connection. -/
inductive GateStep : GateState → GateState → Prop where
  | full {state : GateState} : state.gate.tryAcquire = none → GateStep state state
  | acquire {gate next : ConnGate} {tasks : List ConnTask} (ip : IpAddr) :
      gate.tryAcquire = some next →
        GateStep ⟨gate, tasks⟩ ⟨next, ⟨ip, .entering⟩ :: tasks⟩
  | enter {gate next : ConnGate} {ip : IpAddr} (front back : List ConnTask) :
      gate.enter ip = (true, next) →
        GateStep ⟨gate, front ++ ⟨ip, .entering⟩ :: back⟩ ⟨next, front ++ ⟨ip, .admitted⟩ :: back⟩
  | refuse {gate next : ConnGate} {ip : IpAddr} (front back : List ConnTask) :
      gate.enter ip = (false, next) →
        GateStep ⟨gate, front ++ ⟨ip, .entering⟩ :: back⟩ ⟨next, front ++ ⟨ip, .refused⟩ :: back⟩
  | decrement {gate : ConnGate} {ip : IpAddr} (front back : List ConnTask) :
      GateStep ⟨gate, front ++ ⟨ip, .admitted⟩ :: back⟩
        ⟨gate.leave ip, front ++ ⟨ip, .leaving⟩ :: back⟩
  | release {gate : ConnGate} {task : ConnTask} (front back : List ConnTask) :
      task.phase = .refused ∨ task.phase = .leaving →
        GateStep ⟨gate, front ++ task :: back⟩ ⟨gate.release, front ++ back⟩

def GateState.start (maxConns : Nat) : GateState := { gate := .new maxConns, tasks := [] }

/-! ### What the gate accounts for -/

def ConnTask.guard (task : ConnTask) : Option IpAddr :=
  if task.phase = .admitted then some task.ip else none

def GateState.guards (state : GateState) : List IpAddr := state.tasks.filterMap ConnTask.guard

structure Accounted (maxConns : Nat) (state : GateState) : Prop where
  permits : state.gate.available + state.tasks.length = maxConns
  counters : Tally state.gate.perIp state.guards
  capped : ∀ ip, state.guards.count ip ≤ perIpConnCap

section Enter

variable {gate next : ConnGate} {ip : IpAddr} {guards : List IpAddr}

theorem enter_eq (counters : Tally gate.perIp guards) :
    gate.enter ip =
      if perIpConnCap ≤ guards.count ip then (false, gate)
      else (true, { gate with perIp := gate.perIp.insert ip (guards.count ip + 1) }) := by
  have entry : (gate.perIp.insertIfNew ip 0).getD ip 0 = guards.count ip := by
    rw [← counters.getD_eq, ExtTreeMap.getD_insertIfNew]
    split
    · rename_i absent
      rw [ExtTreeMap.getD_eq_fallback absent.2]
    · rfl
  unfold ConnGate.enter
  simp only [entry]
  split
  · rename_i full
    have present : ip ∈ gate.perIp := by
      rw [counters.mem_iff, ← List.count_pos_iff]
      exact Nat.lt_of_lt_of_le (by decide) full
    have same : gate.perIp.insertIfNew ip 0 = gate.perIp := by
      apply ExtTreeMap.ext_getElem?
      intro key
      rw [ExtTreeMap.getElem?_insertIfNew, if_neg (fun absent => absent.2 present)]
    rw [same]
  · have same : (gate.perIp.insertIfNew ip 0).insert ip (guards.count ip + 1) =
        gate.perIp.insert ip (guards.count ip + 1) := by
      apply ExtTreeMap.ext_getElem?
      intro key
      rw [ExtTreeMap.getElem?_insert, ExtTreeMap.getElem?_insert]
      split
      · rfl
      · rename_i apart
        rw [ExtTreeMap.getElem?_insertIfNew, if_neg (fun absent => apart absent.1)]
    rw [same]

theorem leave_tally (counters : Tally gate.perIp (ip :: guards)) :
    Tally (gate.leave ip).perIp guards := by
  have found : gate.perIp[ip]? = some (guards.count ip + 1) := by
    rw [counters ip, List.count_cons_self]
    rfl
  unfold ConnGate.leave
  rw [found]
  simp only [Nat.add_sub_cancel]
  split
  · rename_i last
    exact counters.erase_last last
  · rename_i more
    exact counters.tail more

end Enter

/-! ### Every step keeps the accounts -/

section Steps

variable {maxConns : Nat} {state next : GateState}

def guardsAround (front back : List ConnTask) : List IpAddr :=
  front.filterMap ConnTask.guard ++ back.filterMap ConnTask.guard

theorem guards_unguarded (gate : ConnGate) (front back : List ConnTask) (task : ConnTask)
    (unguarded : task.guard = none) :
    (GateState.mk gate (front ++ task :: back)).guards = guardsAround front back := by
  rw [GateState.guards, List.filterMap_append, List.filterMap_cons, unguarded]
  rfl

theorem guards_admitted (gate : ConnGate) (front back : List ConnTask) (ip : IpAddr) :
    (GateState.mk gate (front ++ ⟨ip, .admitted⟩ :: back)).guards.Perm
      (ip :: guardsAround front back) := by
  rw [GateState.guards, List.filterMap_append, List.filterMap_cons]
  exact List.perm_middle

theorem guards_without (gate : ConnGate) (front back : List ConnTask) :
    (GateState.mk gate (front ++ back)).guards = guardsAround front back :=
  List.filterMap_append

theorem length_around (front back : List ConnTask) (task : ConnTask) :
    (front ++ task :: back).length = front.length + back.length + 1 := by
  rw [List.length_append, List.length_cons, Nat.add_assoc]

theorem Accounted.start (maxConns : Nat) : Accounted maxConns (.start maxConns) :=
  ⟨rfl, Tally.empty, fun _ => Nat.zero_le _⟩

theorem GateStep.keeps (step : GateStep state next) (accounted : Accounted maxConns state) :
    Accounted maxConns next := by
  obtain ⟨permits, counters, capped⟩ := accounted
  cases step with
  | full none => exact ⟨permits, counters, capped⟩
  | @acquire gate next tasks ip acquired =>
      unfold ConnGate.tryAcquire at acquired
      split at acquired
      · cases acquired
      · cases acquired
        refine ⟨?_, counters, capped⟩
        simp only [List.length_cons] at permits ⊢
        omega
  | @enter gate next ip front back entered =>
      simp only [guards_unguarded gate front back ⟨ip, .entering⟩ rfl] at counters capped
      have guards := guards_admitted next front back ip
      rw [enter_eq counters] at entered
      split at entered
      · cases entered
      · rename_i room
        cases entered
        refine ⟨?_, (counters.cons ip).perm guards.symm, fun other => ?_⟩
        · rw [length_around] at permits ⊢
          exact permits
        · rw [guards.count_eq, List.count_cons]
          have bound := capped other
          split
          · rename_i same
            rw [eq_of_beq same] at room
            omega
          · exact bound
  | @refuse gate next ip front back refused =>
      simp only [guards_unguarded gate front back ⟨ip, .entering⟩ rfl] at counters capped
      rw [enter_eq counters] at refused
      split at refused
      · cases refused
        have guards := guards_unguarded gate front back ⟨ip, .refused⟩ rfl
        refine ⟨?_, ?_, ?_⟩
        · rw [length_around] at permits ⊢
          exact permits
        · rw [guards]
          exact counters
        · rw [guards]
          exact capped
      · cases refused
  | @decrement gate ip front back =>
      have before := guards_admitted gate front back ip
      have guards := guards_unguarded (gate.leave ip) front back ⟨ip, .leaving⟩ rfl
      refine ⟨?_, ?_, fun other => ?_⟩
      · rw [length_around] at permits ⊢
        rw [← permits]
        unfold ConnGate.leave
        split <;> rfl
      · rw [guards]
        exact leave_tally (counters.perm before)
      · have bound := capped other
        rw [before.count_eq, List.count_cons] at bound
        rw [guards]
        omega
  | @release gate task front back finished =>
      have unguarded : task.guard = none := by
        rcases finished with refused | leaving
        · rw [ConnTask.guard, refused]
          rfl
        · rw [ConnTask.guard, leaving]
          rfl
      simp only [guards_unguarded gate front back task unguarded] at counters capped
      refine ⟨?_, ?_, ?_⟩
      · rw [length_around] at permits
        rw [List.length_append]
        simp only [ConnGate.release] at permits ⊢
        omega
      · rw [guards_without]
        exact counters
      · rw [guards_without]
        exact capped

theorem accounted_of_reached
    (reached : Relation.ReflTransGen GateStep (.start maxConns) state) :
    Accounted maxConns state := by
  induction reached with
  | refl => exact Accounted.start maxConns
  | tail _ step ih => exact step.keeps ih

end Steps

/-! ### What holds in every order -/

theorem length_guards_idle {state : GateState}
    (idle : ∀ task ∈ state.tasks, task.phase = .admitted) :
    state.guards.length = state.tasks.length := by
  have all : state.guards = state.tasks.map (·.ip) := by
    rw [GateState.guards, ← List.filterMap_eq_map]
    apply List.filterMap_congr
    intro task member
    rw [ConnTask.guard, if_pos (idle task member)]
    rfl
  rw [all, List.length_map]

def ConnGate.total (gate : ConnGate) : Nat := (gate.perIp.toList.map (·.2)).sum

def GateState.held (state : GateState) : Nat := state.tasks.length

/-- What the semaphore, the map and the connections say of each other. -/
structure GateAccounts (maxConns : Nat) (state : GateState) : Prop where
  counter : ∀ ip, state.gate.perIp.getD ip 0 = state.guards.count ip
  capped : ∀ ip, state.gate.perIp.getD ip 0 ≤ perIpConnCap
  noZero : ∀ ip : IpAddr, state.gate.perIp[ip]? ≠ some 0
  permits : state.gate.available + state.held = maxConns
  total_le : state.gate.total ≤ state.held
  held_le : state.held ≤ maxConns
  /-- No admission and no drop is in progress. -/
  idle : (∀ task ∈ state.tasks, task.phase = .admitted) → state.gate.total = state.held
  refused : ∀ ip next, state.gate.enter ip = (false, next) → next = state.gate
  givenBack : ∀ next, state.gate.tryAcquire = some next → next.release = state.gate

theorem Accounted.accounts {maxConns : Nat} {state : GateState}
    (accounted : Accounted maxConns state) : GateAccounts maxConns state := by
  obtain ⟨permits, counters, capped⟩ := accounted
  have total : state.gate.total = state.guards.length := counters.sum_values
  constructor
  · exact counters.getD_eq
  · intro ip
    rw [counters.getD_eq]
    exact capped ip
  · exact counters.ne_zero
  · exact permits
  · rw [total]
    exact List.length_filterMap_le _ _
  · rw [← permits]
    exact Nat.le_add_left _ _
  · intro idle
    rw [total]
    exact length_guards_idle idle
  · intro ip next refused
    rw [enter_eq counters] at refused
    split at refused
    · cases refused
      rfl
    · cases refused
  · intro next acquired
    unfold ConnGate.tryAcquire at acquired
    split at acquired
    · cases acquired
    · rename_i some_
      cases acquired
      have again : state.gate.available - 1 + 1 = state.gate.available := by omega
      rw [ConnGate.release, again]

theorem gate_of_tasks {maxConns : Nat} {state later : GateState}
    (accounted : Accounted maxConns state) (laterAccounted : Accounted maxConns later)
    (same : later.tasks.Perm state.tasks) : later.gate = state.gate := by
  have counters : later.gate.perIp = state.gate.perIp :=
    laterAccounted.counters.unique accounted.counters (same.filterMap _)
  have permits := accounted.permits
  have laterPermits := laterAccounted.permits
  have lengths := same.length_eq
  have available : later.gate.available = state.gate.available := by omega
  exact ConnGate.ext available counters

/-- The counters, the permits and the guards agree whatever the order of the
steps.  A connection that was refused, by either cap, leaves the gate as it was
once it is gone, whatever came between. -/
theorem gate_accounts (maxConns : Nat) (state : GateState)
    (reached : Relation.ReflTransGen GateStep (.start maxConns) state) :
    GateAccounts maxConns state ∧
      ∀ later, Relation.ReflTransGen GateStep state later →
        later.tasks.Perm state.tasks → later.gate = state.gate := by
  have accounted := accounted_of_reached reached
  refine ⟨accounted.accounts, fun later went same => ?_⟩
  exact gate_of_tasks accounted (accounted_of_reached (reached.trans went)) same

/-! ### Three connections of one address -/

section Sample

/-- Two permits: the first two connections take them, and the third finds none. -/
theorem gate_accounts_crowded :
    GateAccounts 2
      ⟨⟨0, (∅ : ExtTreeMap IpAddr Nat).insert 7 1⟩, [⟨7, .entering⟩, ⟨7, .admitted⟩]⟩ := by
  refine (gate_accounts 2 _ ?_).1
  have first : GateStep (.start 2) ⟨⟨1, ∅⟩, [⟨7, .entering⟩]⟩ := .acquire 7 rfl
  have second : GateStep ⟨⟨1, ∅⟩, [⟨7, .entering⟩]⟩
      ⟨⟨1, (∅ : ExtTreeMap IpAddr Nat).insert 7 1⟩, [⟨7, .admitted⟩]⟩ := by
    refine .enter [] [] ?_
    rw [enter_eq Tally.empty]
    rfl
  have third : GateStep ⟨⟨1, (∅ : ExtTreeMap IpAddr Nat).insert 7 1⟩, [⟨7, .admitted⟩]⟩
      ⟨⟨0, (∅ : ExtTreeMap IpAddr Nat).insert 7 1⟩, [⟨7, .entering⟩, ⟨7, .admitted⟩]⟩ :=
    .acquire 7 rfl
  exact (((Relation.ReflTransGen.single first).tail second).tail third).tail (.full rfl)

end Sample

end TrainsValkey
