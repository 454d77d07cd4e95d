import TrainsValkey.Classify
import TrainsValkey.Library.Expiring
import TrainsValkey.TotalOrder

/-
Replicas whose store is an engine with its own clock.

The proxy forwards a broadcast command verbatim to the engine beside it, and
each engine expires keys by its own local time.  The engine is a parameter: it
sets a relative deadline from its local time and treats a key past its deadline
as absent.  Which keys a command's outcome depends on is the engine's own.
-/

set_option autoImplicit false

namespace TrainsValkey

open Library (Cell Keyspace Lifetime Change Engine)

/-- What the code relies on of the engine's side of the wire.  A command tells of
a deadline only whether there is one; an `EXPIRE` with `GT` or `LT`, which
compares deadlines, is outside this class. -/
structure RedisEngine where
  Value : Type
  commands : Engine Bytes Value Command Reply
  query : Keyspace Bytes Value → Nat → Command → Reply
  dump : Keyspace Bytes Value → Nat → Bytes
  restore : Nat → Bytes → Except SnapshotError Unit × Keyspace Bytes Value

structure RedisBackend (engine : RedisEngine) where
  keyspace : Keyspace Bytes engine.Value
  clock : Nat

section Backend

variable {engine : RedisEngine}

instance : RedisStore (RedisBackend engine) where
  apply backend cmd :=
    let (reply, keyspace) := engine.commands.exec backend.clock cmd backend.keyspace
    (reply, { backend with keyspace })
  query backend _ cmd := engine.query backend.keyspace backend.clock cmd
  exportSnapshot backend := engine.dump backend.keyspace backend.clock
  importSnapshot backend bytes :=
    match engine.restore backend.clock bytes with
    | (.ok (), keyspace) => (.ok (), { backend with keyspace })
    | (.error e, keyspace) => (.error e, { backend with keyspace })

def Parts.atClock (now : Nat) (parts : Parts (RedisBackend engine)) :
    Parts (RedisBackend engine) :=
  { parts with store := { keyspace := parts.store.keyspace, clock := now } }

def Parts.deliverAt (now : Nat) (op : WriteOp) (parts : Parts (RedisBackend engine)) :
    Option Reply × Parts (RedisBackend engine) :=
  applyDeliveredOpParts op (parts.atClock now)

/-- The same operation on two replicas, at two local times. -/
structure TwoClocks where
  left : Nat
  right : Nat
  op : WriteOp

def Parts.deliverAllAt (now : TwoClocks → Nat) : List TwoClocks →
    Parts (RedisBackend engine) → List (Option Reply) × Parts (RedisBackend engine)
  | [], parts => ([], parts)
  | step :: rest, parts =>
      let delivered := parts.deliverAt (now step) step.op
      let later := deliverAllAt now rest delivered.2
      (delivered.1 :: later.1, later.2)

/-- No command that runs depends on a key whose deadline separates the two
clocks at that moment. -/
def Undivided : List TwoClocks → Parts (RedisBackend engine) → Parts (RedisBackend engine) → Prop
  | [], _, _ => True
  | step :: rest, left, right =>
      (left.dedup.isDup step.op.origin step.op.requestId = false →
        ∀ cmd, step.op.command = some cmd → ∀ key ∈ engine.commands.reads cmd,
          left.store.keyspace.SameSide step.left right.store.keyspace step.right key) ∧
      Undivided rest (left.deliverAt step.left step.op).2 (right.deliverAt step.right step.op).2

/-- Two replicas that differ in their clocks and deadlines alone. -/
structure InStep (left right : Parts (RedisBackend engine)) : Prop where
  keyspace : left.store.keyspace.Alike right.store.keyspace
  dedup : left.dedup = right.dedup
  deliveredLog : left.deliveredLog = right.deliveredLog

theorem applyTo_inStep (left right : RedisBackend engine)
    (alike : left.keyspace.Alike right.keyspace) (op : WriteOp) (undivided : ∀ cmd, op.command = some cmd →
      ∀ key ∈ engine.commands.reads cmd,
        left.keyspace.SameSide left.clock right.keyspace right.clock key) :
    (op.applyTo left).1 = (op.applyTo right).1 ∧
      (op.applyTo left).2.keyspace.Alike (op.applyTo right).2.keyspace := by
  unfold WriteOp.applyTo
  cases parsed : op.command with
  | none => exact ⟨rfl, alike⟩
  | some cmd => exact Engine.exec_alike alike (undivided cmd parsed)

theorem deliverAt_inStep {left right : Parts (RedisBackend engine)} (inStep : InStep left right)
    (step : TwoClocks)
    (undivided : left.dedup.isDup step.op.origin step.op.requestId = false →
      ∀ cmd, step.op.command = some cmd → ∀ key ∈ engine.commands.reads cmd,
        left.store.keyspace.SameSide step.left right.store.keyspace step.right key) :
    (left.deliverAt step.left step.op).1 = (right.deliverAt step.right step.op).1 ∧
      InStep (left.deliverAt step.left step.op).2 (right.deliverAt step.right step.op).2 := by
  unfold Parts.deliverAt
  cases dup : left.dedup.isDup step.op.origin step.op.requestId with
  | true =>
      have leftDup : (left.atClock step.left).dedup.isDup step.op.origin step.op.requestId = true :=
        dup
      have rightDup : (right.atClock step.right).dedup.isDup step.op.origin step.op.requestId =
          true := inStep.dedup ▸ dup
      rw [applyDeliveredOpParts_dup leftDup, applyDeliveredOpParts_dup rightDup]
      exact ⟨rfl, inStep.keyspace, inStep.dedup, inStep.deliveredLog⟩
  | false =>
      have leftFresh : (left.atClock step.left).dedup.isDup step.op.origin step.op.requestId =
          false := dup
      have rightFresh : (right.atClock step.right).dedup.isDup step.op.origin step.op.requestId =
          false := inStep.dedup ▸ dup
      obtain ⟨replies, alike⟩ := applyTo_inStep (left.atClock step.left).store
        (right.atClock step.right).store inStep.keyspace step.op (undivided dup)
      rw [applyDeliveredOpParts_fresh leftFresh, applyDeliveredOpParts_fresh rightFresh]
      refine ⟨?_, alike, ?_, ?_⟩
      · exact congrArg (fun reply => some (step.op.clientReply.getD reply)) replies
      · exact congrArg (fun dedup : WriteDedup =>
          (dedup.firstSeen step.op.origin step.op.requestId).2) inStep.dedup
      · exact congrArg (fun log : DeliveredLog => (log.append step.op).2) inStep.deliveredLog

theorem deliverAllAt_inStep {left right : Parts (RedisBackend engine)}
    (inStep : InStep left right) (steps : List TwoClocks)
    (undivided : Undivided steps left right) :
    (left.deliverAllAt TwoClocks.left steps).1 = (right.deliverAllAt TwoClocks.right steps).1 ∧
      InStep (left.deliverAllAt TwoClocks.left steps).2
        (right.deliverAllAt TwoClocks.right steps).2 := by
  induction steps generalizing left right with
  | nil => exact ⟨rfl, inStep⟩
  | cons step rest ih =>
      obtain ⟨here, later⟩ := undivided
      obtain ⟨replies, moved⟩ := deliverAt_inStep inStep step here
      obtain ⟨restReplies, final⟩ := ih moved later
      exact ⟨List.cons_eq_cons.mpr ⟨replies, restReplies⟩, final⟩

/-- Replicas that start alike and apply one stream at any local times surface
the same replies and hold the same values wherever no deadline separates the
clocks, as long as no command on the way depended on a key that was past its
deadline on one clock and not on the other. -/
theorem replicas_converge_undivided (engine : RedisEngine)
    (start : Parts (RedisBackend engine)) (steps : List TwoClocks)
    (undivided : Undivided steps start start) :
    (start.deliverAllAt TwoClocks.left steps).1 = (start.deliverAllAt TwoClocks.right steps).1 ∧
      ∀ leftNow rightNow key,
        (start.deliverAllAt TwoClocks.left steps).2.store.keyspace.SameSide leftNow
          (start.deliverAllAt TwoClocks.right steps).2.store.keyspace rightNow key →
        (start.deliverAllAt TwoClocks.left steps).2.store.keyspace.seen leftNow key =
          (start.deliverAllAt TwoClocks.right steps).2.store.keyspace.seen rightNow key := by
  have same : InStep start start := ⟨Keyspace.Alike.refl _, rfl, rfl⟩
  obtain ⟨replies, inStep⟩ := deliverAllAt_inStep same steps undivided
  refine ⟨replies, ?_⟩
  intro leftNow rightNow key side
  exact inStep.keyspace.seen_eq side

end Backend

/-! ### An engine of strings with deadlines -/

namespace StringEngine

def looks (cmd : Command) : Bool :=
  cmd.name == "SETNX" || cmd.name == "PEXPIRE"

def outcome (cmd : Command) (found : Option (Bytes × Bool)) : Reply × Change Bytes Bytes :=
  match cmd.name, cmd.arg 2, cmd.arg 3, found with
  | "SET", some value, _, _ => (.ok, .put value .unlimited)
  | "SETNX", some value, _, none => (.integer 1, .put value .unlimited)
  | "SETNX", some _, _, some _ => (.integer 0, .keep)
  | "PSETEX", some millis, some value, _ =>
      match MemStore.asInt millis with
      | some duration => (.ok, .put value (.after duration.toNat))
      | none => (MemStore.notAnInteger, .keep)
  | "PEXPIRE", some millis, _, some (value, _) =>
      match MemStore.asInt millis with
      | some duration => (.integer 1, .put value (.after duration.toNat))
      | none => (MemStore.notAnInteger, .keep)
  | "PEXPIRE", some _, _, none => (.integer 0, .keep)
  | name, _, _, _ => (.error s!"ERR unknown command '{name}'", .keep)

def effect (cmd : Command) (seen : Bytes → Option (Bytes × Bool)) :
    Reply × (Bytes → Change Bytes Bytes) :=
  let result := outcome cmd (if looks cmd then cmd.key.bind seen else none)
  (result.1, fun key => if cmd.key = some key then result.2 else .keep)

theorem outcome_not_carried (cmd : Command) (found : Option (Bytes × Bool)) (value source : Bytes) :
    (outcome cmd found).2 ≠ .put value (.carried source) := by
  unfold outcome
  split
  · simp
  · simp
  · simp
  · split <;> simp
  · split <;> simp
  · simp
  · simp

def commands : Engine Bytes Bytes Command Reply where
  reads cmd := {key | looks cmd = true ∧ cmd.key = some key}
  effect := effect
  readsOnly cmd first second same := by
    have found : (if looks cmd then cmd.key.bind first else none) =
        (if looks cmd then cmd.key.bind second else none) := by
      cases looked : looks cmd with
      | false => rfl
      | true =>
          cases keyed : cmd.key with
          | none => rfl
          | some key => exact same key ⟨looked, keyed⟩
    unfold effect
    rw [found]
  carriesRead cmd seen key value source change := by
    unfold effect at change
    simp only at change
    split at change
    · exact absurd change (outcome_not_carried cmd _ value source)
    · cases change

end StringEngine

def stringEngine : RedisEngine where
  Value := Bytes
  commands := StringEngine.commands
  query _ _ _ := .nil
  dump _ _ := []
  restore _ _ := (.ok (), fun _ => none)

section Sample

def emptyReplica : Parts (RedisBackend stringEngine) :=
  ⟨⟨fun _ => none, 0⟩, WriteDedup.new, DeliveredLog.default⟩

/-- A lock that expires after 100 milliseconds, and an attempt to take it. -/
def leaseA : WriteOp :=
  WriteOp.new 0 0 [asBytes "PSETEX", asBytes "lock", asBytes "100", asBytes "a"]

def takeB : WriteOp := WriteOp.new 1 0 [asBytes "SETNX", asBytes "lock", asBytes "b"]

def earlySteps : List TwoClocks := [⟨0, 5, leaseA⟩, ⟨50, 90, takeB⟩]

theorem earlySteps_undivided : Undivided earlySteps emptyReplica emptyReplica := by
  refine ⟨?_, ?_, True.intro⟩
  · intro fresh cmd parsed key member
    rfl
  · intro fresh cmd parsed key member
    cases parsed
    cases member.2
    rfl

theorem replicas_converge_undivided_lease :
    (emptyReplica.deliverAllAt TwoClocks.left earlySteps).1 =
      (emptyReplica.deliverAllAt TwoClocks.right earlySteps).1 :=
  (replicas_converge_undivided stringEngine emptyReplica earlySteps earlySteps_undivided).1

def lateSteps : List TwoClocks := [⟨0, 0, leaseA⟩, ⟨50, 150, takeB⟩]

/-- Both commands are broadcast verbatim.  The replicas answer the second one
differently, and when every deadline has passed one of them still holds the
key. -/
theorem skewed_replicas_diverge :
    classify "PSETEX" = .write ∧ classify "SETNX" = .write ∧
      leaseA.command.map Command.name = some "PSETEX" ∧
      takeB.command.map Command.name = some "SETNX" ∧
      (emptyReplica.deliverAllAt TwoClocks.left lateSteps).1 =
        [some .ok, some (.integer 0)] ∧
      (emptyReplica.deliverAllAt TwoClocks.right lateSteps).1 =
        [some .ok, some (.integer 1)] ∧
      (emptyReplica.deliverAllAt TwoClocks.left lateSteps).2.store.keyspace.seen 1000
        (asBytes "lock") = none ∧
      (emptyReplica.deliverAllAt TwoClocks.right lateSteps).2.store.keyspace.seen 1000
        (asBytes "lock") = some (asBytes "b", false) := by
  refine ⟨by decide, by decide, by decide, by decide, by rfl, by rfl, by rfl, by rfl⟩

end Sample

end TrainsValkey
