import TrainsValkey.LoopbackRing
import TrainsValkey.Promotion

/-
What a replica records as applied when its store can fail.

The store is an engine behind a connection.  A round trip that fails answers an
error reply and has no effect, and both apply paths mark the operation as seen
and append it to the delivered log whatever the store answered.  So the record
counts what the engine executed exactly when no first delivery met a failure.
-/

set_option autoImplicit false

namespace TrainsValkey

open Trains

/-! ### A store behind a connection -/

inductive BackendFailure where
  | write (error : String)
  | read (error : String)

def BackendFailure.reply : BackendFailure → Reply
  | .write error => .error s!"ERR backend write failed: {error}"
  | .read error => .error s!"ERR backend read failed: {error}"

/-- Which round trips fail: the n-th apply, and a query that comes after n
applies. -/
structure Faults where
  onApply : Nat → Option BackendFailure
  onQuery : Nat → Command → Option BackendFailure

structure Remote (σ : Type) where
  engine : σ
  faults : Faults
  trips : Nat
  executed : List Command

section Remote

variable {σ : Type} [RedisStore σ]

def Remote.apply (remote : Remote σ) (cmd : Command) : Reply × Remote σ :=
  match remote.faults.onApply remote.trips with
  | some failure => (failure.reply, { remote with trips := remote.trips + 1 })
  | none =>
      let (reply, engine) := RedisStore.apply remote.engine cmd
      (reply,
        { remote with
          engine
          trips := remote.trips + 1
          executed := remote.executed ++ [cmd] })

instance : RedisStore (Remote σ) where
  apply := Remote.apply
  query remote now cmd :=
    match remote.faults.onQuery remote.trips cmd with
    | some failure => failure.reply
    | none => RedisStore.query remote.engine now cmd
  exportSnapshot remote := RedisStore.exportSnapshot remote.engine
  importSnapshot remote bytes :=
    let (done, engine) := RedisStore.importSnapshot remote.engine bytes
    (done, { remote with engine })

/-- The store executes the operation if it is applied now: it carries a command
and the round trip works. -/
def Remote.Executes (remote : Remote σ) (op : WriteOp) : Prop :=
  op.command ≠ none ∧ remote.faults.onApply remote.trips = none

instance (remote : Remote σ) (op : WriteOp) : Decidable (remote.Executes op) :=
  inferInstanceAs (Decidable (_ ∧ _))

theorem applyOp_executed {remote : Remote σ} {op : WriteOp} (executes : remote.Executes op) :
    ∃ cmd, op.command = some cmd ∧ (applyOp remote op).executed = remote.executed ++ [cmd] := by
  obtain ⟨carries, works⟩ := executes
  unfold applyOp WriteOp.applyTo
  cases parsed : op.command with
  | none => exact absurd parsed carries
  | some cmd =>
      refine ⟨cmd, rfl, ?_⟩
      change (remote.apply cmd).2.executed = _
      unfold Remote.apply
      rw [works]

theorem applyOp_skipped {remote : Remote σ} {op : WriteOp} (fails : ¬remote.Executes op) :
    (applyOp remote op).executed = remote.executed ∧
      (applyOp remote op).engine = remote.engine := by
  unfold applyOp WriteOp.applyTo
  cases parsed : op.command with
  | none => exact ⟨rfl, rfl⟩
  | some cmd =>
      change (remote.apply cmd).2.executed = _ ∧ (remote.apply cmd).2.engine = _
      unfold Remote.apply
      cases failed : remote.faults.onApply remote.trips with
      | some failure => exact ⟨rfl, rfl⟩
      | none =>
          have carries : op.command ≠ none := by
            rw [parsed]
            exact Option.some_ne_none cmd
          exact absurd ⟨carries, failed⟩ fails

end Remote

/-! ### What a stream leaves behind -/

section Record

variable {σ : Type} [RedisStore σ]

/-- The operations of a stream that pass deduplication, in order. -/
def Parts.firsts (parts : Parts σ) : List WriteOp → List WriteOp
  | [] => []
  | op :: rest =>
      if parts.dedup.isDup op.origin op.requestId then (parts.deliver op).firsts rest
      else op :: (parts.deliver op).firsts rest

theorem Parts.firsts_dup {parts : Parts σ} {op : WriteOp} (rest : List WriteOp)
    (dup : parts.dedup.isDup op.origin op.requestId = true) :
    parts.firsts (op :: rest) = parts.firsts rest := by
  rw [Parts.firsts, if_pos dup, Parts.deliver_dup dup]

theorem Parts.firsts_fresh {parts : Parts σ} {op : WriteOp} (rest : List WriteOp)
    (fresh : parts.dedup.isDup op.origin op.requestId = false) :
    parts.firsts (op :: rest) = op :: (parts.deliver op).firsts rest := by
  rw [Parts.firsts, fresh]
  rfl

theorem Parts.deliver_headIndex {parts : Parts σ} {op : WriteOp}
    (fresh : parts.dedup.isDup op.origin op.requestId = false) :
    (parts.deliver op).deliveredLog.headIndex = parts.deliveredLog.headIndex + 1 := by
  rw [Parts.deliver_fresh fresh]
  rfl

theorem Parts.deliverAll_headIndex (parts : Parts σ) (stream : List WriteOp) :
    (parts.deliverAll stream).deliveredLog.headIndex =
      parts.deliveredLog.headIndex + (parts.firsts stream).length := by
  induction stream generalizing parts with
  | nil => rfl
  | cons op rest ih =>
      change ((parts.deliver op).deliverAll rest).deliveredLog.headIndex = _
      rw [ih]
      cases dup : parts.dedup.isDup op.origin op.requestId with
      | true => rw [Parts.firsts_dup rest dup, Parts.deliver_dup dup]
      | false =>
          rw [Parts.firsts_fresh rest dup, Parts.deliver_headIndex dup, List.length_cons]
          omega

theorem Parts.first_of_mem {parts : Parts σ} {stream : List WriteOp} {op : WriteOp}
    (member : op ∈ stream) (fresh : parts.dedup.isDup op.origin op.requestId = false) :
    ∃ first ∈ parts.firsts stream, first.ident = op.ident := by
  induction stream generalizing parts with
  | nil => cases member
  | cons head rest ih =>
      cases dup : parts.dedup.isDup head.origin head.requestId with
      | true =>
          rw [Parts.firsts_dup rest dup]
          rcases List.mem_cons.mp member with same | later
          · rw [same, dup] at fresh
            cases fresh
          · exact ih later fresh
      | false =>
          rw [Parts.firsts_fresh rest dup]
          by_cases same : head.ident = op.ident
          · exact ⟨head, List.mem_cons_self, same⟩
          · rcases List.mem_cons.mp member with here | later
            · exact absurd (congrArg WriteOp.ident here.symm) same
            · have still : (parts.deliver head).dedup.isDup op.origin op.requestId = false := by
                rw [Bool.eq_false_iff, ne_eq, Parts.deliver_isDup, not_or, fresh]
                exact ⟨fun equal => same equal.symm, Bool.false_ne_true⟩
              obtain ⟨first, found, identified⟩ := ih later still
              exact ⟨first, List.mem_cons_of_mem _ found, identified⟩

theorem Parts.logged_before {parts : Parts σ} {stream : List WriteOp} {entry : DeliveredEntry}
    (member : entry ∈ (parts.deliverAll stream).deliveredLog.entries)
    (below : entry.index < parts.deliveredLog.headIndex) :
    entry ∈ parts.deliveredLog.entries := by
  induction stream generalizing parts with
  | nil => exact member
  | cons op rest ih =>
      change entry ∈ ((parts.deliver op).deliverAll rest).deliveredLog.entries at member
      cases dup : parts.dedup.isDup op.origin op.requestId with
      | true =>
          rw [Parts.deliver_dup dup] at member
          exact ih member below
      | false =>
          have moved := Parts.deliver_headIndex dup
          have earlier := ih member (by omega)
          rw [Parts.deliver_fresh dup] at earlier
          rcases DeliveredLog.mem_append earlier with old | new
          · exact old
          · rw [new] at below
            exact absurd below (Nat.lt_irrefl _)

theorem Parts.logged_since {parts : Parts σ} {stream : List WriteOp} {entry : DeliveredEntry}
    (member : entry ∈ (parts.deliverAll stream).deliveredLog.entries)
    (since : parts.deliveredLog.headIndex ≤ entry.index) : entry.op ∈ parts.firsts stream := by
  induction stream generalizing parts with
  | nil =>
      have below := (parts.deliveredLog.numbered.index_mem member).2
      omega
  | cons op rest ih =>
      change entry ∈ ((parts.deliver op).deliverAll rest).deliveredLog.entries at member
      cases dup : parts.dedup.isDup op.origin op.requestId with
      | true =>
          rw [Parts.deliver_dup dup] at member
          rw [Parts.firsts_dup rest dup]
          exact ih member since
      | false =>
          rw [Parts.firsts_fresh rest dup]
          have moved := Parts.deliver_headIndex dup
          by_cases later : (parts.deliver op).deliveredLog.headIndex ≤ entry.index
          · exact List.mem_cons_of_mem _ (ih member later)
          · -- the entry at the old head is the one this delivery appended
            have appended := Parts.logged_before member (by omega)
            rw [Parts.deliver_fresh dup] at appended
            rcases DeliveredLog.mem_append appended with old | new
            · have below := (parts.deliveredLog.numbered.index_mem old).2
              omega
            · rw [new]
              exact List.mem_cons_self

end Record

/-! ### What the store executed of it -/

section Executed

variable {σ : Type} [RedisStore σ]

def Parts.ran (parts : Parts (Remote σ)) : List WriteOp → List WriteOp
  | [] => []
  | op :: rest =>
      if parts.dedup.isDup op.origin op.requestId = false ∧ parts.store.Executes op then
        op :: (parts.deliver op).ran rest
      else (parts.deliver op).ran rest

/-- Every first delivery meets a working round trip. -/
def Uninterrupted : List WriteOp → Parts (Remote σ) → Prop
  | [], _ => True
  | op :: rest, parts =>
      (parts.dedup.isDup op.origin op.requestId = false → parts.store.Executes op) ∧
        Uninterrupted rest (parts.deliver op)

section Cases

variable {parts : Parts (Remote σ)} {op : WriteOp} (rest : List WriteOp)

theorem Parts.ran_dup (dup : parts.dedup.isDup op.origin op.requestId = true) :
    parts.ran (op :: rest) = parts.ran rest := by
  rw [Parts.ran, if_neg, Parts.deliver_dup dup]
  rw [dup]
  exact fun both => Bool.noConfusion both.1

theorem Parts.ran_executes (fresh : parts.dedup.isDup op.origin op.requestId = false)
    (executes : parts.store.Executes op) :
    parts.ran (op :: rest) = op :: (parts.deliver op).ran rest := by
  rw [Parts.ran, if_pos ⟨fresh, executes⟩]

theorem Parts.ran_skips (fails : ¬parts.store.Executes op) :
    parts.ran (op :: rest) = (parts.deliver op).ran rest := by
  rw [Parts.ran, if_neg (fun both => fails both.2)]

end Cases

theorem Parts.deliverAll_executed (parts : Parts (Remote σ)) (stream : List WriteOp) :
    (parts.deliverAll stream).store.executed.length =
      parts.store.executed.length + (parts.ran stream).length := by
  induction stream generalizing parts with
  | nil => rfl
  | cons op rest ih =>
      change ((parts.deliver op).deliverAll rest).store.executed.length = _
      rw [ih]
      cases dup : parts.dedup.isDup op.origin op.requestId with
      | true => rw [Parts.ran_dup rest dup, Parts.deliver_dup dup]
      | false =>
          have stored : (parts.deliver op).store = applyOp parts.store op := by
            rw [Parts.deliver_fresh dup]
          by_cases executes : parts.store.Executes op
          · obtain ⟨cmd, _, executed⟩ := applyOp_executed executes
            rw [Parts.ran_executes rest dup executes, stored, executed, List.length_append,
              List.length_singleton, List.length_cons]
            omega
          · rw [Parts.ran_skips rest executes, stored, (applyOp_skipped executes).1]

theorem Uninterrupted.ran_eq {parts : Parts (Remote σ)} {stream : List WriteOp}
    (uninterrupted : Uninterrupted stream parts) : parts.ran stream = parts.firsts stream := by
  induction stream generalizing parts with
  | nil => rfl
  | cons op rest ih =>
      obtain ⟨here, later⟩ := uninterrupted
      cases dup : parts.dedup.isDup op.origin op.requestId with
      | true =>
          rw [Parts.deliver_dup dup] at later
          rw [Parts.ran_dup rest dup, Parts.firsts_dup rest dup]
          exact ih later
      | false =>
          rw [Parts.ran_executes rest dup (here dup), Parts.firsts_fresh rest dup, ih later]

theorem Parts.ran_length (parts : Parts (Remote σ)) (stream : List WriteOp) :
    (parts.ran stream).length ≤ (parts.firsts stream).length ∧
      ((parts.ran stream).length = (parts.firsts stream).length →
        Uninterrupted stream parts) := by
  induction stream generalizing parts with
  | nil => exact ⟨Nat.le_refl _, fun _ => True.intro⟩
  | cons op rest ih =>
      obtain ⟨bounded, whole⟩ := ih (parts.deliver op)
      cases dup : parts.dedup.isDup op.origin op.requestId with
      | true =>
          rw [Parts.ran_dup rest dup, Parts.firsts_dup rest dup]
          rw [Parts.deliver_dup dup] at bounded whole
          refine ⟨bounded, fun same => ⟨?_, ?_⟩⟩
          · intro fresh
            rw [dup] at fresh
            cases fresh
          · rw [Parts.deliver_dup dup]
            exact whole same
      | false =>
          rw [Parts.firsts_fresh rest dup, List.length_cons]
          by_cases executes : parts.store.Executes op
          · rw [Parts.ran_executes rest dup executes, List.length_cons]
            refine ⟨by omega, fun same => ⟨fun _ => executes, whole (by omega)⟩⟩
          · rw [Parts.ran_skips rest executes]
            refine ⟨by omega, fun same => ?_⟩
            omega

/-- What the pieces record since `start` is what their store executed since. -/
structure RecordedIsExecuted (start : Parts (Remote σ)) (stream : List WriteOp)
    (reached : Parts (Remote σ)) : Prop where
  marked : ∀ op ∈ stream, start.dedup.isDup op.origin op.requestId = false →
    ∃ first ∈ start.ran stream, first.ident = op.ident
  logged : ∀ entry ∈ reached.deliveredLog.entries,
    start.deliveredLog.headIndex ≤ entry.index → entry.op ∈ start.ran stream
  counted : reached.deliveredLog.headIndex + start.store.executed.length =
    start.deliveredLog.headIndex + reached.store.executed.length

theorem recordedIsExecuted_iff (start : Parts (Remote σ)) (stream : List WriteOp) :
    RecordedIsExecuted start stream (start.deliverAll stream) ↔ Uninterrupted stream start := by
  constructor
  · intro recorded
    have counted := recorded.counted
    rw [Parts.deliverAll_headIndex, Parts.deliverAll_executed] at counted
    exact (start.ran_length stream).2 (by omega)
  · intro uninterrupted
    have same := uninterrupted.ran_eq
    constructor
    · intro op member fresh
      rw [same]
      exact Parts.first_of_mem member fresh
    · intro entry member since
      rw [same]
      exact Parts.logged_since member since
    · rw [Parts.deliverAll_headIndex, Parts.deliverAll_executed, same]
      omega

end Executed

/-! ### Both apply paths -/

section Paths

variable [Trains] [Bincode WriteOp] [FloatArith] [AlwaysSerializable DeliveredEntry]
  [AlwaysSerializable ReplicaSnapshot] {σ : Type} [RedisStore σ]

def startParts (store : Remote σ) : Option PromoteSeed → Parts (Remote σ)
  | some seed => ⟨store, seed.dedup, seed.deliveredLog⟩
  | none => ⟨store, WriteDedup.new, DeliveredLog.default⟩

theorem driverLoop_parts (cfg : DriverCfg) (store : Remote σ) (promote : Option PromoteSeed)
    (inputs : List DriverInput) :
    (driverLoop cfg store promote inputs).1.toParts =
      (startParts store promote).deliverAll
        (deliveredIn (driverLoop cfg store promote inputs).2) := by
  apply (deliveringProperty cfg.id (startParts store promote)).driverLoop
    (handleWriteRequest_delivering _ cfg.id)
  cases promote <;> rfl

/-- Through either apply path, what a replica records as applied is what its
store executed exactly when no first delivery met a failing round trip. -/
theorem recorded_executed_iff :
    (∀ (start : Parts (Remote σ)) (stream : List WriteOp),
      RecordedIsExecuted start stream (start.deliverAll stream) ↔ Uninterrupted stream start) ∧
    ∀ (cfg : DriverCfg) (store : Remote σ) (promote : Option PromoteSeed)
      (inputs : List DriverInput),
      RecordedIsExecuted (startParts store promote)
          (deliveredIn (driverLoop cfg store promote inputs).2)
          (driverLoop cfg store promote inputs).1.toParts ↔
        Uninterrupted (deliveredIn (driverLoop cfg store promote inputs).2)
          (startParts store promote) := by
  refine ⟨recordedIsExecuted_iff, ?_⟩
  intro cfg store promote inputs
  rw [driverLoop_parts]
  exact recordedIsExecuted_iff _ _

end Paths

/-! ### One transient failure -/

section Sample

open scoped LoopbackRing

def resetOnce : Remote MemStore :=
  { engine := MemStore.new
    faults :=
      { onApply := fun trip =>
          if trip = 0 then some (.read "Connection reset by peer (os error 104)") else none
        onQuery := fun _ _ => none }
    trips := 0
    executed := [] }

def lostWrite : WriteOp := WriteOp.new 1 0 (LoopbackRing.set "k" "v")

def beforeLoss : Parts (Remote MemStore) := ⟨resetOnce, WriteDedup.new, DeliveredLog.default⟩

/-- The write is marked, logged and counted, the engine never executed it, and
no number of re-deliveries brings it back. -/
theorem failed_write_recorded :
    (beforeLoss.deliver lostWrite).dedup.isDup 1 0 = true ∧
      (beforeLoss.deliver lostWrite).deliveredLog.entries = [⟨0, lostWrite⟩] ∧
      (beforeLoss.deliver lostWrite).deliveredLog.headIndex = 1 ∧
      (beforeLoss.deliver lostWrite).store.executed = [] ∧
      (beforeLoss.deliver lostWrite).store.engine = MemStore.new ∧
      (∀ count, (beforeLoss.deliver lostWrite).deliverAll (List.replicate count lostWrite) =
        beforeLoss.deliver lostWrite) ∧
      ¬RecordedIsExecuted beforeLoss [lostWrite] (beforeLoss.deliverAll [lostWrite]) := by
  have marked : (beforeLoss.deliver lostWrite).dedup.isDup 1 0 = true := by decide
  refine ⟨marked, by rfl, by rfl, by rfl, by rfl, ?_, ?_⟩
  · intro count
    induction count with
    | zero => rfl
    | succ count ih =>
        rw [List.replicate_succ]
        change ((beforeLoss.deliver lostWrite).deliver lostWrite).deliverAll
          (List.replicate count lostWrite) = _
        rw [Parts.deliver_dup marked, ih]
  · intro recorded
    have counted := recorded.counted
    revert counted
    decide

end Sample

end TrainsValkey
