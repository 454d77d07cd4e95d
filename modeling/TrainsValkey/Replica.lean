import TrainsValkey.Classify
import TrainsValkey.Dedup
import TrainsValkey.DeliveredLog
import TrainsValkey.Effect
import TrainsValkey.Trains

/-
The replica: classify, broadcast, deduplicate, apply, log, and the state
transfer between replicas.

`Parts` is the store, the deduplication state and the delivered log, the three
pieces every apply path threads by reference.
-/

set_option autoImplicit false

namespace TrainsValkey

open Trains

structure Parts (σ : Type) where
  store : σ
  dedup : WriteDedup
  deliveredLog : DeliveredLog

/-! ### Applying one delivered effect -/

section Apply

variable {σ : Type} [RedisStore σ]

/-- `match op.command() { Some(cmd) => store.apply(&cmd), None => error }`,
which both apply paths spell out. -/
def WriteOp.applyTo (op : WriteOp) (store : σ) : Reply × σ :=
  match op.command with
  | some cmd => RedisStore.apply store cmd
  | none => (.error "ERR delivered write op had empty argv", store)

def applyDeliveredOpParts (op : WriteOp) (parts : Parts σ) : Option Reply × Parts σ :=
  let (fresh, dedup) := parts.dedup.firstSeen op.origin op.requestId
  if !fresh then (none, { parts with dedup })
  else
    let (applyReply, store) := op.applyTo parts.store
    (some (op.clientReply.getD applyReply),
      { store, dedup, deliveredLog := (parts.deliveredLog.append op).2 })

end Apply

/-! ### The replica -/

section Replica

variable [Trains]

/-- The reconfiguration view a snapshot carries for a promoting rejoiner. -/
structure ViewInfo where
  installedView : Nat
  dead : List ProcId

def snapshotVersion : Nat := 4

structure ReplicaSnapshot where
  version : Nat
  protocol : StateSnapshot
  store : Bytes
  dedup : WriteDedup
  deliveredIndex : Nat
  view : Option ViewInfo

structure Replica (σ : Type) extends Parts σ where
  id : ProcId
  core : Core
  nextRid : Nat

inductive ClientOutcome where
  | immediate (reply : Reply)
  | broadcast (requestId : Nat) (forward : List Train)

structure Applied where
  origin : ProcId
  requestId : Nat
  reply : Reply

structure Stepped where
  forward : List Train
  applied : List Applied

namespace Stepped

def empty : Stepped := { forward := [], applied := [] }

end Stepped

variable {σ : Type} [RedisStore σ]

namespace Replica

def new (id : ProcId) (mode : DeliveryMode) (store : σ) : Replica σ :=
  { id
    core := newNode id mode
    store
    nextRid := 0
    dedup := WriteDedup.new
    deliveredLog := DeliveredLog.default }

def exportSnapshot (r : Replica σ) : ReplicaSnapshot :=
  { version := snapshotVersion
    protocol := exportState r.core
    store := RedisStore.exportSnapshot r.store
    dedup := r.dedup
    deliveredIndex := r.deliveredLog.headIndex
    view := none }

/-- A version mismatch is only logged.  The core is replaced before the fallible
step, the store. -/
def importSnapshot (r : Replica σ) (snap : ReplicaSnapshot) :
    Except SnapshotError Unit × Replica σ :=
  let r := { r with core := importState r.core snap.protocol }
  match RedisStore.importSnapshot r.store snap.store with
  | (.error e, store) => (.error e, { r with store })
  | (.ok (), store) =>
      (.ok (),
        { r with
          store
          dedup := snap.dedup
          deliveredLog := DeliveredLog.resumedAt snap.deliveredIndex r.deliveredLog.cap })

def deliveredIndex (r : Replica σ) : Nat := r.deliveredLog.headIndex

def applyDeliveredOp (r : Replica σ) (op : WriteOp) : Option Applied × Replica σ :=
  let (reply, parts) := applyDeliveredOpParts op r.toParts
  (reply.map (fun reply => { origin := op.origin, requestId := op.requestId, reply }),
    { r with toParts := parts })

section Ring

variable [Bincode WriteOp]

/-- The inner loop of `absorb`; an undecodable payload is skipped. -/
def absorbPayloads : List Payload → Replica σ → Stepped → Stepped × Replica σ
  | [], r, stepped => (stepped, r)
  | p :: rest, r, stepped =>
      match (decodeFromSlice p.data : Except String WriteOp) with
      | .ok op =>
          let (applied, r) := r.applyDeliveredOp op
          absorbPayloads rest r
            { stepped with applied := stepped.applied ++ applied.toList }
      | .error _ => absorbPayloads rest r stepped

def absorbFrom : List NodeOutput → Replica σ → Stepped → Stepped × Replica σ
  | [], r, stepped => (stepped, r)
  | .forwardTrain t :: rest, r, stepped =>
      absorbFrom rest r { stepped with forward := stepped.forward ++ [t] }
  | .deliver payloads :: rest, r, stepped =>
      let (stepped, r) := absorbPayloads payloads r stepped
      absorbFrom rest r stepped
  | .declareCrash _ :: rest, r, stepped => absorbFrom rest r stepped

def absorb (r : Replica σ) (outs : List NodeOutput) : Stepped × Replica σ :=
  absorbFrom outs r Stepped.empty

/-- The request id is consumed only when the operation encodes. -/
def broadcastWrite (r : Replica σ) (argv : List Bytes) (clientReply : Option Reply) :
    ClientOutcome × Replica σ :=
  let requestId := r.nextRid
  let op := WriteOp.forRequest r.id requestId argv clientReply
  match Bincode.encodeToVec op with
  | .error e =>
      (.immediate (.error
        s!"ERR failed to encode write for replication: bincode encode: {e}"), r)
  | .ok bytes =>
      let (core, outs) := step r.core (.localBroadcast bytes)
      let (stepped, r) := absorb { r with nextRid := r.nextRid + 1, core } outs
      (.broadcast requestId stepped.forward, r)

def onTrain (r : Replica σ) (t : Train) : Stepped × Replica σ :=
  let (core, outs) := step r.core (.trainReceived t)
  absorb { r with core } outs

def tick (r : Replica σ) : Stepped × Replica σ :=
  let (core, outs) := step r.core .tick
  absorb { r with core } outs

variable [FloatArith]

def handle (r : Replica σ) (now : SystemTime) (cmd : Command) : ClientOutcome × Replica σ :=
  match classify cmd.name with
  | .read => (.immediate (RedisStore.query r.store now cmd), r)
  | .write => r.broadcastWrite cmd.argv none
  | .nonDeterministic =>
      match resolve now cmd r.store with
      | .immediate reply => (.immediate reply, r)
      | .broadcast argv clientReply => r.broadcastWrite argv (some clientReply)
  | .unsupported =>
      (.immediate (.error s!"ERR unknown command '{cmd.name}' (not in the replication table)"),
        r)

end Ring

end Replica

/-! ### State transfer -/

section Transfer

variable [AlwaysSerializable DeliveredEntry] [AlwaysSerializable ReplicaSnapshot]

/-- An empty `snapshot` means "apply the tail only". -/
structure StateTransfer where
  snapshot : Bytes
  tail : List Bytes

/-- `make_snapshot` runs only when the requester is not inside the retained
log. -/
def buildStateTransferLazy (have_ : Nat)
    (log : DeliveredLog) (makeSnapshot : Unit → ReplicaSnapshot) : StateTransfer :=
  if 0 < have_ ∧ log.lowWaterIndex ≤ have_ ∧ have_ ≤ log.headIndex then
    { snapshot := [], tail := (log.entriesFrom have_).map serialize }
  else
    let snap := makeSnapshot ()
    { snapshot := serialize snap
      tail := (log.entriesFrom snap.deliveredIndex).map serialize }

theorem buildStateTransferLazy_tail {have_ : Nat} {log : DeliveredLog}
    (makeSnapshot : Unit → ReplicaSnapshot)
    (inside : 0 < have_ ∧ log.lowWaterIndex ≤ have_ ∧ have_ ≤ log.headIndex) :
    buildStateTransferLazy have_ log makeSnapshot =
      { snapshot := [], tail := (log.entriesFrom have_).map serialize } := if_pos inside

theorem buildStateTransferLazy_full {have_ : Nat} {log : DeliveredLog}
    {makeSnapshot : Unit → ReplicaSnapshot}
    (atHead : (makeSnapshot ()).deliveredIndex = log.headIndex)
    (outside : ¬(0 < have_ ∧ log.lowWaterIndex ≤ have_ ∧ have_ ≤ log.headIndex)) :
    buildStateTransferLazy have_ log makeSnapshot =
      { snapshot := serialize (makeSnapshot ()), tail := [] } := by
  have nothing := log.entriesFrom_headIndex
  rw [← atHead] at nothing
  unfold buildStateTransferLazy
  rw [if_neg outside]
  simp only [nothing, List.map_nil]

namespace Replica

def buildStateTransfer (r : Replica σ) (have_ : Nat) : StateTransfer :=
  buildStateTransferLazy have_ r.deliveredLog (fun _ => r.exportSnapshot)

/-- The tail loop of `apply_state_transfer`: stops at the first frame that
does not decode. -/
def applyTail : List Bytes → Replica σ → Nat → Except SnapshotError Nat × Replica σ
  | [], r, applied => (.ok applied, r)
  | frame :: rest, r, applied =>
      match (decodeFromSlice frame : Except String DeliveredEntry) with
      | .error e => (.error { decode := e }, r)
      | .ok entry =>
          let (done, r) := r.applyDeliveredOp entry.op
          applyTail rest r (if done.isSome then applied + 1 else applied)

def applyStateTransfer (r : Replica σ) (xfer : StateTransfer) :
    Except SnapshotError Nat × Replica σ :=
  if xfer.snapshot.isEmpty then applyTail xfer.tail r 0
  else
    match (decodeFromSlice xfer.snapshot : Except String ReplicaSnapshot) with
    | .error e => (.error { decode := e }, r)
    | .ok snap =>
        match r.importSnapshot snap with
        | (.error e, r) => (.error e, r)
        | (.ok (), r) => applyTail xfer.tail r 0

end Replica

end Transfer

end Replica

end TrainsValkey
