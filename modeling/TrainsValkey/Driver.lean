import TrainsValkey.Library.Action
import TrainsValkey.Passive

/-
The proxy's driver: one task that owns the ordering kernel, broadcasts client
writes, applies the delivered stream, and masks crashes through the view
change.

A helper of the source that takes the driver state and the transport is an
action here: it returns the next state and the events it caused, in order.
What the driver's channels bring is the input of `driverStep`; the inputs that
end the task (a closed channel, a simulated crash) end the run.
-/

set_option autoImplicit false

namespace TrainsValkey

open Std (ExtTreeMap ExtTreeSet)
open Trains
open Library (Action)

/-! ### Configuration, state and events -/

structure SocketAddr where
  ip : Nat
  port : Nat
deriving DecidableEq

/-- A `oneshot::Sender<Reply>`: which client waits at the other end. -/
abbrev Sender := Nat

structure WriteRequest where
  now : SystemTime
  argv : List Bytes
  reply : Sender

inductive WriteAction where
  | immediate (reply : Reply)
  | broadcast (argv : List Bytes) (clientReply : Option Reply)

def strikeThreshold : Nat := 3

def disconnectWeight : Nat := strikeThreshold

section Driver

variable [Trains]

/-- The driver's configuration. `run_proxy_node` checks the length of `ring_addrs`
before it starts the driver; that the node is a member of the ring is its caller's. -/
structure DriverCfg where
  id : ProcId
  mode : DeliveryMode
  issueInitial : Bool
  ringAddrs : List SocketAddr
  idInRing : id < ringSize
  wholeRing : ringAddrs = [] ∨ ringAddrs.length = ringSize

namespace DriverCfg

def reconfig (cfg : DriverCfg) : Bool := !cfg.ringAddrs.isEmpty

def n (cfg : DriverCfg) : Nat := if cfg.reconfig then cfg.ringAddrs.length else ringSize

theorem n_eq (cfg : DriverCfg) : cfg.n = ringSize := by
  unfold n reconfig
  rcases cfg.wholeRing with empty | whole
  · rw [empty]
    rfl
  · have positive := ringSizePositive
    cases addrs : cfg.ringAddrs with
    | nil =>
        rw [addrs, List.length_nil] at whole
        omega
    | cons addr rest =>
        rw [addrs] at whole
        simpa using whole

theorem id_lt_n (cfg : DriverCfg) : cfg.id < cfg.n := by
  rw [cfg.n_eq]
  exact cfg.idInRing

end DriverCfg

/-- The driver's `store`, `applied_ops` and `delivered_log` are its `Parts`. -/
structure DriverState (σ : Type) extends Parts σ where
  core : Core
  pending : ExtTreeMap Nat Sender
  nextRid : Nat
  detector : Detector
  vc : ViewChange
  dead : ExtTreeSet Nat
  succ : Nat

/-- What happens at the driver's boundary: requests come in, operations go to
the kernel, come back from it and run on the store; replies, trains, tokens and
transfers go out, and the transport is pointed at another successor. -/
inductive Event where
  | request (client : Sender)
  | broadcast (op : WriteOp) (client : Sender)
  | delivered (op : WriteOp)
  | applied (op : WriteOp) (reply : Reply)
  | answer (client : Sender) (reply : Reply)
  | forward (train : Train)
  | token (msg : Token)
  | retarget (addr : SocketAddr)
  | transfer (xfer : StateTransfer)

inductive DriverInput where
  | request (req : WriteRequest)
  | train (train : Train)
  | token (msg : Token)
  | unreachable (addr : SocketAddr)
  | tick
  | snapshotRequest (have_ : Nat)
  | confirmCrash (victim : ProcId)

variable {σ : Type} [RedisStore σ]

/-! ### Deliveries -/

/-- The body of the payload loop of `pump_outputs`, after decoding. -/
def deliverOp (id : ProcId) (op : WriteOp) : Action (DriverState σ) Event := fun st =>
  let (fresh, dedup) := st.dedup.firstSeen op.origin op.requestId
  if !fresh then ({ st with dedup }, [.delivered op])
  else
    let (applyReply, store) := op.applyTo st.store
    let st := { st with store, dedup, deliveredLog := (st.deliveredLog.append op).2 }
    if op.origin = id then
      match st.pending[op.requestId]? with
      | some tx =>
          ({ st with pending := st.pending.erase op.requestId },
            [.delivered op, .applied op applyReply,
              .answer tx (op.clientReply.getD applyReply)])
      | none => (st, [.delivered op, .applied op applyReply])
    else (st, [.delivered op, .applied op applyReply])

section Pump

variable [Bincode WriteOp]

def pumpPayloads (id : ProcId) : List Payload → Action (DriverState σ) Event
  | [] => fun st => (st, [])
  | p :: rest =>
      match (decodeFromSlice p.data : Except String WriteOp) with
      | .ok op => (deliverOp id op).andThen (pumpPayloads id rest)
      | .error _ => pumpPayloads id rest

def pumpOutputs (id : ProcId) : List NodeOutput → Action (DriverState σ) Event
  | [] => fun st => (st, [])
  | .forwardTrain t :: rest => fun st =>
      let (st, later) := pumpOutputs id rest st
      (st, .forward t :: later)
  | .deliver payloads :: rest => (pumpPayloads id payloads).andThen (pumpOutputs id rest)
  | .declareCrash _ :: rest => pumpOutputs id rest

/-- The vector `pump_outputs` returns. -/
def crashHints (outs : List NodeOutput) : List ProcId :=
  outs.filterMap (fun out =>
    match out with
    | .declareCrash victim => some victim
    | _ => none)

/-- `st.core.step(input)` and the pump over what it put out. -/
def stepAndPump (id : ProcId) (input : Input Train) : Action (DriverState σ) Event := fun st =>
  let (core, outs) := step st.core input
  pumpOutputs id outs { st with core }

/-! ### Client writes -/

variable [FloatArith]

def writeAction (req : WriteRequest) (store : σ) : WriteAction :=
  match Command.parse req.argv with
  | some cmd =>
      match classify cmd.name with
      | .write => .broadcast req.argv none
      | .nonDeterministic =>
          match resolve req.now cmd store with
          | .immediate r => .immediate r
          | .broadcast argv clientReply => .broadcast argv (some clientReply)
      | _ => .immediate (.error "ERR command is not replicable as a write")
  | none => .immediate (.error "ERR empty command")

/-- The request id is consumed only when the operation encodes.  The pump's
crash hints are ignored here. -/
def handleWriteRequest (id : ProcId) (req : WriteRequest) : Action (DriverState σ) Event :=
  fun st =>
    match writeAction req st.store with
    | .immediate reply => (st, [.request req.reply, .answer req.reply reply])
    | .broadcast argv clientReply =>
        let requestId := st.nextRid
        let op := WriteOp.forRequest id requestId argv clientReply
        match Bincode.encodeToVec op with
        | .ok bytes =>
            let (st, later) := stepAndPump id (.localBroadcast bytes)
              { st with
                nextRid := st.nextRid + 1
                pending := st.pending.insert requestId req.reply }
            (st, .request req.reply :: .broadcast op req.reply :: later)
        | .error e =>
            (st, [.request req.reply, .answer req.reply (.error
              s!"ERR failed to encode write for replication: bincode encode: {e}")])

end Pump

/-! ### Membership -/

/-- The loop of `next_alive`.  Every turn moves one position round the ring, so
`n` turns meet every position. -/
def nextAliveFrom (me n : Nat) (dead : ExtTreeSet Nat) : Nat → Nat → Nat
  | 0, j => j
  | turns + 1, j =>
      if dead.contains j && j != me then nextAliveFrom me n dead turns ((j + 1) % n) else j

def nextAlive (me n : Nat) (dead : ExtTreeSet Nat) : Nat :=
  nextAliveFrom me n dead n ((me + 1) % n)

/-- The last lines of `exclude` and `readmit`.  The new successor is an index
into the ring's addresses. -/
def retargetSuccessor (cfg : DriverCfg) : Action (DriverState σ) Event := fun st =>
  let ns := nextAlive cfg.id cfg.n st.dead
  if ns ≠ st.succ then
    ({ st with succ := ns }, (cfg.ringAddrs[ns]?).toList.map .retarget)
  else (st, [])

def exclude (cfg : DriverCfg) (victim : Nat) : Action (DriverState σ) Event := fun st =>
  if st.dead.contains victim then (st, [])
  else
    retargetSuccessor cfg
      { st with
        dead := st.dead.insert victim
        core := confirmCrash (setFrozen st.core true) victim }

def readmit (cfg : DriverCfg) (rejoiner : Nat) : Action (DriverState σ) Event := fun st =>
  if !st.dead.contains rejoiner then (st, [])
  else
    retargetSuccessor cfg
      { st with
        dead := st.dead.erase rejoiner
        core := readmitNode (setFrozen st.core true) rejoiner }

section ViewChanges

variable [Bincode WriteOp]

def reissue (cfg : DriverCfg) : Action (DriverState σ) Event := fun st =>
  if cfg.id < numTrains then
    let (core, t) := reissueTrain st.core
    ({ st with core }, [.forward t])
  else (st, [])

def applyPlan (cfg : DriverCfg) (plan : RecoveryPlan) : Action (DriverState σ) Event :=
  Action.andThen
    (fun st =>
      let (core, outs) := applyRecovery st.core plan
      pumpOutputs cfg.id outs { st with core })
    (reissue cfg)

def execute (cfg : DriverCfg) : List TokenAction → Action (DriverState σ) Event
  | [] => fun st => (st, [])
  | .send msg :: rest => fun st =>
      let (st, later) := execute cfg rest st
      (st, .token msg :: later)
  | .apply plan :: rest => (applyPlan cfg plan).andThen (execute cfg rest)

/-- Run the view-change state machine on a fresh report and execute what it
answers, the end of every membership handler. -/
def runViewChange (cfg : DriverCfg)
    (machine : DriverState σ → ViewChange × List TokenAction) : Action (DriverState σ) Event :=
  fun st =>
    let (vc, actions) := machine st
    execute cfg actions { st with vc }

def handleCrashConfirmed (cfg : DriverCfg) (confirmed : ProcId) :
    Action (DriverState σ) Event :=
  (exclude cfg confirmed).andThen
    (runViewChange cfg (fun st => onConfirm st.vc confirmed (recoveryReport st.core)))

def processHints (cfg : DriverCfg) : List ProcId → Action (DriverState σ) Event
  | [] => fun st => (st, [])
  | victim :: rest => fun st =>
      if isConfirmed st.detector victim then processHints cfg rest st
      else
        match recordGapHint st.detector victim with
        | (detector, none) => processHints cfg rest { st with detector }
        | (detector, some confirmed) =>
            if cfg.reconfig then
              ((handleCrashConfirmed cfg confirmed).andThen (processHints cfg rest))
                { st with detector }
            else
              processHints cfg rest
                { st with detector, core := confirmCrash st.core confirmed }

def readmitToken (msg : Token) (st : DriverState σ) : ViewChange × List TokenAction :=
  match msg with
  | .reAdmitGather _ _ => onReadmitGather st.vc msg (recoveryReport st.core)
  | .reAdmitInstall _ _ => onReadmitInstall st.vc msg
  | _ => (st.vc, [])

def excludeToken (msg : Token) (st : DriverState σ) : ViewChange × List TokenAction :=
  match msg with
  | .gather _ _ => onGather st.vc msg (recoveryReport st.core)
  | .install _ _ => onInstall st.vc msg
  | _ => (st.vc, [])

def handleVc (cfg : DriverCfg) (msg : Token) : Action (DriverState σ) Event :=
  match msg.rejoiner, msg.victim with
  | some rejoiner, _ =>
      readmit cfg rejoiner |>.andThen (runViewChange cfg (readmitToken msg))
  | none, some victim =>
      (exclude cfg victim).andThen (runViewChange cfg (excludeToken msg))
  | none, none => fun st => (st, [])

end ViewChanges

/-! ### Serving state transfers -/

section Serve

variable [AlwaysSerializable DeliveredEntry] [AlwaysSerializable ReplicaSnapshot]

def DriverState.exportSnapshot (st : DriverState σ) : ReplicaSnapshot :=
  { version := snapshotVersion
    protocol := exportState st.core
    store := RedisStore.exportSnapshot st.store
    dedup := st.dedup
    deliveredIndex := st.deliveredLog.headIndex
    view := some { installedView := installedView st.vc, dead := st.dead.toList } }

def DriverState.serveStateTransfer (st : DriverState σ) (have_ : Nat) : StateTransfer :=
  buildStateTransferLazy have_ st.deliveredLog (fun _ => st.exportSnapshot)

end Serve

/-! ### Starting the driver -/

def DriverState.coldStart (cfg : DriverCfg) (store : σ) : DriverState σ :=
  { core := newNode cfg.id cfg.mode
    store
    pending := ∅
    nextRid := 0
    dedup := WriteDedup.new
    deliveredLog := DeliveredLog.default
    detector := newDetector strikeThreshold disconnectWeight
    vc := newViewChange cfg.id cfg.n
    dead := ∅
    succ := (cfg.id + 1) % cfg.n }

def PromoteSeed.deadOthers (seed : PromoteSeed) (id : ProcId) : List ProcId :=
  seed.view.dead.filter (fun d => d != id)

/-- The `if let Some(seed) = promote` block of `driver_loop`. -/
def DriverState.promote (cfg : DriverCfg) (seed : PromoteSeed) (st : DriverState σ) :
    DriverState σ :=
  let deadOthers : ExtTreeSet Nat := .ofList (seed.deadOthers cfg.id)
  { st with
    dedup := seed.dedup
    deliveredLog := seed.deliveredLog
    core := readmitNode (importState st.core seed.protocol) cfg.id
    vc := adoptView st.vc seed.view.installedView (seed.deadOthers cfg.id)
    succ := nextAlive cfg.id cfg.n deadOthers
    dead := deadOthers }

section Loop

variable [Bincode WriteOp]

/-- The part of `driver_loop` before the loop. -/
def driverInit (cfg : DriverCfg) (store : σ) (promote : Option PromoteSeed) :
    DriverState σ × List Event :=
  let st := DriverState.coldStart cfg store
  match promote with
  | some seed =>
      runViewChange cfg (fun st => onRequestReadmit st.vc (recoveryReport st.core))
        (st.promote cfg seed)
  | none =>
      if cfg.issueInitial then
        let (core, t) := issueInitialTrain st.core
        ({ st with core }, [.forward t])
      else (st, [])

variable [FloatArith] [AlwaysSerializable DeliveredEntry] [AlwaysSerializable ReplicaSnapshot]

def onInput (cfg : DriverCfg) (input : Input Train) : Action (DriverState σ) Event := fun st =>
  ((stepAndPump cfg.id input).andThen
    (processHints cfg (crashHints (step st.core input).2))) st

/-- One turn of the `select!` loop. -/
def driverStep (cfg : DriverCfg) : DriverInput → Action (DriverState σ) Event
  | .request req => handleWriteRequest cfg.id req
  | .train t => fun st =>
      onInput cfg (.trainReceived t) { st with detector := noteAlive st.detector (issuer t) }
  | .token msg => if cfg.reconfig then handleVc cfg msg else fun st => (st, [])
  | .unreachable addr => fun st =>
      match cfg.reconfig, cfg.ringAddrs.findIdx? (fun a => a = addr) with
      | true, some victim =>
          if st.dead.contains victim then (st, [])
          else
            match recordDisconnect st.detector victim with
            | (detector, some confirmed) =>
                handleCrashConfirmed cfg confirmed { st with detector }
            | (detector, none) => ({ st with detector }, [])
      | _, _ => (st, [])
  | .tick => onInput cfg .tick
  | .snapshotRequest have_ => fun st => (st, [.transfer (st.serveStateTransfer have_)])
  | .confirmCrash victim =>
      if cfg.reconfig then handleCrashConfirmed cfg victim else fun st => (st, [])

def driver (cfg : DriverCfg) : Library.Machine (DriverState σ) DriverInput Event where
  step st input := driverStep cfg input st

/-- A driver task from its start to the end of a run: the state it reached and
everything it did. -/
def driverLoop (cfg : DriverCfg) (store : σ) (promote : Option PromoteSeed)
    (inputs : List DriverInput) : DriverState σ × List Event :=
  let started := driverInit cfg store promote
  let reached := (driver cfg).run started.1 inputs
  (reached.1, started.2 ++ reached.2)

end Loop

end Driver

end TrainsValkey
