import TrainsValkey.Driver
import TrainsValkey.WireFormat

/-
A small ordering kernel on a ring of three nodes.

A train carries payloads.  A node that receives one delivers what it carries
and forwards it loaded with its own queued broadcasts; a view-change token is
passed on, and an install token carries the payloads its plan delivers.  The
closed statements about runs use this kernel, the wire format and whole-valued
floats; every general result is over any kernel.
-/

set_option autoImplicit false

namespace TrainsValkey

namespace LoopbackRing

structure LoopTrain where
  issuer : ProcId
  payloads : List Payload

structure Node where
  clock : Nat
  queue : List Payload

def stepNode (node : Node) : Input LoopTrain → Node × List (Output LoopTrain)
  | .localBroadcast bytes => ({ node with queue := node.queue ++ [{ data := bytes }] }, [])
  | .trainReceived train =>
      ({ clock := node.clock + 1, queue := [] },
        [.deliver train.payloads, .forwardTrain { train with payloads := node.queue }])
  | .tick => (node, [])

structure View where
  id : ProcId
  installed : Nat

abbrev Actions := List (VcAction (List Payload) (List Payload))

def View.pass (view : View) (msg : ViewChangeMsg (List Payload)) : View × Actions :=
  (view, [.send msg])

def View.install (view : View) (msg : ViewChangeMsg (List Payload)) : View × Actions :=
  match msg with
  | .install _ plan => ({ view with installed := view.installed + 1 }, [.apply plan])
  | .reAdmitInstall _ plan => ({ view with installed := view.installed + 1 }, [.apply plan])
  | _ => (view, [])

def confirm (confirmed : List ProcId) (victim : ProcId) : List ProcId × Option ProcId :=
  if victim ∈ confirmed then (confirmed, none) else (victim :: confirmed, some victim)

abbrev trains : Trains where
  Train := LoopTrain
  Core := Node
  StateSnapshot := Nat
  RecoveryReport := Unit
  RecoveryPlan := List Payload
  Detector := List ProcId
  ViewChange := View
  TokenBody := List Payload
  ringSize := 3
  numTrains := 1
  ringSizePositive := by decide
  issuer := LoopTrain.issuer
  newNode _ _ := { clock := 0, queue := [] }
  step := stepNode
  exportState := Node.clock
  importState node clock := { node with clock }
  issueInitialTrain node := (node, { issuer := 0, payloads := [] })
  reissueTrain node := (node, { issuer := 0, payloads := [] })
  readmitNode node _ := node
  confirmCrash node _ := node
  setFrozen node _ := node
  recoveryReport _ := ()
  applyRecovery node plan := (node, [.deliver plan])
  newDetector _ _ := []
  noteAlive confirmed alive := confirmed.erase alive
  isConfirmed confirmed victim := confirmed.contains victim
  recordGapHint := confirm
  recordDisconnect := confirm
  newViewChange id _ := { id, installed := 0 }
  adoptView view installed _ := { view with installed }
  installedView := View.installed
  onConfirm view victim _ := view.pass (.gather victim [])
  onGather view msg _ := view.pass msg
  onInstall := View.install
  onReadmitGather view msg _ := view.pass msg
  onReadmitInstall := View.install
  onRequestReadmit view _ := view.pass (.reAdmitGather view.id [])

/-- Floats that hold whole numbers. -/
abbrev wholeFloats : FloatArith where
  F64 := Int
  parse := parseI64
  isFinite _ := true
  zero := 0
  add := (· + ·)
  format value := toString value

/-! ### The instances that `open scoped LoopbackRing` selects -/

scoped instance : Trains := trains

scoped instance : FloatArith := wholeFloats

scoped instance : Bincode WriteOp := WireFormat.bincodeWriteOp

scoped instance : AlwaysSerializable MemStore := WireFormat.serializableMemStore

scoped instance : AlwaysSerializable DeliveredEntry := WireFormat.serializableDeliveredEntry

scoped instance : AlwaysSerializable ReplicaSnapshot :=
  WireFormat.serializableReplicaSnapshot Library.Codec.nat

/-! ### A node and its payloads -/

def plainCfg (id : ProcId) (inRing : id < 3) : DriverCfg :=
  { id
    mode := .totalOrder
    issueInitial := false
    ringAddrs := []
    idInRing := inRing
    wholeRing := Or.inl rfl }

def ringCfg (id : ProcId) (inRing : id < 3) : DriverCfg :=
  { plainCfg id inRing with
    ringAddrs := [⟨0, 7000⟩, ⟨0, 7001⟩, ⟨0, 7002⟩]
    wholeRing := Or.inr rfl }

/-! The members the samples run. -/

def plainFirst : DriverCfg := plainCfg 0 (by decide)

def plainSecond : DriverCfg := plainCfg 1 (by decide)

def ringFirst : DriverCfg := ringCfg 0 (by decide)

def ringThird : DriverCfg := ringCfg 2 (by decide)

def payloads (ops : List WriteOp) : List Payload :=
  ops.map (fun op => { data := WireFormat.writeOp.encode op })

def set (key value : String) : List Bytes := [asBytes "SET", asBytes key, asBytes value]

end LoopbackRing

end TrainsValkey
