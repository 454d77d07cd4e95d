import TrainsValkey.Command

/-
What the program uses of the protocol crates: the ordering kernel
(`TrainsNode`), the failure detector and the view-change state machine.  They
are dependencies, so their states and functions are parameters; a result that
relies on how one of them behaves says so in a hypothesis.
-/

set_option autoImplicit false

namespace TrainsValkey

inductive DeliveryMode where
  | uniformTotalOrder
  | totalOrder

structure Payload where
  data : Bytes

inductive Input (Train : Type) where
  | localBroadcast (bytes : Bytes)
  | trainReceived (train : Train)
  | tick

inductive Output (Train : Type) where
  | forwardTrain (train : Train)
  | deliver (payloads : List Payload)
  | declareCrash (victim : ProcId)

/-- The tokens of the view change.  Exclusion tokens name a victim, re-admit
tokens a rejoiner; the rest of a token is the state machine's own. -/
inductive ViewChangeMsg (Body : Type) where
  | gather (victim : ProcId) (body : Body)
  | install (victim : ProcId) (body : Body)
  | reAdmitGather (rejoiner : ProcId) (body : Body)
  | reAdmitInstall (rejoiner : ProcId) (body : Body)

namespace ViewChangeMsg

variable {Body : Type}

def victim : ViewChangeMsg Body → Option ProcId
  | .gather victim _ => some victim
  | .install victim _ => some victim
  | _ => none

def rejoiner : ViewChangeMsg Body → Option ProcId
  | .reAdmitGather rejoiner _ => some rejoiner
  | .reAdmitInstall rejoiner _ => some rejoiner
  | _ => none

end ViewChangeMsg

inductive VcAction (Body Plan : Type) where
  | send (msg : ViewChangeMsg Body)
  | apply (plan : Plan)

class Trains where
  Train : Type
  Core : Type
  StateSnapshot : Type
  RecoveryReport : Type
  RecoveryPlan : Type
  Detector : Type
  ViewChange : Type
  TokenBody : Type
  ringSize : Nat
  numTrains : Nat
  ringSizePositive : 0 < ringSize
  issuer : Train → ProcId
  -- `TrainsNode`
  newNode : ProcId → DeliveryMode → Core
  step : Core → Input Train → Core × List (Output Train)
  exportState : Core → StateSnapshot
  importState : Core → StateSnapshot → Core
  issueInitialTrain : Core → Core × Train
  reissueTrain : Core → Core × Train
  readmitNode : Core → ProcId → Core
  confirmCrash : Core → ProcId → Core
  setFrozen : Core → Bool → Core
  recoveryReport : Core → RecoveryReport
  applyRecovery : Core → RecoveryPlan → Core × List (Output Train)
  -- `FailureDetector`
  newDetector : Nat → Nat → Detector
  noteAlive : Detector → ProcId → Detector
  isConfirmed : Detector → ProcId → Bool
  recordGapHint : Detector → ProcId → Detector × Option ProcId
  recordDisconnect : Detector → ProcId → Detector × Option ProcId
  -- `ViewChange`
  newViewChange : ProcId → Nat → ViewChange
  adoptView : ViewChange → Nat → List ProcId → ViewChange
  installedView : ViewChange → Nat
  onConfirm : ViewChange → ProcId → RecoveryReport →
    ViewChange × List (VcAction TokenBody RecoveryPlan)
  onGather : ViewChange → ViewChangeMsg TokenBody → RecoveryReport →
    ViewChange × List (VcAction TokenBody RecoveryPlan)
  onInstall : ViewChange → ViewChangeMsg TokenBody →
    ViewChange × List (VcAction TokenBody RecoveryPlan)
  onReadmitGather : ViewChange → ViewChangeMsg TokenBody → RecoveryReport →
    ViewChange × List (VcAction TokenBody RecoveryPlan)
  onReadmitInstall : ViewChange → ViewChangeMsg TokenBody →
    ViewChange × List (VcAction TokenBody RecoveryPlan)
  onRequestReadmit : ViewChange → RecoveryReport →
    ViewChange × List (VcAction TokenBody RecoveryPlan)

open Trains

variable [Trains]

abbrev NodeOutput := Output Train

abbrev Token := ViewChangeMsg TokenBody

abbrev TokenAction := VcAction TokenBody RecoveryPlan

def deliveredPayloads (outs : List NodeOutput) : List Payload :=
  outs.flatMap (fun out =>
    match out with
    | .deliver payloads => payloads
    | _ => [])

def forwardedTrains (outs : List NodeOutput) : List Train :=
  outs.filterMap (fun out =>
    match out with
    | .forwardTrain train => some train
    | _ => none)

end TrainsValkey
