import TrainsValkey.SecondCrash

/-
View-change tokens the state machine has nothing to say to.

The state machine fences a token by its view: one that is stale, that was seen
before or whose view is installed already gets no action.  The driver asks it
last.  By then it has excluded the victim or taken the rejoiner back, and has
frozen its kernel until an action unfreezes it.
-/

set_option autoImplicit false

namespace TrainsValkey

open Std (ExtTreeMap ExtTreeSet)
open Trains
open Library (Action)

section Fenced

variable [Trains]

/-- What the driver's membership changes set in the kernel. -/
structure KernelView where
  crashed : Core → ProcId → Bool
  frozen : Core → Bool

variable {σ : Type} [RedisStore σ] [Bincode WriteOp]

/-! ### Moving first, asking later -/

/-- What `handle_vc` does before it asks the state machine. -/
def changeMembership (cfg : DriverCfg) (msg : Token) : Action (DriverState σ) Event :=
  match msg.rejoiner, msg.victim with
  | some rejoiner, _ => readmit cfg rejoiner
  | none, some victim => exclude cfg victim
  | none, none => fun st => (st, [])

def consult (msg : Token) (st : DriverState σ) : ViewChange × List TokenAction :=
  match msg.rejoiner with
  | some _ => readmitToken msg st
  | none => excludeToken msg st

omit [RedisStore σ] [Bincode WriteOp] in
def DriverState.vcActions (st : DriverState σ) (cfg : DriverCfg) (msg : Token) :
    List TokenAction :=
  (consult msg (changeMembership cfg msg st).1).2

theorem handleVc_eq (cfg : DriverCfg) (msg : Token) :
    handleVc (σ := σ) cfg msg =
      (changeMembership cfg msg).andThen (runViewChange cfg (consult msg)) := by
  cases msg with
  | gather victim body => rfl
  | install victim body => rfl
  | reAdmitGather rejoiner body => rfl
  | reAdmitInstall rejoiner body => rfl

variable {cfg : DriverCfg} {msg : Token} {st : DriverState σ}

theorem handleVc_fenced (fenced : st.vcActions cfg msg = []) :
    handleVc cfg msg st =
      ({ (changeMembership cfg msg st).1 with
          vc := (consult msg (changeMembership cfg msg st).1).1 },
        (changeMembership cfg msg st).2) := by
  have silent : execute cfg (st.vcActions cfg msg) =
      fun st : DriverState σ => (st, []) := by
    rw [fenced]
    rfl
  unfold DriverState.vcActions at silent
  rw [handleVc_eq]
  simp only [Action.andThen, runViewChange, silent, List.append_nil]

/-! ### When nothing moves -/

/-- The membership already is what the token says. -/
structure Settled (msg : Token) (st : DriverState σ) : Prop where
  excluded : ∀ victim, msg.victim = some victim → victim ∈ st.dead
  included : ∀ rejoiner, msg.rejoiner = some rejoiner → rejoiner ∉ st.dead

/-- A turn of the driver that leaves the ring, the transport's target and the
kernel's masks as they were. -/
structure Unmoved (view : KernelView) (cfg : DriverCfg) (before : DriverState σ)
    (after : DriverState σ × List Event) : Prop where
  dead : after.1.dead = before.dead
  succ : after.1.succ = before.succ
  target : ∀ trace, transportTarget cfg (trace ++ after.2) = transportTarget cfg trace
  crashed : view.crashed after.1.core = view.crashed before.core
  frozen : view.frozen after.1.core = view.frozen before.core

def heldBack (msg : Token) (core : Core) : Core :=
  match msg with
  | .gather victim _ => confirmCrash (setFrozen core true) victim
  | .install victim _ => confirmCrash (setFrozen core true) victim
  | .reAdmitGather rejoiner _ => readmitNode (setFrozen core true) rejoiner
  | .reAdmitInstall rejoiner _ => readmitNode (setFrozen core true) rejoiner

omit [RedisStore σ] [Bincode WriteOp]

theorem retargetSuccessor_core (cfg : DriverCfg) (st : DriverState σ) :
    (retargetSuccessor cfg st).1.core = st.core := by
  unfold retargetSuccessor
  simp only
  split
  · rfl
  · rfl

theorem exclude_settled {victim : Nat} (isDead : victim ∈ st.dead) :
    exclude cfg victim st = (st, []) := by
  unfold exclude
  rw [if_pos (ExtTreeSet.contains_iff_mem.mpr isDead)]

theorem exclude_unsettled {victim : Nat} (alive : victim ∉ st.dead) :
    (exclude cfg victim st).1.dead ≠ st.dead ∧
      (exclude cfg victim st).1.core = confirmCrash (setFrozen st.core true) victim := by
  constructor
  · intro same
    have member := ((exclude_dead cfg victim st).1 victim).mpr (Or.inr rfl)
    rw [same] at member
    exact alive member
  · unfold exclude
    rw [if_neg (fun isDead => alive (ExtTreeSet.contains_iff_mem.mp isDead))]
    exact retargetSuccessor_core cfg _

theorem readmission_settled {rejoiner : Nat} (alive : rejoiner ∉ st.dead) :
    readmit cfg rejoiner st = (st, []) := by
  have absent : (!st.dead.contains rejoiner) = true := by
    rw [Bool.not_eq_true', ← Bool.not_eq_true]
    exact mt ExtTreeSet.contains_iff_mem.mp alive
  unfold readmit
  rw [if_pos absent]

theorem readmission_unsettled {rejoiner : Nat} (isDead : rejoiner ∈ st.dead) :
    ( readmit cfg rejoiner st).1.dead ≠ st.dead ∧
      ( readmit cfg rejoiner st).1.core = readmitNode (setFrozen st.core true) rejoiner := by
  constructor
  · intro same
    rw [← same] at isDead
    exact (((readmission_dead cfg rejoiner st).1 rejoiner).mp isDead).2 rfl
  · have present : ¬(!st.dead.contains rejoiner) = true := by
      rw [ExtTreeSet.contains_iff_mem.mpr isDead]
      exact Bool.false_ne_true
    unfold readmit
    rw [if_neg present]
    exact retargetSuccessor_core cfg _

theorem Settled.unchanged (settled : Settled msg st) :
    changeMembership cfg msg st = (st, []) := by
  cases msg with
  | gather victim body => exact exclude_settled (settled.excluded victim rfl)
  | install victim body => exact exclude_settled (settled.excluded victim rfl)
  | reAdmitGather rejoiner body => exact readmission_settled (settled.included rejoiner rfl)
  | reAdmitInstall rejoiner body => exact readmission_settled (settled.included rejoiner rfl)

theorem settled_of_victim {victim : Nat} (exclusion : msg.rejoiner = none)
    (named : msg.victim = some victim) (isDead : victim ∈ st.dead) : Settled msg st := by
  constructor
  · intro other same
    rw [named] at same
    rw [← Option.some.inj same]
    exact isDead
  · intro rejoiner same
    rw [exclusion] at same
    cases same

theorem settled_of_rejoiner {rejoiner : Nat} (inclusion : msg.victim = none)
    (named : msg.rejoiner = some rejoiner) (alive : rejoiner ∉ st.dead) : Settled msg st := by
  constructor
  · intro victim same
    rw [inclusion] at same
    cases same
  · intro other same
    rw [named] at same
    rw [← Option.some.inj same]
    exact alive

theorem changed_of_unsettled (unsettled : ¬Settled msg st) :
    (changeMembership cfg msg st).1.dead ≠ st.dead ∧
      (changeMembership cfg msg st).1.core = heldBack msg st.core := by
  cases msg with
  | gather victim body =>
      exact exclude_unsettled (fun isDead => unsettled (settled_of_victim rfl rfl isDead))
  | install victim body =>
      exact exclude_unsettled (fun isDead => unsettled (settled_of_victim rfl rfl isDead))
  | reAdmitGather rejoiner body =>
      refine readmission_unsettled ?_
      by_contra alive
      exact unsettled (settled_of_rejoiner rfl rfl alive)
  | reAdmitInstall rejoiner body =>
      refine readmission_unsettled ?_
      by_contra alive
      exact unsettled (settled_of_rejoiner rfl rfl alive)

variable [RedisStore σ] [Bincode WriteOp]

/-- A token without an action leaves everything as it was exactly when it is
settled; otherwise the kernel stays frozen behind a changed membership. -/
theorem fenced_token_iff (view : KernelView) (cfg : DriverCfg) (msg : Token)
    (st : DriverState σ) (fenced : st.vcActions cfg msg = []) :
    (Unmoved view cfg st (handleVc cfg msg st) ↔ Settled msg st) ∧
      (¬Settled msg st → (handleVc cfg msg st).1.core = heldBack msg st.core) := by
  rw [handleVc_fenced fenced]
  refine ⟨⟨?_, ?_⟩, ?_⟩
  · intro unmoved
    by_contra unsettled
    exact (changed_of_unsettled unsettled).1 unmoved.dead
  · intro settled
    rw [settled.unchanged]
    refine ⟨rfl, rfl, ?_, rfl, rfl⟩
    intro trace
    rw [List.append_nil]
  · intro unsettled
    exact (changed_of_unsettled unsettled).2

end Fenced

/-! ### A ring that fences by view -/

namespace FencingRing

structure Node where
  crashed : List ProcId
  frozen : Bool

structure Body where
  view : Nat
  plan : List Payload

abbrev Actions := List (VcAction Body (List Payload))

def stepNode (node : Node) :
    Input LoopbackRing.LoopTrain → Node × List (Output LoopbackRing.LoopTrain)
  | .localBroadcast _ => (node, [])
  | .trainReceived train =>
      (node, if node.frozen then [] else [.deliver train.payloads, .forwardTrain train])
  | .tick => (node, [])

def fence (view : LoopbackRing.View) (body : Body) (action : VcAction Body (List Payload)) :
    Actions :=
  if view.installed < body.view then [action] else []

def pass (view : LoopbackRing.View) (msg : ViewChangeMsg Body) : LoopbackRing.View × Actions :=
  match msg with
  | .gather _ body => (view, fence view body (.send msg))
  | .reAdmitGather _ body => (view, fence view body (.send msg))
  | _ => (view, [])

def install (view : LoopbackRing.View) (msg : ViewChangeMsg Body) :
    LoopbackRing.View × Actions :=
  match msg with
  | .install _ body =>
      ({ view with installed := max view.installed body.view }, fence view body (.apply body.plan))
  | .reAdmitInstall _ body =>
      ({ view with installed := max view.installed body.view }, fence view body (.apply body.plan))
  | _ => (view, [])

theorem three_positive : 0 < 3 := by decide

abbrev trains : Trains where
  Train := LoopbackRing.LoopTrain
  Core := Node
  StateSnapshot := Nat
  RecoveryReport := Unit
  RecoveryPlan := List Payload
  Detector := List ProcId
  ViewChange := LoopbackRing.View
  TokenBody := Body
  ringSize := 3
  numTrains := 1
  ringSizePositive := three_positive
  issuer := LoopbackRing.LoopTrain.issuer
  newNode _ _ := { crashed := [], frozen := false }
  step := stepNode
  exportState node := node.crashed.length
  importState node _ := node
  issueInitialTrain node := (node, { issuer := 0, payloads := [] })
  reissueTrain node := (node, { issuer := 0, payloads := [] })
  readmitNode node rejoiner := { node with crashed := node.crashed.erase rejoiner }
  confirmCrash node victim := { node with crashed := victim :: node.crashed }
  setFrozen node frozen := { node with frozen }
  recoveryReport _ := ()
  applyRecovery node plan := ({ node with frozen := false }, [.deliver plan])
  newDetector _ _ := []
  noteAlive confirmed alive := confirmed.erase alive
  isConfirmed confirmed victim := confirmed.contains victim
  recordGapHint := LoopbackRing.confirm
  recordDisconnect := LoopbackRing.confirm
  newViewChange id _ := { id, installed := 0 }
  adoptView view installed _ := { view with installed }
  installedView := LoopbackRing.View.installed
  onConfirm view victim _ := pass view (.gather victim ⟨view.installed + 1, []⟩)
  onGather view msg _ := pass view msg
  onInstall := install
  onReadmitGather view msg _ := pass view msg
  onReadmitInstall := install
  onRequestReadmit view _ := pass view (.reAdmitGather view.id ⟨view.installed + 1, []⟩)

scoped instance : Trains := trains

scoped instance : FloatArith := LoopbackRing.wholeFloats

scoped instance : Bincode WriteOp := WireFormat.bincodeWriteOp

scoped instance : AlwaysSerializable MemStore := WireFormat.serializableMemStore

scoped instance : AlwaysSerializable DeliveredEntry := WireFormat.serializableDeliveredEntry

scoped instance : AlwaysSerializable ReplicaSnapshot :=
  WireFormat.serializableReplicaSnapshot Library.Codec.nat

def view : KernelView where
  crashed node v := node.crashed.contains v
  frozen := Node.frozen

theorem first_idInRing : 0 < ringSize := by decide

theorem addrs_wholeRing :
    CountingRing.addrs = [] ∨ CountingRing.addrs.length = ringSize := Or.inr rfl

def first : DriverCfg where
  id := 0
  mode := .totalOrder
  issueInitial := false
  ringAddrs := CountingRing.addrs
  idInRing := first_idInRing
  wholeRing := addrs_wholeRing

def backIn : List DriverInput :=
  [.token (.gather 1 ⟨1, []⟩), .token (.install 1 ⟨1, []⟩),
    .token (.reAdmitGather 1 ⟨2, []⟩), .token (.reAdmitInstall 1 ⟨2, []⟩)]

def rejoined : DriverState MemStore := (driverLoop first MemStore.new none backIn).1

/-- A second copy of the last token finds the node in the ring. -/
theorem fenced_token_again :
    rejoined.vcActions first (.reAdmitInstall 1 ⟨2, []⟩) = [] ∧
      Unmoved view first rejoined (handleVc first (.reAdmitInstall 1 ⟨2, []⟩) rejoined) := by
  refine ⟨by rfl, ?_⟩
  have settled := (fenced_token_iff view first (.reAdmitInstall 1 ⟨2, []⟩) rejoined (by rfl)).1
  exact settled.mpr (settled_of_rejoiner rfl rfl (by decide))

/-- A late copy of the first one excludes node 1 again, for no action: it is
dead, the trains go past it and nothing unfreezes the kernel. -/
theorem late_gather_excludes :
    rejoined.vcActions first (.gather 1 ⟨1, []⟩) = [] ∧
      rejoined.dead.toList = [] ∧ rejoined.succ = 1 ∧ rejoined.core = ⟨[], false⟩ ∧
      (handleVc first (.gather 1 ⟨1, []⟩) rejoined).1.dead.toList = [1] ∧
      (handleVc first (.gather 1 ⟨1, []⟩) rejoined).1.succ = 2 ∧
      (handleVc first (.gather 1 ⟨1, []⟩) rejoined).1.core = ⟨[1], true⟩ ∧
      transportTarget first (handleVc first (.gather 1 ⟨1, []⟩) rejoined).2 =
        some ⟨0, 7002⟩ ∧
      ¬Unmoved view first rejoined (handleVc first (.gather 1 ⟨1, []⟩) rejoined) := by
  refine ⟨by rfl, by rfl, by rfl, by rfl, by rfl, by rfl, by rfl, by rfl, ?_⟩
  intro unmoved
  have frozen := unmoved.frozen
  revert frozen
  decide

end FencingRing

end TrainsValkey
