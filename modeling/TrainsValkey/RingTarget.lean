import TrainsValkey.DriverTrace
import TrainsValkey.LoopbackRing

/-
Where a driver sends its trains.

The transport dials the configured successor when it is spawned and changes its
target only when it is told to.  The driver caches the successor it last chose
and tells the transport only when the cached value changes, so the two stay
together as long as they start together.
-/

set_option autoImplicit false

namespace TrainsValkey

open Std (ExtTreeMap ExtTreeSet)
open Trains
open Library (Action)
open Library.Action (Keeps Frames)

/-! ### The next live node -/

section NextAlive

variable {me n : Nat} {dead : ExtTreeSet Nat}

theorem nextAliveFrom_lt (turns : Nat) {j : Nat} (within : j < n) :
    nextAliveFrom me n dead turns j < n := by
  induction turns generalizing j with
  | zero => exact within
  | succ turns ih =>
      unfold nextAliveFrom
      split
      · exact ih (Nat.mod_lt _ (by omega))
      · exact within

theorem nextAlive_lt (positive : 0 < n) : nextAlive me n dead < n :=
  nextAliveFrom_lt n (Nat.mod_lt _ positive)

/-- With as many turns left as it takes to come back to `me`, the walk ends
where the loop of the source ends. -/
theorem nextAliveFrom_stops (dead : ExtTreeSet Nat) (meWithin : me < n) (turns : Nat) (within : turns < n) :
    dead.contains (nextAliveFrom me n dead (turns + 1) ((me + (n - turns)) % n)) = false ∨
      nextAliveFrom me n dead (turns + 1) ((me + (n - turns)) % n) = me := by
  induction turns with
  | zero =>
      have back : (me + (n - 0)) % n = me := by
        rw [Nat.sub_zero, Nat.add_mod_right, Nat.mod_eq_of_lt meWithin]
      right
      rw [back, nextAliveFrom]
      simp
  | succ turns ih =>
      rw [nextAliveFrom]
      split
      · have next : ((me + (n - (turns + 1))) % n + 1) % n = (me + (n - turns)) % n := by
          rw [Nat.mod_add_mod]
          congr 1
          omega
        rw [next]
        exact ih (by omega)
      · rename_i stopped
        cases isDead : dead.contains ((me + (n - (turns + 1))) % n) with
        | false => exact Or.inl rfl
        | true =>
            rw [isDead] at stopped
            exact Or.inr (by simpa using stopped)

theorem nextAlive_stops (dead : ExtTreeSet Nat) (meWithin : me < n) :
    dead.contains (nextAlive me n dead) = false ∨ nextAlive me n dead = me := by
  obtain ⟨turns, rfl⟩ : ∃ turns, n = turns + 1 := ⟨n - 1, by omega⟩
  have stops := nextAliveFrom_stops dead meWithin turns (Nat.lt_succ_self turns)
  have start : me + (turns + 1 - turns) = me + 1 := by omega
  rw [start] at stops
  exact stops

theorem nextAlive_of_alive (alive : dead.contains ((me + 1) % n) = false) :
    nextAlive me n dead = (me + 1) % n := by
  unfold nextAlive
  cases n with
  | zero => rfl
  | succ n =>
      rw [nextAliveFrom, alive]
      rfl

end NextAlive

/-! ### The transport's target -/

section Target

variable [Trains] {σ : Type} [RedisStore σ]

def Event.isRetarget : Event → Bool
  | .retarget _ => true
  | _ => false

def Event.aim (target : Option SocketAddr) : Event → Option SocketAddr
  | .retarget addr => some addr
  | _ => target

/-- The address the transport sends to: the configured successor it was
spawned with, until it is pointed elsewhere. -/
def transportTarget (cfg : DriverCfg) (trace : List Event) : Option SocketAddr :=
  trace.foldl Event.aim cfg.ringAddrs[(cfg.id + 1) % cfg.n]?

structure Targeted (cfg : DriverCfg) (st : DriverState σ) (trace : List Event) : Prop where
  succ : st.succ = nextAlive cfg.id cfg.n st.dead
  target : transportTarget cfg trace = cfg.ringAddrs[st.succ]?

def DriverState.membership (st : DriverState σ) : ExtTreeSet Nat × Nat := (st.dead, st.succ)

/-- Where a driver stands on the other nodes: what it holds against each of
them, and whom it has excluded. -/
def DriverState.standing (st : DriverState σ) : Detector × ExtTreeSet Nat × Nat :=
  (st.detector, st.membership)

theorem transportTarget_quiet (cfg : DriverCfg) (trace : List Event) {events : List Event}
    (quiet : ∀ event ∈ events, event.isRetarget = false) :
    transportTarget cfg (trace ++ events) = transportTarget cfg trace := by
  unfold transportTarget
  rw [List.foldl_append]
  induction events using List.reverseRecOn with
  | nil => rfl
  | append_singleton earlier event ih =>
      rw [List.foldl_append,
        ih (fun other member => quiet other (List.mem_append_left _ member))]
      have here := quiet event (List.mem_append_right _ List.mem_cons_self)
      cases event <;> first | rfl | cases here

omit [RedisStore σ] in
theorem Targeted.keeps {cfg : DriverCfg} {action : Action (DriverState σ) Event}
    (frames : Frames DriverState.standing Event.isRetarget action) :
    Keeps (Targeted cfg) action := by
  intro st trace targeted
  obtain ⟨same, quiet⟩ := frames st
  obtain ⟨_, sameMembership⟩ := Prod.mk.inj same
  obtain ⟨sameDead, sameSucc⟩ := Prod.mk.inj sameMembership
  constructor
  · rw [sameDead, sameSucc]
    exact targeted.succ
  · rw [transportTarget_quiet cfg trace quiet, sameSucc]
    exact targeted.target

/-! ### What leaves the standing alone -/

section Frame

variable (id : ProcId)

theorem deliverOp_frames (op : WriteOp) :
    Frames (DriverState.standing (σ := σ)) Event.isRetarget (deliverOp id op) := by
  intro st
  cases dup : st.dedup.isDup op.origin op.requestId with
  | true =>
      rw [deliverOp_dup dup]
      exact ⟨rfl, by simp [Event.isRetarget]⟩
  | false =>
      rw [deliverOp_fresh dup]
      cases st.waitingClient id op with
      | none => exact ⟨rfl, by simp [Event.isRetarget]⟩
      | some client => exact ⟨rfl, by simp [Event.isRetarget]⟩

variable [Bincode WriteOp]

theorem pumpPayloads_frames (payloads : List Payload) :
    Frames (DriverState.standing (σ := σ)) Event.isRetarget (pumpPayloads id payloads) := by
  induction payloads with
  | nil => exact Frames.nothing
  | cons payload rest ih =>
      unfold pumpPayloads
      cases (decodeFromSlice payload.data : Except String WriteOp) with
      | ok op => exact (deliverOp_frames id op).andThen ih
      | error e => exact ih

theorem pumpOutputs_frames (outs : List NodeOutput) :
    Frames (DriverState.standing (σ := σ)) Event.isRetarget (pumpOutputs id outs) := by
  induction outs with
  | nil => exact Frames.nothing
  | cons out rest ih =>
      cases out with
      | forwardTrain train => exact ih.announced rfl
      | deliver payloads => exact (pumpPayloads_frames id payloads).andThen ih
      | declareCrash victim => exact ih

theorem stepAndPump_frames (input : Input Train) :
    Frames (DriverState.standing (σ := σ)) Event.isRetarget (stepAndPump id input) := by
  intro st
  exact pumpOutputs_frames id (step st.core input).2 { st with core := (step st.core input).1 }

theorem handleWriteRequest_frames [FloatArith] (req : WriteRequest) :
    Frames (DriverState.standing (σ := σ)) Event.isRetarget (handleWriteRequest id req) := by
  intro st
  unfold handleWriteRequest
  cases writeAction req st.store with
  | immediate reply => exact ⟨rfl, by simp [Event.isRetarget]⟩
  | broadcast argv clientReply =>
      simp only
      cases Bincode.encodeToVec (WriteOp.forRequest id st.nextRid argv clientReply) with
      | error e => exact ⟨rfl, by simp [Event.isRetarget]⟩
      | ok bytes =>
          exact (((stepAndPump_frames id (.localBroadcast bytes)).announced rfl).announced rfl)
            { st with
              nextRid := st.nextRid + 1
              pending := st.pending.insert st.nextRid req.reply }

variable (cfg : DriverCfg)

theorem applyPlan_frames (plan : RecoveryPlan) :
    Frames (DriverState.standing (σ := σ)) Event.isRetarget (applyPlan cfg plan) := by
  apply Frames.andThen
  · intro st
    exact pumpOutputs_frames cfg.id (applyRecovery st.core plan).2
      { st with core := (applyRecovery st.core plan).1 }
  · intro st
    unfold reissue
    split
    · exact ⟨rfl, by simp [Event.isRetarget]⟩
    · exact Frames.nothing st

theorem execute_frames (actions : List TokenAction) :
    Frames (DriverState.standing (σ := σ)) Event.isRetarget (execute cfg actions) := by
  induction actions with
  | nil => exact Frames.nothing
  | cons action rest ih =>
      cases action with
      | send msg => exact ih.announced rfl
      | apply plan => exact (applyPlan_frames cfg plan).andThen ih

theorem runViewChange_frames (machine : DriverState σ → ViewChange × List TokenAction) :
    Frames DriverState.standing Event.isRetarget (runViewChange cfg machine) := by
  intro st
  exact execute_frames cfg (machine st).2 { st with vc := (machine st).1 }

end Frame

/-! ### What changes it -/

section Membership

variable {cfg : DriverCfg}

omit [RedisStore σ] in
theorem retargetSuccessor_targeted {st : DriverState σ} {trace : List Event}
    (target : transportTarget cfg trace = cfg.ringAddrs[st.succ]?) :
    Targeted cfg (retargetSuccessor cfg st).1 (trace ++ (retargetSuccessor cfg st).2) := by
  unfold retargetSuccessor
  simp only
  split
  · refine ⟨rfl, ?_⟩
    unfold transportTarget at target ⊢
    rw [List.foldl_append, target]
    rcases cfg.wholeRing with empty | whole
    · simp [empty]
    · have within : nextAlive cfg.id cfg.n st.dead < cfg.ringAddrs.length := by
        rw [whole, ← cfg.n_eq]
        exact nextAlive_lt (Nat.lt_of_le_of_lt (Nat.zero_le _) cfg.id_lt_n)
      simp [List.getElem?_eq_getElem within, Event.aim]
  · rename_i same
    rw [List.append_nil]
    exact ⟨(not_not.mp same).symm, target⟩

omit [RedisStore σ] in
theorem exclude_keeps (victim : Nat) : Keeps (Targeted (σ := σ) cfg) (exclude cfg victim) := by
  intro st trace targeted
  unfold exclude
  split
  · exact Keeps.nothing st trace targeted
  · exact retargetSuccessor_targeted targeted.target

omit [RedisStore σ] in
theorem readmission_keeps (rejoiner : Nat) :
    Keeps (Targeted (σ := σ) cfg) ( readmit cfg rejoiner) := by
  intro st trace targeted
  unfold readmit
  split
  · exact Keeps.nothing st trace targeted
  · exact retargetSuccessor_targeted targeted.target

variable [Bincode WriteOp]

theorem handleCrashConfirmed_keeps (confirmed : ProcId) :
    Keeps (Targeted (σ := σ) cfg) (handleCrashConfirmed cfg confirmed) :=
  (exclude_keeps confirmed).andThen (Targeted.keeps (runViewChange_frames cfg _))

omit [RedisStore σ] [Bincode WriteOp] in
theorem Targeted.same {before after : DriverState σ} {trace : List Event}
    (targeted : Targeted cfg before trace) (same : after.membership = before.membership) :
    Targeted cfg after trace := by
  obtain ⟨sameDead, sameSucc⟩ := Prod.mk.inj same
  constructor
  · rw [sameDead, sameSucc]
    exact targeted.succ
  · rw [sameSucc]
    exact targeted.target

theorem processHints_keeps (victims : List ProcId) :
    Keeps (Targeted (σ := σ) cfg) (processHints cfg victims) := by
  induction victims with
  | nil => exact Keeps.nothing
  | cons victim rest ih =>
      intro st trace targeted
      unfold processHints
      split
      · exact ih st trace targeted
      · split
        · exact ih _ trace (targeted.same rfl)
        · rename_i detector confirmed hinted
          split
          · exact (handleCrashConfirmed_keeps confirmed).andThen ih _ trace (targeted.same rfl)
          · exact ih _ trace (targeted.same rfl)

theorem handleVc_keeps (msg : Token) : Keeps (Targeted (σ := σ) cfg) (handleVc cfg msg) := by
  cases msg with
  | gather victim body =>
      exact (exclude_keeps victim).andThen (Targeted.keeps (runViewChange_frames cfg _))
  | install victim body =>
      exact (exclude_keeps victim).andThen (Targeted.keeps (runViewChange_frames cfg _))
  | reAdmitGather rejoiner body =>
      exact (readmission_keeps rejoiner).andThen (Targeted.keeps (runViewChange_frames cfg _))
  | reAdmitInstall rejoiner body =>
      exact (readmission_keeps rejoiner).andThen (Targeted.keeps (runViewChange_frames cfg _))

theorem onInput_keeps (input : Input Train) :
    Keeps (Targeted (σ := σ) cfg) (onInput cfg input) := by
  intro st trace targeted
  exact ((Targeted.keeps (stepAndPump_frames cfg.id input)).andThen
    (processHints_keeps _)) st trace targeted

variable [FloatArith] [AlwaysSerializable DeliveredEntry] [AlwaysSerializable ReplicaSnapshot]

theorem driverStep_keeps (input : DriverInput) :
    Keeps (Targeted (σ := σ) cfg) (driverStep cfg input) := by
  cases input with
  | request req => exact Targeted.keeps (handleWriteRequest_frames cfg.id req)
  | train train =>
      intro st trace targeted
      exact onInput_keeps _ _ trace (targeted.same rfl)
  | token msg =>
      simp only [driverStep]
      split
      · exact handleVc_keeps msg
      · exact Keeps.nothing
  | unreachable addr =>
      intro st trace targeted
      simp only [driverStep]
      split
      · split
        · exact Keeps.nothing st trace targeted
        · split
          · exact handleCrashConfirmed_keeps _ _ trace (targeted.same rfl)
          · exact Keeps.nothing _ trace (targeted.same rfl)
      · exact Keeps.nothing st trace targeted
  | tick => exact onInput_keeps .tick
  | snapshotRequest have_ =>
      apply Targeted.keeps
      intro st
      exact ⟨rfl, by simp [driverStep, Event.isRetarget]⟩
  | confirmCrash victim =>
      simp only [driverStep]
      split
      · exact handleCrashConfirmed_keeps victim
      · exact Keeps.nothing

/-! ### From the start to the end of a run -/

/-- The configured successor is live in the view the driver starts with. -/
def StartsAtSuccessor (cfg : DriverCfg) : Option PromoteSeed → Prop
  | some seed => (cfg.id + 1) % cfg.n ∉ seed.deadOthers cfg.id
  | none => True

omit [FloatArith] [AlwaysSerializable DeliveredEntry] [AlwaysSerializable ReplicaSnapshot] in
theorem driverInit_membership (cfg : DriverCfg) (store : σ) (promote : Option PromoteSeed) :
    (driverInit cfg store promote).1.membership =
        (match promote with
          | some seed => (DriverState.coldStart cfg store).promote cfg seed
          | none => DriverState.coldStart cfg store).membership ∧
      ∀ event ∈ (driverInit cfg store promote).2, event.isRetarget = false := by
  cases promote with
  | some seed =>
      obtain ⟨same, quiet⟩ := runViewChange_frames cfg
        (fun st => onRequestReadmit st.vc (recoveryReport st.core))
        ((DriverState.coldStart cfg store).promote cfg seed)
      exact ⟨(Prod.mk.inj same).2, quiet⟩
  | none =>
      unfold driverInit
      simp only
      split
      · exact ⟨rfl, by simp [Event.isRetarget]⟩
      · exact ⟨rfl, by simp⟩

omit [FloatArith] [AlwaysSerializable DeliveredEntry] [AlwaysSerializable ReplicaSnapshot] in
theorem driverInit_targeted (cfg : DriverCfg) (store : σ) {promote : Option PromoteSeed}
    (starts : StartsAtSuccessor cfg promote) :
    Targeted cfg (driverInit cfg store promote).1 (driverInit cfg store promote).2 := by
  obtain ⟨same, quiet⟩ := driverInit_membership cfg store promote
  have aimed : transportTarget cfg (driverInit cfg store promote).2 =
      cfg.ringAddrs[(cfg.id + 1) % cfg.n]? := by
    have unchanged := transportTarget_quiet cfg [] quiet
    rw [List.nil_append] at unchanged
    exact unchanged
  refine Targeted.same ?_ same
  cases promote with
  | none =>
      refine ⟨?_, aimed⟩
      exact (nextAlive_of_alive ExtTreeSet.contains_empty).symm
  | some seed =>
      refine ⟨rfl, ?_⟩
      rw [aimed]
      have alive : (ExtTreeSet.ofList (seed.deadOthers cfg.id) : ExtTreeSet Nat).contains
          ((cfg.id + 1) % cfg.n) = false := by
        rw [ExtTreeSet.contains_ofList]
        simpa [StartsAtSuccessor] using starts
      exact congrArg (cfg.ringAddrs[·]?) (nextAlive_of_alive alive).symm

/-- The transport sends to the next live node in every state a driver reaches
when the configured successor is live in the view it starts with; with distinct
addresses, only then. -/
theorem ring_target_follows_iff (cfg : DriverCfg) (store : σ) (promote : Option PromoteSeed) :
    (StartsAtSuccessor cfg promote → ∀ inputs,
      Targeted cfg (driverLoop cfg store promote inputs).1
        (driverLoop cfg store promote inputs).2) ∧
    (cfg.reconfig = true → cfg.ringAddrs.Nodup →
      (∀ inputs, Targeted cfg (driverLoop cfg store promote inputs).1
        (driverLoop cfg store promote inputs).2) → StartsAtSuccessor cfg promote) := by
  constructor
  · intro starts inputs
    exact Keeps.run driverStep_keeps inputs _ _ (driverInit_targeted cfg store starts)
  · intro reconfig distinct targeted
    cases promote with
    | none => exact True.intro
    | some seed =>
        intro isDead
        have started := targeted []
        simp only [driverLoop, Library.Machine.run_nil, List.append_nil] at started
        obtain ⟨same, quiet⟩ := driverInit_membership cfg store (some seed)
        have aimed := transportTarget_quiet cfg [] quiet
        rw [List.nil_append, started.target] at aimed
        obtain ⟨_, sameSucc⟩ := Prod.mk.inj same
        rw [sameSucc] at aimed
        have positive : 0 < cfg.n := Nat.lt_of_le_of_lt (Nat.zero_le _) cfg.id_lt_n
        have length : cfg.ringAddrs.length = cfg.n := by
          unfold DriverCfg.n
          rw [if_pos reconfig]
        have within : nextAlive cfg.id cfg.n (.ofList (seed.deadOthers cfg.id)) <
            cfg.ringAddrs.length := by
          rw [length]
          exact nextAlive_lt positive
        have here : nextAlive cfg.id cfg.n (.ofList (seed.deadOthers cfg.id)) =
            (cfg.id + 1) % cfg.n := (List.getElem?_inj within distinct).mp aimed
        rcases nextAlive_stops (.ofList (seed.deadOthers cfg.id)) cfg.id_lt_n with
          alive | self
        · rw [here, ExtTreeSet.contains_ofList] at alive
          simp [isDead] at alive
        · rw [here] at self
          rw [self] at isDead
          simp [PromoteSeed.deadOthers] at isDead

end Membership

end Target

/-! ### A promotion next to a dead node -/

section Sample

open scoped LoopbackRing

def lastAlive : DriverState MemStore :=
  (driverLoop LoopbackRing.ringThird MemStore.new none
    [.train ⟨0, LoopbackRing.payloads [WriteOp.new 2 0 (LoopbackRing.set "k" "v")]⟩,
      .confirmCrash 0, .confirmCrash 1]).1

/-- Node 0 comes back, counts node 2 as its successor and keeps sending to the
address of node 1. -/
theorem promoted_sends_to_dead_node :
    ∃ seed, (finalSnapshotForPromotion [some (lastAlive.serveStateTransfer 0)]
        ⟨MemStore.new, WriteDedup.new, DeliveredLog.default⟩).1 = some seed ∧
      seed.deadOthers 0 = [1] ∧
      (driverLoop LoopbackRing.ringFirst lastAlive.store (some seed) []).1.succ = 2 ∧
      transportTarget LoopbackRing.ringFirst
        (driverLoop LoopbackRing.ringFirst lastAlive.store (some seed) []).2 =
          some ⟨0, 7001⟩ ∧
      ¬Targeted LoopbackRing.ringFirst
        (driverLoop LoopbackRing.ringFirst lastAlive.store (some seed) []).1
        (driverLoop LoopbackRing.ringFirst lastAlive.store (some seed) []).2 := by
  refine ⟨_, by rfl, by rfl, by rfl, by rfl, ?_⟩
  intro targeted
  have target := targeted.target
  revert target
  decide

end Sample

end TrainsValkey
