import TrainsValkey.Driver
import TrainsValkey.TotalOrder

/-
Properties of the driver's client side.

A client property speaks about the store, the deduplication, the log, the
pending requests and the next request id, together with the trace so far.  Only
deliveries and requests touch these, so a property that both keep, and that the
remaining fields and events have no part in, is kept by every turn of the loop.
-/

set_option autoImplicit false

namespace TrainsValkey

open Trains
open Library (Action)
open Library.Action (Keeps)

variable [Trains] {σ : Type} [RedisStore σ]

/-! ### What one delivery does -/

section Delivery

variable {id : ProcId} {op : WriteOp} {st : DriverState σ}

theorem deliverOp_dup (dup : st.dedup.isDup op.origin op.requestId = true) :
    deliverOp id op st = (st, [.delivered op]) := by
  unfold deliverOp
  rw [WriteDedup.firstSeen_dup dup]
  rfl

def DriverState.waitingClient (st : DriverState σ) (id : ProcId) (op : WriteOp) :
    Option Sender :=
  if op.origin = id then st.pending[op.requestId]? else none

theorem deliverOp_fresh (fresh : st.dedup.isDup op.origin op.requestId = false) :
    deliverOp id op st =
      match st.waitingClient id op with
      | some tx =>
          ({ st with
              toParts := st.toParts.deliver op
              pending := st.pending.erase op.requestId },
            [.delivered op, .applied op (op.applyTo st.store).1,
              .answer tx (op.clientReply.getD (op.applyTo st.store).1)])
      | none =>
          ({ st with toParts := st.toParts.deliver op },
            [.delivered op, .applied op (op.applyTo st.store).1]) := by
  have first : (st.dedup.firstSeen op.origin op.requestId).1 = true := by
    rw [WriteDedup.firstSeen_fst, fresh]
    rfl
  unfold deliverOp DriverState.waitingClient
  rw [Parts.deliver_fresh fresh]
  simp only [first, Bool.not_true, Bool.false_eq_true, if_false]
  split
  · rfl
  · rfl

end Delivery

/-! ### Client properties -/

def Event.isQuiet : Event → Bool
  | .forward _ | .token _ | .retarget _ | .transfer _ => true
  | _ => false

structure SameClients (before after : DriverState σ) : Prop where
  parts : after.toParts = before.toParts
  pending : after.pending = before.pending
  nextRid : after.nextRid = before.nextRid

structure ClientProperty (id : ProcId) (Holds : DriverState σ → List Event → Prop) : Prop where
  deliver : ∀ op, Keeps Holds (deliverOp id op)
  silent : ∀ {before after : DriverState σ} {trace : List Event},
    Holds before trace → SameClients before after → Holds after trace
  quietEvent : ∀ {st : DriverState σ} {trace : List Event} (event : Event),
    Holds st trace → event.isQuiet = true → Holds st (trace ++ [event])

namespace ClientProperty

variable {id : ProcId} {Holds : DriverState σ → List Event → Prop}

theorem quiet (property : ClientProperty id Holds) {before after : DriverState σ}
    {trace : List Event} (held : Holds before trace) (same : SameClients before after)
    (events : List Event) (allQuiet : ∀ event ∈ events, event.isQuiet = true) :
    Holds after (trace ++ events) := by
  induction events using List.reverseRecOn with
  | nil =>
      rw [List.append_nil]
      exact property.silent held same
  | append_singleton earlier event ih =>
      rw [← List.append_assoc]
      apply property.quietEvent event
      · exact ih (fun other member => allQuiet other (List.mem_append_left _ member))
      · exact allQuiet event (List.mem_append_right _ List.mem_cons_self)

/-! ### Deliveries -/

section Pump

variable [Bincode WriteOp]

theorem pumpPayloads (property : ClientProperty id Holds) (payloads : List Payload) :
    Keeps Holds (pumpPayloads id payloads) := by
  induction payloads with
  | nil => exact Keeps.nothing
  | cons payload rest ih =>
      unfold TrainsValkey.pumpPayloads
      cases (decodeFromSlice payload.data : Except String WriteOp) with
      | ok op => exact (property.deliver op).andThen ih
      | error e => exact ih

theorem pumpOutputs (property : ClientProperty id Holds) (outs : List NodeOutput) :
    Keeps Holds (pumpOutputs id outs) := by
  induction outs with
  | nil => exact Keeps.nothing
  | cons out rest ih =>
      cases out with
      | forwardTrain train =>
          intro st trace held
          have forwarded := property.quietEvent (.forward train) held rfl
          have later := ih st _ forwarded
          rw [List.append_assoc] at later
          exact later
      | deliver payloads => exact (property.pumpPayloads payloads).andThen ih
      | declareCrash victim => exact ih

theorem stepAndPump (property : ClientProperty id Holds) (input : Input Train) :
    Keeps Holds (stepAndPump id input) := by
  intro st trace held
  exact property.pumpOutputs _ _ trace (property.silent held ⟨rfl, rfl, rfl⟩)

theorem writeRequest [FloatArith] (property : ClientProperty id Holds) (req : WriteRequest)
    (answered : ∀ st trace reply, Holds st trace →
      Holds st (trace ++ [.request req.reply, .answer req.reply reply]))
    (sent : ∀ st trace argv clientReply, Holds st trace →
      Holds
        { st with
          nextRid := st.nextRid + 1
          pending := st.pending.insert st.nextRid req.reply }
        (trace ++ [.request req.reply,
          .broadcast (.forRequest id st.nextRid argv clientReply) req.reply])) :
    Keeps Holds (handleWriteRequest id req) := by
  intro st trace held
  unfold handleWriteRequest
  cases writeAction req st.store with
  | immediate reply => exact answered st trace reply held
  | broadcast argv clientReply =>
      simp only
      split
      · rename_i bytes encoded
        have pumped := property.stepAndPump (.localBroadcast bytes) _ _
          (sent st trace argv clientReply held)
        rw [List.append_assoc] at pumped
        exact pumped
      · exact answered st trace _ held

end Pump

/-! ### Membership and view changes -/

section Membership

variable {cfg : DriverCfg}

theorem retargetSuccessor (property : ClientProperty cfg.id Holds) :
    Keeps Holds (retargetSuccessor cfg) := by
  intro st trace held
  unfold TrainsValkey.retargetSuccessor
  simp only
  split
  · refine property.quiet held ?_ _ ?_
    · exact ⟨rfl, rfl, rfl⟩
    · intro event member
      obtain ⟨addr, _, rfl⟩ := List.mem_map.mp member
      rfl
  · exact Keeps.nothing _ trace (property.silent held ⟨rfl, rfl, rfl⟩)

theorem exclude (property : ClientProperty cfg.id Holds) (victim : Nat) :
    Keeps Holds (exclude cfg victim) := by
  intro st trace held
  unfold TrainsValkey.exclude
  split
  · exact Keeps.nothing st trace held
  · exact property.retargetSuccessor _ trace (property.silent held ⟨rfl, rfl, rfl⟩)

theorem readmission (property : ClientProperty cfg.id Holds) (rejoiner : Nat) :
    Keeps Holds ( readmit cfg rejoiner) := by
  intro st trace held
  unfold readmit
  split
  · exact Keeps.nothing st trace held
  · exact property.retargetSuccessor _ trace (property.silent held ⟨rfl, rfl, rfl⟩)

variable [Bincode WriteOp]

theorem applyPlan (property : ClientProperty cfg.id Holds) (plan : RecoveryPlan) :
    Keeps Holds (applyPlan cfg plan) := by
  apply Keeps.andThen
  · intro st trace held
    exact property.pumpOutputs _ _ trace (property.silent held ⟨rfl, rfl, rfl⟩)
  · intro st trace held
    unfold reissue
    split
    · exact property.quietEvent _ (property.silent held ⟨rfl, rfl, rfl⟩) rfl
    · exact Keeps.nothing st trace held

theorem execute (property : ClientProperty cfg.id Holds) (actions : List TokenAction) :
    Keeps Holds (execute cfg actions) := by
  induction actions with
  | nil => exact Keeps.nothing
  | cons action rest ih =>
      cases action with
      | send msg =>
          intro st trace held
          have sent := property.quietEvent (.token msg) held rfl
          have later := ih st _ sent
          rw [List.append_assoc] at later
          exact later
      | apply plan => exact (property.applyPlan plan).andThen ih

theorem runViewChange (property : ClientProperty cfg.id Holds)
    (machine : DriverState σ → ViewChange × List TokenAction) :
    Keeps Holds (runViewChange cfg machine) := by
  intro st trace held
  exact property.execute _ _ trace (property.silent held ⟨rfl, rfl, rfl⟩)

theorem handleCrashConfirmed (property : ClientProperty cfg.id Holds) (confirmed : ProcId) :
    Keeps Holds (handleCrashConfirmed cfg confirmed) :=
  (property.exclude confirmed).andThen (property.runViewChange _)

theorem processHints (property : ClientProperty cfg.id Holds) (victims : List ProcId) :
    Keeps Holds (processHints cfg victims) := by
  induction victims with
  | nil => exact Keeps.nothing
  | cons victim rest ih =>
      intro st trace held
      unfold TrainsValkey.processHints
      split
      · exact ih st trace held
      · split
        · exact ih _ trace (property.silent held ⟨rfl, rfl, rfl⟩)
        · rename_i detector confirmed hinted
          split
          · exact (property.handleCrashConfirmed confirmed).andThen ih _ trace
              (property.silent held ⟨rfl, rfl, rfl⟩)
          · exact ih _ trace (property.silent held ⟨rfl, rfl, rfl⟩)

theorem handleVc (property : ClientProperty cfg.id Holds) (msg : Token) :
    Keeps Holds (handleVc cfg msg) := by
  cases msg with
  | gather victim body =>
      exact (property.exclude victim).andThen (property.runViewChange _)
  | install victim body =>
      exact (property.exclude victim).andThen (property.runViewChange _)
  | reAdmitGather rejoiner body =>
      exact (property.readmission rejoiner).andThen (property.runViewChange _)
  | reAdmitInstall rejoiner body =>
      exact (property.readmission rejoiner).andThen (property.runViewChange _)

theorem onInput (property : ClientProperty cfg.id Holds) (input : Input Train) :
    Keeps Holds (onInput cfg input) := by
  intro st trace held
  exact ((property.stepAndPump input).andThen (property.processHints _)) st trace held

/-! ### The loop -/

variable [FloatArith] [AlwaysSerializable DeliveredEntry] [AlwaysSerializable ReplicaSnapshot]

theorem driverTurn (property : ClientProperty cfg.id Holds) (input : DriverInput)
    (request : ∀ req, input = .request req → Keeps Holds (handleWriteRequest cfg.id req)) :
    Keeps Holds (TrainsValkey.driverStep cfg input) := by
  cases input with
  | request req => exact request req rfl
  | train train =>
      intro st trace held
      exact property.onInput _ _ trace (property.silent held ⟨rfl, rfl, rfl⟩)
  | token msg =>
      simp only [TrainsValkey.driverStep]
      split
      · exact property.handleVc msg
      · exact Keeps.nothing
  | unreachable addr =>
      intro st trace held
      simp only [TrainsValkey.driverStep]
      split
      · split
        · exact Keeps.nothing st trace held
        · split
          · exact property.handleCrashConfirmed _ _ trace
              (property.silent held ⟨rfl, rfl, rfl⟩)
          · exact Keeps.nothing _ trace (property.silent held ⟨rfl, rfl, rfl⟩)
      · exact Keeps.nothing st trace held
  | tick => exact property.onInput .tick
  | snapshotRequest have_ =>
      intro st trace held
      exact property.quietEvent _ held rfl
  | confirmCrash victim =>
      simp only [TrainsValkey.driverStep]
      split
      · exact property.handleCrashConfirmed victim
      · exact Keeps.nothing

theorem driverStep (property : ClientProperty cfg.id Holds)
    (request : ∀ req, Keeps Holds (handleWriteRequest cfg.id req)) (input : DriverInput) :
    Keeps Holds (driverStep cfg input) :=
  property.driverTurn input (fun req _ => request req)

/-- A client property that holds when the driver starts holds after a run if
the requests of the run keep it. -/
theorem driverRun (property : ClientProperty cfg.id Holds) (store : σ)
    (promote : Option PromoteSeed)
    (start : Holds
      (match promote with
        | some seed => (DriverState.coldStart cfg store).promote cfg seed
        | none => DriverState.coldStart cfg store) [])
    (inputs : List DriverInput)
    (request : ∀ req, .request req ∈ inputs → Keeps Holds (handleWriteRequest cfg.id req)) :
    Holds (TrainsValkey.driverLoop cfg store promote inputs).1
      (TrainsValkey.driverLoop cfg store promote inputs).2 := by
  have started : Holds (driverInit cfg store promote).1 (driverInit cfg store promote).2 := by
    cases promote with
    | some seed => exact property.runViewChange _ _ [] start
    | none =>
        unfold driverInit
        simp only
        split
        · change Holds _ ([] ++ [_])
          refine property.quietEvent _ ?_ rfl
          exact property.silent start ⟨rfl, rfl, rfl⟩
        · exact start
  have kept (input : DriverInput) (member : input ∈ inputs) :
      Keeps Holds (TrainsValkey.driverStep cfg input) := by
    apply property.driverTurn
    rintro req rfl
    exact request req member
  exact Keeps.runOf kept _ _ started

/-- A client property that holds when the driver starts holds after every
run. -/
theorem driverLoop (property : ClientProperty cfg.id Holds)
    (request : ∀ req, Keeps Holds (handleWriteRequest cfg.id req)) (store : σ)
    (promote : Option PromoteSeed)
    (start : Holds
      (match promote with
        | some seed => (DriverState.coldStart cfg store).promote cfg seed
        | none => DriverState.coldStart cfg store) [])
    (inputs : List DriverInput) :
    Holds (driverLoop cfg store promote inputs).1 (driverLoop cfg store promote inputs).2 :=
  property.driverRun store promote start inputs (fun req _ => request req)

end Membership

end ClientProperty

end TrainsValkey
