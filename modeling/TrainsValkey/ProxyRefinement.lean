import TrainsValkey.DriverTrace
import TrainsValkey.LoopbackRing
import TrainsValkey.ReplicaSafety

/-
The proxy against the replica it re-implements.

One side is the proxy: what a connection task does with a client command, and
the driver's request handler and pump.  The other side is a `Replica` with a
table of waiting clients, which it answers from the applied records of its own
id.  Both pumps are described by the same three functions of the outputs they
are given, so the exact map from a driver state to a replica commutes with
every step, and with every run.

Crash hints belong to the failure detector, which `Replica` does not have.
-/

set_option autoImplicit false

namespace TrainsValkey

open Std (ExtTreeMap)
open Trains
open Library (Action Machine)

section Refinement

variable [Trains] {σ : Type} [RedisStore σ]

/-! ### What one step shows -/

structure Observed where
  assigned : List Nat
  forward : List Train
  answers : List (Sender × Reply)

inductive NodeInput where
  | command (now : SystemTime) (argv : List Bytes) (client : Sender)
  | train (train : Train)
  | tick

def assignedIn (events : List Event) : List Nat :=
  events.filterMap (fun event =>
    match event with
    | .broadcast op _ => some op.requestId
    | _ => none)

def forwardedIn (events : List Event) : List Train :=
  events.filterMap (fun event =>
    match event with
    | .forward train => some train
    | _ => none)

def answersIn (events : List Event) : List (Sender × Reply) :=
  events.filterMap (fun event =>
    match event with
    | .answer client reply => some (client, reply)
    | _ => none)

def observe (events : List Event) : Observed :=
  { assigned := assignedIn events
    forward := forwardedIn events
    answers := answersIn events }

def Observed.append (first second : Observed) : Observed :=
  { assigned := first.assigned ++ second.assigned
    forward := first.forward ++ second.forward
    answers := first.answers ++ second.answers }

theorem observe_append (first second : List Event) :
    observe (first ++ second) = (observe first).append (observe second) := by
  simp only [observe, assignedIn, forwardedIn, answersIn, List.filterMap_append,
    Observed.append]

/-! ### The proxy -/

section Proxy

variable [Bincode WriteOp] [FloatArith]

/-- What `client_loop` does with one decoded argument vector.  An empty one is
skipped without a reply. -/
def clientLoop (id : ProcId) (now : SystemTime) (argv : List Bytes) (client : Sender) :
    Action (DriverState σ) Event := fun st =>
  match Command.parse argv with
  | none => (st, [])
  | some cmd =>
      match classify cmd.name with
      | .read => (st, [.answer client (RedisStore.query st.store now cmd)])
      | .write | .nonDeterministic =>
          handleWriteRequest id { now, argv := cmd.argv, reply := client } st
      | .unsupported =>
          (st, [.answer client (.error
            s!"ERR unknown command '{cmd.name}' (not in the replication table)")])

def proxyStep (id : ProcId) : NodeInput → Action (DriverState σ) Event
  | .command now argv client => clientLoop id now argv client
  | .train t => fun st =>
      stepAndPump id (.trainReceived t) { st with detector := noteAlive st.detector (issuer t) }
  | .tick => stepAndPump id .tick

def proxy (id : ProcId) : Machine (DriverState σ) NodeInput Observed where
  step st input :=
    let (st, events) := proxyStep id input st
    (st, [observe events])

end Proxy

/-! ### The replica and its waiting clients -/

structure ReplicaNode (σ : Type) where
  replica : Replica σ
  waiting : ExtTreeMap Nat Sender

/-- Answer the clients whose own operations the records report. -/
def wake (id : ProcId) :
    List Applied → ExtTreeMap Nat Sender → List (Sender × Reply) × ExtTreeMap Nat Sender
  | [], waiting => ([], waiting)
  | record :: rest, waiting =>
      match if record.origin = id then waiting[record.requestId]? else none with
      | some client =>
          let (answers, waiting) := wake id rest (waiting.erase record.requestId)
          ((client, record.reply) :: answers, waiting)
      | none => wake id rest waiting

def ReplicaNode.settle (waiting : ExtTreeMap Nat Sender) (reached : Stepped × Replica σ) :
    ReplicaNode σ × List Observed :=
  let (answers, waiting) := wake reached.2.id reached.1.applied waiting
  ({ replica := reached.2, waiting },
    [{ assigned := [], forward := reached.1.forward, answers }])

def ReplicaNode.record (client : Sender) (waiting : ExtTreeMap Nat Sender) :
    ClientOutcome × Replica σ → ReplicaNode σ × List Observed
  | (.immediate reply, replica) =>
      ({ replica, waiting }, [{ assigned := [], forward := [], answers := [(client, reply)] }])
  | (.broadcast requestId forward, replica) =>
      ({ replica, waiting := waiting.insert requestId client },
        [{ assigned := [requestId], forward, answers := [] }])

section Harness

variable [Bincode WriteOp] [FloatArith]

def ReplicaNode.command (now : SystemTime) (argv : List Bytes) (client : Sender)
    (node : ReplicaNode σ) : ReplicaNode σ × List Observed :=
  match Command.parse argv with
  | none => (node, [{ assigned := [], forward := [], answers := [] }])
  | some cmd => ReplicaNode.record client node.waiting (node.replica.handle now cmd)

def harness : Machine (ReplicaNode σ) NodeInput Observed where
  step node input :=
    match input with
    | .command now argv client => node.command now argv client
    | .train t => ReplicaNode.settle node.waiting (node.replica.onTrain t)
    | .tick => ReplicaNode.settle node.waiting node.replica.tick

end Harness

def DriverState.replicaNode (id : ProcId) (st : DriverState σ) : ReplicaNode σ :=
  { replica := { toParts := st.toParts, id, core := st.core, nextRid := st.nextRid }
    waiting := st.pending }

/-! ### Both pumps, in the same words -/

def Parts.report : Parts σ → List WriteOp → List Applied
  | _, [] => []
  | parts, op :: rest =>
      ((applyDeliveredOpParts op parts).1.map (fun reply =>
        { origin := op.origin, requestId := op.requestId, reply })).toList ++
        report (parts.deliver op) rest

omit [Trains] in
theorem Parts.report_append (parts : Parts σ) (first second : List WriteOp) :
    parts.report (first ++ second) =
      parts.report first ++ (parts.deliverAll first).report second := by
  induction first generalizing parts with
  | nil => rfl
  | cons op rest ih =>
      rw [List.cons_append, report, report, ih, List.append_assoc]
      rfl

omit [Trains] in
theorem wake_append (id : ProcId) (first second : List Applied)
    (waiting : ExtTreeMap Nat Sender) :
    wake id (first ++ second) waiting =
      ((wake id first waiting).1 ++ (wake id second (wake id first waiting).2).1,
        (wake id second (wake id first waiting).2).2) := by
  induction first generalizing waiting with
  | nil => rfl
  | cons record rest ih =>
      rw [List.cons_append, wake, wake]
      split
      · rw [ih]
        rfl
      · exact ih waiting

def DriverState.settled (id : ProcId) (st : DriverState σ) (ops : List WriteOp) :
    DriverState σ :=
  { st with
    toParts := st.toParts.deliverAll ops
    pending := (wake id (st.toParts.report ops) st.pending).2 }

def DriverState.released (id : ProcId) (st : DriverState σ) (ops : List WriteOp) :
    List (Sender × Reply) :=
  (wake id (st.toParts.report ops) st.pending).1

theorem DriverState.settled_append (id : ProcId) (st : DriverState σ)
    (first second : List WriteOp) :
    st.settled id (first ++ second) = (st.settled id first).settled id second := by
  simp only [settled, Parts.report_append, wake_append, Parts.deliverAll, List.foldl_append]

theorem DriverState.released_append (id : ProcId) (st : DriverState σ)
    (first second : List WriteOp) :
    st.released id (first ++ second) =
      st.released id first ++ (st.settled id first).released id second := by
  simp only [released, settled, Parts.report_append, wake_append]

/-- The action hands the driver `ops` and forwards `trains`, and shows nothing
else. -/
def Settles (id : ProcId) (ops : List WriteOp) (trains : List Train)
    (action : Action (DriverState σ) Event) : Prop :=
  ∀ st, (action st).1 = st.settled id ops ∧
    observe (action st).2 =
      { assigned := [], forward := trains, answers := st.released id ops }

theorem Settles.nothing (id : ProcId) :
    Settles id [] [] (fun st : DriverState σ => (st, [])) :=
  fun _ => ⟨rfl, rfl⟩

theorem Settles.andThen {id : ProcId} {ops laterOps : List WriteOp}
    {trains laterTrains : List Train} {action later : Action (DriverState σ) Event}
    (first : Settles id ops trains action) (second : Settles id laterOps laterTrains later) :
    Settles id (ops ++ laterOps) (trains ++ laterTrains) (action.andThen later) := by
  intro st
  obtain ⟨state, seen⟩ := first st
  obtain ⟨laterState, laterSeen⟩ := second (action st).1
  constructor
  · rw [DriverState.settled_append, ← state]
    exact laterState
  · change observe ((action st).2 ++ (later (action st).1).2) = _
    rw [observe_append, seen, laterSeen, state, DriverState.released_append]
    rfl

theorem deliverOp_settles (id : ProcId) (op : WriteOp) :
    Settles id [op] [] (deliverOp (σ := σ) id op) := by
  intro st
  unfold DriverState.settled DriverState.released
  cases dup : st.dedup.isDup op.origin op.requestId with
  | true =>
      have nothing : st.toParts.report [op] = [] := by
        rw [Parts.report, applyDeliveredOpParts_dup dup]
        rfl
      have kept : st.toParts.deliverAll [op] = st.toParts := Parts.deliver_dup dup
      rw [deliverOp_dup dup, nothing, kept]
      exact ⟨rfl, rfl⟩
  | false =>
      have reported : st.toParts.report [op] =
          [{ origin := op.origin, requestId := op.requestId,
             reply := op.clientReply.getD (op.applyTo st.store).1 }] := by
        rw [Parts.report, applyDeliveredOpParts_fresh dup]
        rfl
      rw [deliverOp_fresh dup, reported, wake]
      unfold DriverState.waitingClient
      cases (if op.origin = id then st.pending[op.requestId]? else none) with
      | none => exact ⟨rfl, rfl⟩
      | some client => exact ⟨rfl, rfl⟩

section Pumps

variable [Bincode WriteOp]

theorem pumpPayloads_settles (id : ProcId) (payloads : List Payload) :
    Settles id (decodedOps payloads) [] (pumpPayloads (σ := σ) id payloads) := by
  induction payloads with
  | nil => exact Settles.nothing id
  | cons payload rest ih =>
      cases decoded : (decodeFromSlice payload.data : Except String WriteOp) with
      | error e =>
          simp only [pumpPayloads, decodedOps, List.filterMap_cons, decoded]
          exact ih
      | ok op =>
          simp only [pumpPayloads, decodedOps, List.filterMap_cons, decoded]
          exact (deliverOp_settles id op).andThen ih

theorem pumpOutputs_settles (id : ProcId) (outs : List NodeOutput) :
    Settles id (deliveredOps outs) (forwardedTrains outs) (pumpOutputs (σ := σ) id outs) := by
  induction outs with
  | nil => exact Settles.nothing id
  | cons out rest ih =>
      cases out with
      | forwardTrain train =>
          intro st
          obtain ⟨state, seen⟩ := ih st
          refine ⟨state, ?_⟩
          change observe ([.forward train] ++ (pumpOutputs id rest st).2) = _
          rw [observe_append, seen]
          rfl
      | declareCrash victim => exact ih
      | deliver payloads =>
          rw [deliveredOps_deliver]
          exact (pumpPayloads_settles id payloads).andThen ih

theorem absorbPayloads_stepped (payloads : List Payload) (r : Replica σ) (stepped : Stepped) :
    (Replica.absorbPayloads payloads r stepped).1 =
      { stepped with
        applied := stepped.applied ++ r.toParts.report (decodedOps payloads) } := by
  induction payloads generalizing r stepped with
  | nil =>
      change stepped = { stepped with applied := stepped.applied ++ [] }
      rw [List.append_nil]
  | cons payload rest ih =>
      cases decoded : (decodeFromSlice payload.data : Except String WriteOp) with
      | error e =>
          simp only [Replica.absorbPayloads, decodedOps, List.filterMap_cons, decoded]
          exact ih r stepped
      | ok op =>
          simp only [Replica.absorbPayloads, decodedOps, List.filterMap_cons, decoded]
          rw [ih, Parts.report]
          simp only [Replica.applyDeliveredOp, List.append_assoc]
          rfl

theorem absorbFrom_stepped (outs : List NodeOutput) (r : Replica σ) (stepped : Stepped) :
    (Replica.absorbFrom outs r stepped).1 =
      { forward := stepped.forward ++ forwardedTrains outs
        applied := stepped.applied ++ r.toParts.report (deliveredOps outs) } := by
  induction outs generalizing r stepped with
  | nil =>
      change stepped = { forward := stepped.forward ++ [], applied := stepped.applied ++ [] }
      rw [List.append_nil, List.append_nil]
  | cons out rest ih =>
      cases out with
      | forwardTrain train =>
          rw [Replica.absorbFrom, ih, List.append_assoc]
          rfl
      | declareCrash victim => exact ih r stepped
      | deliver payloads =>
          rw [Replica.absorbFrom, ih, absorbPayloads_stepped, absorbPayloads_state,
            deliveredOps_deliver, Parts.report_append, List.append_assoc]
          rfl

theorem absorb_stepped (r : Replica σ) (outs : List NodeOutput) :
    (r.absorb outs).1 =
      { forward := forwardedTrains outs
        applied := r.toParts.report (deliveredOps outs) } :=
  absorbFrom_stepped outs r Stepped.empty

theorem settle_absorb (waiting : ExtTreeMap Nat Sender) (r : Replica σ)
    (outs : List NodeOutput) :
    ReplicaNode.settle waiting (r.absorb outs) =
      ({ replica := r.withParts (r.toParts.deliverAll (deliveredOps outs))
         waiting := (wake r.id (r.toParts.report (deliveredOps outs)) waiting).2 },
        [{ assigned := []
           forward := forwardedTrains outs
           answers := (wake r.id (r.toParts.report (deliveredOps outs)) waiting).1 }]) := by
  unfold ReplicaNode.settle
  rw [absorb_state, absorb_stepped]
  rfl

theorem deliveredOps_of_quiet {outs : List NodeOutput}
    (quiet : ∀ payloads, .deliver payloads ∉ outs) : deliveredOps outs = [] := by
  induction outs with
  | nil => rfl
  | cons out rest ih =>
      have later : deliveredOps rest = [] :=
        ih (fun payloads member => quiet payloads (List.mem_cons_of_mem out member))
      cases out with
      | forwardTrain train => exact later
      | declareCrash victim => exact later
      | deliver payloads => exact absurd List.mem_cons_self (quiet payloads)

end Pumps

/-! ### The refinement -/

theorem observe_broadcast (id : ProcId) (requestId : Nat) (argv : List Bytes)
    (clientReply : Option Reply) (client : Sender) (later : List Event) :
    observe (.request client ::
        .broadcast (.forRequest id requestId argv clientReply) client :: later) =
      Observed.append { assigned := [requestId], forward := [], answers := [] }
        (observe later) := by
  have assigned : assignedIn [.request client,
      .broadcast (.forRequest id requestId argv clientReply) client] = [requestId] := by
    simp [assignedIn]
  change observe ([_, _] ++ later) = _
  rw [observe_append, observe, assigned]
  rfl

variable [Bincode WriteOp]

theorem stepAndPump_settles (id : ProcId) (input : Input Train) (st : DriverState σ) :
    (stepAndPump id input st).1 =
        DriverState.settled id { st with core := (step st.core input).1 }
          (deliveredOps (step st.core input).2) ∧
      observe (stepAndPump id input st).2 =
        { assigned := []
          forward := forwardedTrains (step st.core input).2
          answers := DriverState.released id { st with core := (step st.core input).1 }
            (deliveredOps (step st.core input).2) } :=
  pumpOutputs_settles id (step st.core input).2 { st with core := (step st.core input).1 }

theorem stepAndPump_refines (id : ProcId) (input : Input Train) (st : DriverState σ) :
    ((stepAndPump id input st).1.replicaNode id, [observe (stepAndPump id input st).2]) =
      ReplicaNode.settle st.pending
        (Replica.absorb { (st.replicaNode id).replica with core := (step st.core input).1 }
          (step st.core input).2) := by
  obtain ⟨state, seen⟩ := stepAndPump_settles id input st
  rw [settle_absorb, state, seen]
  rfl

variable [FloatArith]

theorem handleWriteRequest_broadcast
    (quiet : ∀ core bytes payloads,
      .deliver payloads ∉ (step core (.localBroadcast bytes)).2)
    (id : ProcId) (req : WriteRequest) (st : DriverState σ) {argv : List Bytes}
    {clientReply : Option Reply}
    (action : writeAction req st.store = .broadcast argv clientReply) :
    ((handleWriteRequest id req st).1.replicaNode id,
        [observe (handleWriteRequest id req st).2]) =
      ReplicaNode.record req.reply st.pending
        ((st.replicaNode id).replica.broadcastWrite argv clientReply) := by
  unfold handleWriteRequest Replica.broadcastWrite
  rw [action]
  simp only
  have sameOp : (st.replicaNode id).replica.id = id := rfl
  have sameRid : (st.replicaNode id).replica.nextRid = st.nextRid := rfl
  rw [sameOp, sameRid]
  cases Bincode.encodeToVec (WriteOp.forRequest id st.nextRid argv clientReply) with
  | error e => rfl
  | ok bytes =>
      have undelivered : deliveredOps (step st.core (.localBroadcast bytes)).2 = [] :=
        deliveredOps_of_quiet (quiet st.core bytes)
      obtain ⟨state, seen⟩ := stepAndPump_settles id (.localBroadcast bytes)
        { st with
          nextRid := st.nextRid + 1
          pending := st.pending.insert st.nextRid req.reply }
      have sameCore : (st.replicaNode id).replica.core = st.core := rfl
      simp only at state seen ⊢
      rw [undelivered] at state seen
      rw [absorb_stepped, absorb_state, sameCore, undelivered, observe_broadcast, state, seen]
      rfl

theorem clientLoop_refines
    (quiet : ∀ core bytes payloads,
      .deliver payloads ∉ (step core (.localBroadcast bytes)).2)
    (id : ProcId) (now : SystemTime) (argv : List Bytes) (client : Sender)
    (st : DriverState σ) :
    ((clientLoop id now argv client st).1.replicaNode id,
        [observe (clientLoop id now argv client st).2]) =
      (st.replicaNode id).command now argv client := by
  unfold clientLoop ReplicaNode.command
  cases parsed : Command.parse argv with
  | none => rfl
  | some cmd =>
      obtain ⟨sameArgv, _⟩ := Command.parse_eq_some parsed
      have again : Command.parse cmd.argv = some cmd := by rw [sameArgv, parsed]
      unfold Replica.handle
      cases class_ : classify cmd.name with
      | read =>
          simp only [class_]
          rfl
      | unsupported =>
          simp only [class_]
          rfl
      | write =>
          simp only [class_]
          apply handleWriteRequest_broadcast quiet
          unfold writeAction
          simp only [again, class_]
      | nonDeterministic =>
          simp only [class_]
          cases resolved : resolve now cmd st.store with
          | immediate reply =>
              have action : writeAction { now, argv := cmd.argv, reply := client } st.store =
                  .immediate reply := by
                unfold writeAction
                simp only [again, class_, resolved]
              have resolvedHere : resolve now cmd (st.replicaNode id).replica.store =
                  .immediate reply := resolved
              simp only [handleWriteRequest, action, resolvedHere]
              rfl
          | broadcast effect clientReply =>
              have resolvedHere : resolve now cmd (st.replicaNode id).replica.store =
                  .broadcast effect clientReply := resolved
              simp only [resolvedHere]
              apply handleWriteRequest_broadcast quiet
              unfold writeAction
              simp only [again, class_, resolved]

theorem proxy_step_refines
    (quiet : ∀ core bytes payloads,
      .deliver payloads ∉ (step core (.localBroadcast bytes)).2)
    (id : ProcId) (input : NodeInput) (st : DriverState σ) :
    (((proxy id).step st input).1.replicaNode id, ((proxy id).step st input).2) =
      harness.step (st.replicaNode id) input := by
  cases input with
  | command now argv client => exact clientLoop_refines quiet id now argv client st
  | train train =>
      exact stepAndPump_refines id (.trainReceived train)
        { st with detector := noteAlive st.detector (issuer train) }
  | tick => exact stepAndPump_refines id .tick st

/-- Whatever commands, trains and ticks come in, the proxy and the replica stay
in step and show the same. -/
theorem proxy_refines_replica
    (quiet : ∀ core bytes payloads,
      .deliver payloads ∉ (step core (.localBroadcast bytes)).2)
    (id : ProcId) (st : DriverState σ) (inputs : List NodeInput) :
    (((proxy id).run st inputs).1.replicaNode id, ((proxy id).run st inputs).2) =
      harness.run (st.replicaNode id) inputs := by
  have simulated := Machine.run_simulation (proxy id) harness
    (fun (left : DriverState σ) right => left.replicaNode id = right) (fun seen => seen) rfl
    (fun _ _ => rfl) ?_ st (st.replicaNode id) rfl inputs
  · exact Prod.ext simulated.1 simulated.2
  · rintro left right input rfl
    have stepped := proxy_step_refines quiet id input left
    exact ⟨congrArg Prod.fst stepped, congrArg Prod.snd stepped⟩

end Refinement

/-! ### Commands of every class on the small ring -/

section Sample

open scoped LoopbackRing

def mixedInputs : List NodeInput :=
  [.command ⟨0, 0⟩ (LoopbackRing.set "k" "v") 7,
    .command ⟨0, 0⟩ [asBytes "GET", asBytes "k"] 8,
    .command ⟨0, 0⟩ [asBytes "SPOP", asBytes "s"] 9,
    .command ⟨0, 0⟩ [] 10,
    .train { issuer := 1, payloads := [⟨[]⟩] },
    .train
      { issuer := 1
        payloads := LoopbackRing.payloads [WriteOp.new 0 0 (LoopbackRing.set "k" "v")] },
    .tick]

def mixedStart : DriverState MemStore :=
  DriverState.coldStart LoopbackRing.plainFirst MemStore.new

theorem proxy_refines_replica_mixed :
    (((proxy 0).run mixedStart mixedInputs).1.replicaNode 0,
        ((proxy 0).run mixedStart mixedInputs).2) =
      harness.run (mixedStart.replicaNode 0) mixedInputs :=
  proxy_refines_replica (fun _ _ _ => List.not_mem_nil) 0 mixedStart mixedInputs

end Sample

end TrainsValkey
