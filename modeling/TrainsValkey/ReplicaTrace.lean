import TrainsValkey.ProxyRefinement

/-
The events of a replica and its waiting clients, in the words of the driver's.

A replica hands the operations of a step over one by one, as the driver does.
So the events of a step can be read off the replica's own functions, the harness
shows what they show, and a property that the driver's deliveries and requests
keep is kept by a replica with its table of waiting clients.
-/

set_option autoImplicit false

namespace TrainsValkey

open Std (ExtTreeMap)
open Trains
open Library (Action Machine)
open Library.Action (Keeps)

section Replica

variable [Trains] {σ : Type} [RedisStore σ]

/-! ### Operations, one after the other -/

/-- `apply_delivered_op`, and the client that its record wakes. -/
def ReplicaNode.take (op : WriteOp) : Action (ReplicaNode σ) Event := fun node =>
  match applyDeliveredOpParts op node.replica.toParts with
  | (none, parts) => ({ node with replica := node.replica.withParts parts }, [.delivered op])
  | (some reply, parts) =>
      let (answers, waiting) := wake node.replica.id
        [{ origin := op.origin, requestId := op.requestId, reply }] node.waiting
      ({ replica := node.replica.withParts parts, waiting },
        .delivered op :: .applied op (op.applyTo node.replica.store).1 ::
          answers.map (fun (client, reply) => .answer client reply))

def ReplicaNode.takeAll : List WriteOp → Action (ReplicaNode σ) Event
  | [] => fun node => (node, [])
  | op :: rest => (ReplicaNode.take op).andThen (ReplicaNode.takeAll rest)

/-- The driver takes an operation as the replica does. -/
theorem take_replicaNode (id : ProcId) (op : WriteOp) (st : DriverState σ) :
    ReplicaNode.take op (st.replicaNode id) =
      ((deliverOp id op st).1.replicaNode id, (deliverOp id op st).2) := by
  have pieces : (st.replicaNode id).replica.toParts = st.toParts := rfl
  unfold ReplicaNode.take
  rw [pieces]
  cases dup : st.dedup.isDup op.origin op.requestId with
  | true =>
      rw [applyDeliveredOpParts_dup dup, deliverOp_dup dup]
      rfl
  | false =>
      have waits : (if op.origin = (st.replicaNode id).replica.id then
          (st.replicaNode id).waiting[op.requestId]? else none) = st.waitingClient id op := rfl
      rw [applyDeliveredOpParts_fresh dup, deliverOp_fresh dup, ← Parts.deliver_fresh dup]
      simp only [wake, waits]
      cases st.waitingClient id op with
      | some client => rfl
      | none => rfl

def ReplicaNode.driver (node : ReplicaNode σ) : DriverState σ :=
  { toParts := node.replica.toParts
    core := node.replica.core
    pending := node.waiting
    nextRid := node.replica.nextRid
    detector := newDetector strikeThreshold disconnectWeight
    vc := newViewChange node.replica.id ringSize
    dead := ∅
    succ := 0 }

omit [RedisStore σ] in
theorem ReplicaNode.driver_replicaNode (node : ReplicaNode σ) :
    node.driver.replicaNode node.replica.id = node := rfl

theorem take_settles (op : WriteOp) (node : ReplicaNode σ) :
    (ReplicaNode.take op node).1 =
        { replica := node.replica.withParts (node.replica.toParts.deliver op)
          waiting := (wake node.replica.id (node.replica.toParts.report [op]) node.waiting).2 } ∧
      observe (ReplicaNode.take op node).2 =
        { assigned := []
          forward := []
          answers :=
            (wake node.replica.id (node.replica.toParts.report [op]) node.waiting).1 } := by
  obtain ⟨state, seen⟩ := deliverOp_settles node.replica.id op node.driver
  have taken := take_replicaNode node.replica.id op node.driver
  rw [node.driver_replicaNode, state] at taken
  rw [taken]
  exact ⟨rfl, seen⟩

theorem takeAll_settles (ops : List WriteOp) (node : ReplicaNode σ) :
    (ReplicaNode.takeAll ops node).1 =
        { replica := node.replica.withParts (node.replica.toParts.deliverAll ops)
          waiting := (wake node.replica.id (node.replica.toParts.report ops) node.waiting).2 } ∧
      observe (ReplicaNode.takeAll ops node).2 =
        { assigned := []
          forward := []
          answers := (wake node.replica.id (node.replica.toParts.report ops) node.waiting).1 } := by
  induction ops generalizing node with
  | nil => exact ⟨rfl, rfl⟩
  | cons op rest ih =>
      obtain ⟨state, seen⟩ := take_settles op node
      obtain ⟨laterState, laterSeen⟩ := ih (ReplicaNode.take op node).1
      have reported : node.replica.toParts.report (op :: rest) =
          node.replica.toParts.report [op] ++ (node.replica.toParts.deliver op).report rest :=
        node.replica.toParts.report_append [op] rest
      rw [reported, wake_append]
      constructor
      · change (ReplicaNode.takeAll rest (ReplicaNode.take op node).1).1 = _
        rw [laterState, state]
        rfl
      · change observe ((ReplicaNode.take op node).2 ++
          (ReplicaNode.takeAll rest (ReplicaNode.take op node).1).2) = _
        rw [observe_append, seen, laterSeen, state]
        rfl

/-! ### The events of one step -/

section Steps

variable [Bincode WriteOp]

omit [RedisStore σ] [Bincode WriteOp] in
theorem observe_forwards (trains : List Train) :
    observe (trains.map .forward) = { assigned := [], forward := trains, answers := [] } := by
  simp [observe, assignedIn, forwardedIn, answersIn, List.filterMap_map]

def ReplicaNode.steps (node : ReplicaNode σ) (input : Input Train) : List Event :=
  let (core, outs) := step node.replica.core input
  (forwardedTrains outs).map .forward ++
    (ReplicaNode.takeAll (deliveredOps outs)
      { node with replica := { node.replica with core } }).2

variable [FloatArith]

/-- The effect that `handle` hands to the kernel for a command it broadcasts. -/
def Replica.effectOf (r : Replica σ) (now : SystemTime) (cmd : Command) : WriteOp :=
  match classify cmd.name, resolve now cmd r.store with
  | .nonDeterministic, .broadcast argv clientReply =>
      .forRequest r.id r.nextRid argv (some clientReply)
  | _, _ => .forRequest r.id r.nextRid cmd.argv none

/-- The events of a step.  What a broadcast makes the kernel deliver at once is
left out. -/
def ReplicaNode.happens (node : ReplicaNode σ) : NodeInput → List Event
  | .command now argv client =>
      match Command.parse argv with
      | none => []
      | some cmd =>
          match node.replica.handle now cmd with
          | (.immediate reply, _) => [.request client, .answer client reply]
          | (.broadcast _ forward, _) =>
              .request client :: .broadcast (node.replica.effectOf now cmd) client ::
                forward.map .forward
  | .train t => node.steps (.trainReceived t)
  | .tick => node.steps .tick

/-! ### What the replica does with a step -/

omit [FloatArith] in
theorem settle_steps (node : ReplicaNode σ) (input : Input Train) :
    ReplicaNode.settle node.waiting
        (Replica.absorb { node.replica with core := (step node.replica.core input).1 }
          (step node.replica.core input).2) =
      ((ReplicaNode.takeAll (deliveredOps (step node.replica.core input).2)
          { node with replica := { node.replica with core := (step node.replica.core input).1 } }).1,
        [observe (node.steps input)]) := by
  obtain ⟨state, seen⟩ := takeAll_settles (deliveredOps (step node.replica.core input).2)
    { node with replica := { node.replica with core := (step node.replica.core input).1 } }
  unfold ReplicaNode.steps
  rw [settle_absorb, state]
  simp only [observe_append, observe_forwards, seen, Observed.append, List.append_nil,
    List.nil_append]

omit [FloatArith] in
theorem broadcastWrite_cases (r : Replica σ) (argv : List Bytes) (clientReply : Option Reply) :
    (∃ reply, r.broadcastWrite argv clientReply = (.immediate reply, r)) ∨
      ∃ bytes, r.broadcastWrite argv clientReply =
        (.broadcast r.nextRid (forwardedTrains (step r.core (.localBroadcast bytes)).2),
          { r with
            toParts := r.toParts.deliverAll (deliveredOps (step r.core (.localBroadcast bytes)).2)
            nextRid := r.nextRid + 1
            core := (step r.core (.localBroadcast bytes)).1 }) := by
  unfold Replica.broadcastWrite
  simp only
  split
  · exact Or.inl ⟨_, rfl⟩
  · rename_i bytes _
    refine Or.inr ⟨bytes, ?_⟩
    rw [absorb_state, absorb_stepped]
    rfl

theorem handle_cases (r : Replica σ) (now : SystemTime) (cmd : Command) :
    (∃ reply, r.handle now cmd = (.immediate reply, r)) ∨
      ∃ argv clientReply bytes,
        r.effectOf now cmd = .forRequest r.id r.nextRid argv clientReply ∧
        r.handle now cmd =
          (.broadcast r.nextRid (forwardedTrains (step r.core (.localBroadcast bytes)).2),
            { r with
              toParts :=
                r.toParts.deliverAll (deliveredOps (step r.core (.localBroadcast bytes)).2)
              nextRid := r.nextRid + 1
              core := (step r.core (.localBroadcast bytes)).1 }) := by
  unfold Replica.handle Replica.effectOf
  cases class_ : classify cmd.name with
  | read => exact Or.inl ⟨_, rfl⟩
  | unsupported => exact Or.inl ⟨_, rfl⟩
  | write =>
      rcases broadcastWrite_cases r cmd.argv none with refused | ⟨bytes, sent⟩
      · exact Or.inl refused
      · exact Or.inr ⟨cmd.argv, none, bytes, rfl, sent⟩
  | nonDeterministic =>
      cases resolve now cmd r.store with
      | immediate reply => exact Or.inl ⟨reply, rfl⟩
      | broadcast argv clientReply =>
          rcases broadcastWrite_cases r argv (some clientReply) with refused | ⟨bytes, sent⟩
          · exact Or.inl refused
          · exact Or.inr ⟨argv, some clientReply, bytes, rfl, sent⟩

/-! ### Runs -/

def traced : Machine (ReplicaNode σ) NodeInput (List Event) where
  step node input := ((harness.step node input).1, [node.happens input])

def ReplicaNode.trace (node : ReplicaNode σ) (inputs : List NodeInput) : List Event :=
  (traced.run node inputs).2.flatten

theorem traced_step (node : ReplicaNode σ) (input : NodeInput) :
    (harness.step node input).2 = [observe (node.happens input)] := by
  cases input with
  | train t => exact congrArg Prod.snd (settle_steps node (.trainReceived t))
  | tick => exact congrArg Prod.snd (settle_steps node .tick)
  | command now argv client =>
      simp only [harness, ReplicaNode.command, ReplicaNode.happens]
      cases Command.parse argv with
      | none => rfl
      | some cmd =>
          rcases handle_cases node.replica now cmd with
            ⟨reply, handled⟩ | ⟨argv, clientReply, bytes, effect, handled⟩
          · simp only [handled]
            rfl
          · simp only [handled, effect]
            rw [observe_broadcast, observe_forwards]
            rfl

theorem harness_shows (node : ReplicaNode σ) (inputs : List NodeInput) :
    (harness.run node inputs).1 = (traced.run node inputs).1 ∧
      (harness.run node inputs).2 = (traced.run node inputs).2.map observe := by
  induction inputs generalizing node with
  | nil => exact ⟨rfl, rfl⟩
  | cons input rest ih =>
      obtain ⟨state, shown⟩ := ih (harness.step node input).1
      rw [Machine.run_cons, Machine.run_cons]
      refine ⟨state, ?_⟩
      rw [shown, traced_step]
      rfl

/-! ### Client properties of a replica -/

/-- A driver with the pieces of the node has the property. -/
def OnNode (id : ProcId) (Holds : DriverState σ → List Event → Prop) (node : ReplicaNode σ)
    (trace : List Event) : Prop :=
  ∃ st : DriverState σ, st.replicaNode id = node ∧ Holds st trace

namespace ClientProperty

variable {id : ProcId} {Holds : DriverState σ → List Event → Prop}

omit [Bincode WriteOp] [FloatArith] in
theorem takeAll (property : ClientProperty id Holds) (ops : List WriteOp) :
    Keeps (OnNode id Holds) (ReplicaNode.takeAll ops) := by
  induction ops with
  | nil => exact Keeps.nothing
  | cons op rest ih =>
      have first : Keeps (OnNode id Holds) (ReplicaNode.take op) := by
        rintro node trace ⟨st, rfl, held⟩
        rw [take_replicaNode]
        exact ⟨_, rfl, property.deliver op st trace held⟩
      exact first.andThen ih

omit [FloatArith] in
theorem steps (property : ClientProperty id Holds) {node : ReplicaNode σ} {trace : List Event}
    (held : OnNode id Holds node trace) (input : Input Train) :
    OnNode id Holds
      (ReplicaNode.settle node.waiting
        (Replica.absorb { node.replica with core := (step node.replica.core input).1 }
          (step node.replica.core input).2)).1
      (trace ++ node.steps input) := by
  obtain ⟨st, rfl, here⟩ := held
  rw [settle_steps]
  unfold ReplicaNode.steps
  rw [← List.append_assoc]
  apply property.takeAll
  refine ⟨{ st with core := (step st.core input).1 }, rfl, ?_⟩
  apply property.quiet here
  · exact ⟨rfl, rfl, rfl⟩
  · intro event member
    obtain ⟨train, _, rfl⟩ := List.mem_map.mp member
    rfl

/-- A property that the deliveries and the requests of a driver keep holds after
every run of a replica, if the kernel delivers nothing while it queues a
broadcast. -/
theorem replicaRun (property : ClientProperty id Holds)
    (quiet : ∀ core bytes payloads, .deliver payloads ∉ (step core (.localBroadcast bytes)).2)
    (answered : ∀ st trace client reply, Holds st trace →
      Holds st (trace ++ [.request client, .answer client reply]))
    (sent : ∀ st trace client argv clientReply, Holds st trace →
      Holds
        { st with
          nextRid := st.nextRid + 1
          pending := st.pending.insert st.nextRid client }
        (trace ++ [.request client,
          .broadcast (.forRequest id st.nextRid argv clientReply) client]))
    (node : ReplicaNode σ) (start : OnNode id Holds node []) (inputs : List NodeInput) :
    OnNode id Holds (traced.run node inputs).1 (node.trace inputs) := by
  refine traced.run_history (fun node shown => OnNode id Holds node shown.flatten) ?_ node [] start
    inputs
  intro node shown input held
  rw [List.flatten_append]
  change OnNode id Holds (harness.step node input).1 (shown.flatten ++ [node.happens input].flatten)
  rw [List.flatten_singleton]
  cases input with
  | train t => exact property.steps held (.trainReceived t)
  | tick => exact property.steps held .tick
  | command now argv client =>
      obtain ⟨st, rfl, here⟩ := held
      simp only [harness, ReplicaNode.command, ReplicaNode.happens]
      cases Command.parse argv with
      | none =>
          rw [List.append_nil]
          exact ⟨st, rfl, here⟩
      | some cmd =>
          rcases handle_cases (st.replicaNode id).replica now cmd with
            ⟨reply, handled⟩ | ⟨argv, clientReply, bytes, effect, handled⟩
          · simp only [handled]
            exact ⟨st, rfl, answered st _ client reply here⟩
          · have nothing : deliveredOps (step st.core (.localBroadcast bytes)).2 = [] :=
              deliveredOps_of_quiet (quiet st.core bytes)
            simp only [handled, effect]
            refine ⟨{ st with
              core := (step st.core (.localBroadcast bytes)).1
              nextRid := st.nextRid + 1
              pending := st.pending.insert st.nextRid client }, ?_, ?_⟩
            · change _ = (ReplicaNode.record client st.pending
                (ClientOutcome.broadcast st.nextRid _,
                  { (st.replicaNode id).replica with
                    toParts := st.toParts.deliverAll
                      (deliveredOps (step st.core (.localBroadcast bytes)).2)
                    nextRid := st.nextRid + 1
                    core := (step st.core (.localBroadcast bytes)).1 })).1
              rw [nothing]
              rfl
            · have asked := sent st shown.flatten client argv clientReply here
              rw [← List.singleton_append, List.append_cons _ (Event.broadcast _ _),
                ← List.append_assoc]
              apply property.quiet asked
              · exact ⟨rfl, rfl, rfl⟩
              · intro event member
                obtain ⟨train, _, rfl⟩ := List.mem_map.mp member
                rfl

end ClientProperty

end Steps

end Replica

end TrainsValkey
