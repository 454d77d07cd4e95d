import TrainsValkey.ClientReplies
import TrainsValkey.ReplicaTrace

/-
Request ids of a node that comes back.

A new incarnation counts its request ids from 0 again, whatever it installs.
The ids are fresh for the installed deduplication state exactly when that state
records nothing of the node's own origin; a survivor that applied a write of an
earlier incarnation ships back a state that does.  An incarnation loses a write,
or answers a client by an older one, exactly when an older operation has the
identity of a write, in that state or still on its way.
-/

set_option autoImplicit false

namespace TrainsValkey

open Trains
open Library (Action Explained Machine)
open Library.Action (Keeps)

section Ids

variable [Trains] {σ : Type} [RedisStore σ]

/-- The deduplication state records no operation of the node's own. -/
def WriteDedup.Unused (dedup : WriteDedup) (id : ProcId) : Prop :=
  ∀ requestId, dedup.isDup id requestId = false

def WriteDedup.FreshFor (dedup : WriteDedup) (id : ProcId) (assigned : List Nat) : Prop :=
  ∀ requestId ∈ assigned, dedup.isDup id requestId = false

/-! ### What an older operation would have to be -/

omit [RedisStore σ] in
theorem Followed.noneOlder {id : ProcId} {base : WriteDedup} {st : DriverState σ}
    {trace : List Event} (followed : Followed id base st trace) (unused : base.Unused id)
    (admissible : Explained (Admissible id) trace) : NoneOlder base trace := by
  constructor
  · intro op client sent delivered
    rw [(followed.assigned op client sent).1]
    exact unused op.requestId
  · intro sent client old before after broadcast split first same
    rw [split] at admissible
    have own : old.origin = id :=
      (Prod.mk.inj same).1.trans (followed.assigned sent client broadcast).1
    obtain ⟨waiter, earlier⟩ := admissible.justifies own
    have oldSent : .broadcast old waiter ∈ trace := by simp [split, earlier]
    exact (followed.unique old sent waiter client oldSent broadcast (Prod.mk.inj same).2).1

/-- What decides over the writes of a run of an incarnation that installed
`base`. -/
structure Decided (id : ProcId) (base : WriteDedup) (trace : List Event) : Prop where
  kept_iff : Explained FreshChannel trace → (WritesKept trace ↔ NoneOlder base trace)
  unused : base.Unused id → Explained (Admissible id) trace → WritesKept trace

omit [RedisStore σ] in
theorem FollowedIfFresh.decided {id : ProcId} {base : WriteDedup} {st : DriverState σ}
    {trace : List Event} (held : FollowedIfFresh id base st trace) : Decided id base trace := by
  refine ⟨fun fresh => (held fresh).kept_iff, ?_⟩
  intro unused admissible
  have followed := held (admissible.mono Admissible.freshChannel)
  exact followed.kept_iff.mpr (followed.noneOlder unused admissible)

/-! ### The driver counts from 0 -/

theorem assignedIn_append (first second : List Event) :
    assignedIn (first ++ second) = assignedIn first ++ assignedIn second :=
  List.filterMap_append

def Counted (st : DriverState σ) (trace : List Event) : Prop :=
  assignedIn trace = List.range st.nextRid

theorem countedProperty (id : ProcId) : ClientProperty id (Counted (σ := σ)) where
  deliver op := by
    intro st trace counted
    obtain ⟨state, seen⟩ := deliverOp_settles id op st
    have nothing := congrArg Observed.assigned seen
    change assignedIn (deliverOp id op st).2 = [] at nothing
    unfold Counted
    rw [assignedIn_append, nothing, List.append_nil, state]
    exact counted
  silent counted same := by
    unfold Counted
    rw [same.nextRid]
    exact counted
  quietEvent event counted isQuiet := by
    unfold Counted
    rw [assignedIn_append, counted]
    cases event <;> first | exact List.append_nil _ | cases isQuiet

section Driver

variable [Bincode WriteOp] [FloatArith]

theorem handleWriteRequest_counted (id : ProcId) (req : WriteRequest) :
    Keeps (Counted (σ := σ)) (handleWriteRequest id req) := by
  apply (countedProperty id).writeRequest
  · intro st trace reply counted
    unfold Counted
    rw [assignedIn_append, counted]
    exact List.append_nil _
  · intro st trace argv clientReply counted
    unfold Counted
    rw [assignedIn_append, counted, List.range_succ]
    simp [assignedIn]

def setRequest : WriteRequest :=
  { now := ⟨0, 0⟩, argv := [asBytes "SET", asBytes "k", asBytes "v"], reply := 0 }

theorem handleWriteRequest_nextRid
    (encodes : ∀ op : WriteOp, ∃ bytes, Bincode.encodeToVec op = .ok bytes)
    (id : ProcId) (st : DriverState σ) :
    (handleWriteRequest id setRequest st).1.nextRid = st.nextRid + 1 := by
  have action : writeAction setRequest st.store = .broadcast setRequest.argv none := rfl
  obtain ⟨bytes, encoded⟩ := encodes (.forRequest id st.nextRid setRequest.argv none)
  unfold handleWriteRequest
  simp only [action, encoded]
  rw [(stepAndPump_settles id (.localBroadcast bytes) _).1]
  rfl

variable [AlwaysSerializable DeliveredEntry] [AlwaysSerializable ReplicaSnapshot]

theorem driverLoop_counted (cfg : DriverCfg) (store : σ) (promote : Option PromoteSeed)
    (inputs : List DriverInput) :
    Counted (driverLoop cfg store promote inputs).1 (driverLoop cfg store promote inputs).2 := by
  apply (countedProperty cfg.id).driverLoop (handleWriteRequest_counted cfg.id)
  cases promote <;> rfl

theorem driverRun_nextRid
    (encodes : ∀ op : WriteOp, ∃ bytes, Bincode.encodeToVec op = .ok bytes)
    (cfg : DriverCfg) (count : Nat) (st : DriverState σ) :
    ((driver cfg).run st (List.replicate count (.request setRequest))).1.nextRid =
      st.nextRid + count := by
  induction count generalizing st with
  | zero => rfl
  | succ count ih =>
      rw [List.replicate_succ, Machine.run_cons]
      have next : ((driver cfg).step st (.request setRequest)).1.nextRid = st.nextRid + 1 :=
        handleWriteRequest_nextRid encodes cfg.id st
      simp only [ih, next]
      omega

theorem driverLoop_assigns
    (encodes : ∀ op : WriteOp, ∃ bytes, Bincode.encodeToVec op = .ok bytes)
    (cfg : DriverCfg) (store : σ) (promote : Option PromoteSeed) (requestId : Nat) :
    ∃ inputs, requestId ∈ assignedIn (driverLoop cfg store promote inputs).2 := by
  refine ⟨List.replicate (requestId + 1) (.request setRequest), ?_⟩
  have counted : assignedIn _ = List.range _ := driverLoop_counted cfg store promote
    (List.replicate (requestId + 1) (.request setRequest))
  rw [counted, List.mem_range]
  have reached := driverRun_nextRid encodes cfg (requestId + 1) (driverInit cfg store promote).1
  change requestId < ((driver cfg).run _ _).1.nextRid
  omega

end Driver

/-! ### So does a replica -/

section Replica

variable [Bincode WriteOp]

theorem broadcastWrite_nextRid
    (encodes : ∀ op : WriteOp, ∃ bytes, Bincode.encodeToVec op = .ok bytes) (r : Replica σ)
    (argv : List Bytes) (clientReply : Option Reply) :
    ∃ forward next, r.broadcastWrite argv clientReply = (.broadcast r.nextRid forward, next) ∧
      next.nextRid = r.nextRid + 1 := by
  rcases broadcastWrite_cases r argv clientReply with ⟨reply, refused⟩ | ⟨bytes, sent⟩
  · obtain ⟨bytes, encoded⟩ := encodes (.forRequest r.id r.nextRid argv clientReply)
    unfold Replica.broadcastWrite at refused
    simp only [encoded, Prod.mk.injEq, reduceCtorEq, false_and] at refused
  · exact ⟨_, _, sent, rfl⟩

variable [FloatArith]

def assignedIds (shown : List Observed) : List Nat := shown.flatMap Observed.assigned

theorem harness_counted (node : ReplicaNode σ) (fresh : node.replica.nextRid = 0)
    (inputs : List NodeInput) :
    assignedIds (harness.run node inputs).2 =
      List.range (harness.run node inputs).1.replica.nextRid := by
  have counted := harness.run_history
    (fun (reached : ReplicaNode σ) shown =>
      assignedIds shown = List.range reached.replica.nextRid) ?_ node [] ?_ inputs
  · simpa using counted
  · intro reached shown input held
    have silent (next : ReplicaNode σ) (one : Observed) (nothing : one.assigned = [])
        (same : next.replica.nextRid = reached.replica.nextRid) :
        assignedIds (shown ++ [one]) = List.range next.replica.nextRid := by
      rw [same, ← held]
      simp [assignedIds, nothing]
    have settled (outs : List NodeOutput) (core : Core) :
        assignedIds (shown ++ (ReplicaNode.settle reached.waiting
          (Replica.absorb { reached.replica with core } outs)).2) =
            List.range (ReplicaNode.settle reached.waiting
              (Replica.absorb { reached.replica with core } outs)).1.replica.nextRid := by
      rw [settle_absorb]
      exact silent _ _ rfl rfl
    cases input with
    | train train => exact settled _ _
    | tick => exact settled _ _
    | command now argv client =>
        simp only [harness, ReplicaNode.command]
        split
        · exact silent _ _ rfl rfl
        · rename_i cmd parsed
          rcases handle_cases reached.replica now cmd with
            ⟨reply, handled⟩ | ⟨argv, clientReply, bytes, _, handled⟩
          · rw [handled]
            exact silent _ _ rfl rfl
          · rw [handled]
            change assignedIds (shown ++ [_]) = List.range (reached.replica.nextRid + 1)
            rw [List.range_succ, ← held]
            simp [assignedIds]
  · rw [fresh]
    rfl

def setCommand : NodeInput := .command setRequest.now setRequest.argv setRequest.reply

theorem harness_nextRid
    (encodes : ∀ op : WriteOp, ∃ bytes, Bincode.encodeToVec op = .ok bytes) (count : Nat)
    (node : ReplicaNode σ) :
    (harness.run node (List.replicate count setCommand)).1.replica.nextRid =
      node.replica.nextRid + count := by
  induction count generalizing node with
  | zero => rfl
  | succ count ih =>
      have next : (harness.step node setCommand).1.replica.nextRid =
          node.replica.nextRid + 1 := by
        obtain ⟨forward, reached, sent, counter⟩ :=
          broadcastWrite_nextRid encodes node.replica setRequest.argv none
        change (ReplicaNode.record _ _
          (node.replica.broadcastWrite setRequest.argv none)).1.replica.nextRid = _
        rw [sent]
        exact counter
      rw [List.replicate_succ, Machine.run_cons]
      simp only [ih, next]
      omega

theorem harness_assigns
    (encodes : ∀ op : WriteOp, ∃ bytes, Bincode.encodeToVec op = .ok bytes)
    (node : ReplicaNode σ) (fresh : node.replica.nextRid = 0) (requestId : Nat) :
    ∃ inputs, requestId ∈ assignedIds (harness.run node inputs).2 := by
  refine ⟨List.replicate (requestId + 1) setCommand, ?_⟩
  rw [harness_counted node fresh, List.mem_range, harness_nextRid encodes]
  omega

end Replica

/-! ### What a new incarnation installs -/

section Install

variable [AlwaysSerializable DeliveredEntry]

theorem applyTail_kept (frames : List Bytes) (r : Replica σ) (applied : Nat) :
    (Replica.applyTail frames r applied).2.nextRid = r.nextRid ∧
      (Replica.applyTail frames r applied).2.id = r.id := by
  induction frames generalizing r applied with
  | nil => exact ⟨rfl, rfl⟩
  | cons frame rest ih =>
      unfold Replica.applyTail
      split
      · exact ⟨rfl, rfl⟩
      · exact ih _ _

omit [AlwaysSerializable DeliveredEntry] in
theorem importSnapshot_kept (r : Replica σ) (snap : ReplicaSnapshot) :
    (r.importSnapshot snap).2.nextRid = r.nextRid ∧ (r.importSnapshot snap).2.id = r.id := by
  unfold Replica.importSnapshot
  simp only
  split
  · exact ⟨rfl, rfl⟩
  · exact ⟨rfl, rfl⟩

variable [AlwaysSerializable ReplicaSnapshot]

theorem applyStateTransfer_kept (r : Replica σ) (xfer : StateTransfer) :
    (r.applyStateTransfer xfer).2.nextRid = r.nextRid ∧
      (r.applyStateTransfer xfer).2.id = r.id := by
  unfold Replica.applyStateTransfer
  split
  · exact applyTail_kept xfer.tail r 0
  · split
    · exact ⟨rfl, rfl⟩
    · rename_i snap _
      have kept := importSnapshot_kept r snap
      split
      · rename_i imported
        rw [imported] at kept
        exact kept
      · rename_i imported
        rw [imported] at kept
        have tail := applyTail_kept xfer.tail ‹Replica σ› 0
        exact ⟨tail.1.trans kept.1, tail.2.trans kept.2⟩

/-- A restarted replica after it installed a survivor's state. -/
inductive Installed (id : ProcId) : Replica σ → Prop
  | snapshot (mode : DeliveryMode) (store : σ) (snap : ReplicaSnapshot) :
      Installed id ((Replica.new id mode store).importSnapshot snap).2
  | transfer (mode : DeliveryMode) (store : σ) (xfer : StateTransfer) :
      Installed id ((Replica.new id mode store).applyStateTransfer xfer).2

theorem Installed.restarted {id : ProcId} {r : Replica σ} (installed : Installed id r) :
    r.nextRid = 0 ∧ r.id = id := by
  cases installed with
  | snapshot mode store snap => exact importSnapshot_kept _ snap
  | transfer mode store xfer => exact applyStateTransfer_kept _ xfer

variable [Bincode WriteOp] [FloatArith]

theorem installed_decided
    (encodes : ∀ op : WriteOp, ∃ bytes, Bincode.encodeToVec op = .ok bytes)
    (quiet : ∀ core bytes payloads, .deliver payloads ∉ (step core (.localBroadcast bytes)).2)
    {id : ProcId} {r : Replica σ} (installed : Installed id r) :
    ((∀ inputs, r.dedup.FreshFor id (assignedIds (harness.run ⟨r, ∅⟩ inputs).2)) ↔
      r.dedup.Unused id) ∧
    ∀ inputs, Decided id r.dedup (ReplicaNode.trace ⟨r, ∅⟩ inputs) := by
  obtain ⟨counter, rfl⟩ := installed.restarted
  constructor
  · constructor
    · intro fresh requestId
      obtain ⟨inputs, assigned⟩ := harness_assigns encodes ⟨r, ∅⟩ counter requestId
      exact fresh inputs requestId assigned
    · exact fun unused inputs requestId _ => unused requestId
  · intro inputs
    have start : OnNode r.id (FollowedIfFresh r.id r.dedup) ⟨r, ∅⟩ [] :=
      ⟨ReplicaNode.driver ⟨r, ∅⟩, rfl, fun _ => Followed.initial rfl rfl⟩
    obtain ⟨st, _, held⟩ := followedProperty.replicaRun quiet
      (fun _ _ _ reply held => held.refused reply)
      (fun _ _ _ argv clientReply held => held.sent argv clientReply) ⟨r, ∅⟩ start inputs
    exact held.decided

/-- A new incarnation's ids are fresh for what it installed, in every run,
exactly when what it installed has no ids of its own.  In a run it keeps its
writes exactly when no older operation takes the place of one, and always when
what it installed has no ids of its own and nothing of its own is still on its
way from before. -/
theorem rejoin_ids_fresh_iff
    (encodes : ∀ op : WriteOp, ∃ bytes, Bincode.encodeToVec op = .ok bytes)
    (quiet : ∀ core bytes payloads, .deliver payloads ∉ (step core (.localBroadcast bytes)).2)
    (cfg : DriverCfg) (store : σ) (seed : PromoteSeed) :
    (∀ r : Replica σ, Installed cfg.id r →
      ((∀ inputs, r.dedup.FreshFor cfg.id (assignedIds (harness.run ⟨r, ∅⟩ inputs).2)) ↔
        r.dedup.Unused cfg.id) ∧
      ∀ inputs, Decided cfg.id r.dedup (ReplicaNode.trace ⟨r, ∅⟩ inputs)) ∧
    ((∀ inputs, seed.dedup.FreshFor cfg.id
        (assignedIn (driverLoop cfg store (some seed) inputs).2)) ↔
      seed.dedup.Unused cfg.id) ∧
    ∀ inputs, Decided cfg.id seed.dedup (driverLoop cfg store (some seed) inputs).2 := by
  refine ⟨fun r installed => installed_decided encodes quiet installed, ⟨?_, ?_⟩, ?_⟩
  · intro fresh requestId
    obtain ⟨inputs, assigned⟩ := driverLoop_assigns encodes cfg store (some seed) requestId
    exact fresh inputs requestId assigned
  · exact fun unused inputs requestId _ => unused requestId
  · exact fun inputs => (promoted_followed cfg store seed inputs).decided

end Install

end Ids

/-! ### A node that wrote before it crashed -/

section Sample

open scoped LoopbackRing

def oldWrite : WriteOp := WriteOp.new 0 0 (LoopbackRing.set "k" "old")

def newWrite : WriteOp := WriteOp.new 0 0 (LoopbackRing.set "k" "new")

def survivor : DriverState MemStore :=
  (driverLoop LoopbackRing.plainSecond MemStore.new none
    [.train { issuer := 0, payloads := LoopbackRing.payloads [oldWrite] }]).1

def rejoined : Replica MemStore :=
  ((Replica.new 0 .totalOrder MemStore.new).applyStateTransfer (survivor.serveStateTransfer 0)).2

def rejoinInputs : List NodeInput :=
  [.command ⟨0, 0⟩ newWrite.argv 7,
    .train { issuer := 1, payloads := LoopbackRing.payloads [newWrite] }]

def strangerSurvivor : DriverState MemStore :=
  (driverLoop LoopbackRing.plainSecond MemStore.new none
    [.train { issuer := 1, payloads := LoopbackRing.payloads [foreignDel] }]).1

def newcomer : Replica MemStore :=
  ((Replica.new 0 .totalOrder MemStore.new).applyStateTransfer
    (strangerSurvivor.serveStateTransfer 0)).2

theorem newcomer_unused : newcomer.dedup.Unused 0 := by
  intro requestId
  have same : newcomer.dedup = (WriteDedup.new.firstSeen 1 0).2 := by rfl
  rw [same, Bool.eq_false_iff]
  intro dup
  rcases (WriteDedup.new.isDup_firstSeen 1 0 0 requestId).mp dup with own | old
  · cases own
  · rw [WriteDedup.isDup_new] at old
    cases old

theorem newcomer_trace : ReplicaNode.trace ⟨newcomer, ∅⟩ rejoinInputs =
    [.request 7, .broadcast newWrite 7,
      .forward { issuer := 1, payloads := LoopbackRing.payloads [newWrite] },
      .delivered newWrite, .applied newWrite .ok, .answer 7 .ok] := by
  rfl

theorem rejoined_trace : ReplicaNode.trace ⟨rejoined, ∅⟩ rejoinInputs =
    [.request 7, .broadcast newWrite 7,
      .forward { issuer := 1, payloads := LoopbackRing.payloads [newWrite] },
      .delivered newWrite] := by
  rfl

/-- The newcomer keeps its write and the node that wrote before loses it. -/
theorem rejoin_ids_fresh_iff_both :
    WritesKept (ReplicaNode.trace ⟨newcomer, ∅⟩ rejoinInputs) ∧
      ¬WritesKept (ReplicaNode.trace ⟨rejoined, ∅⟩ rejoinInputs) := by
  have decided := (rejoin_ids_fresh_iff (fun _ => ⟨_, rfl⟩) (fun _ _ _ => List.not_mem_nil)
    LoopbackRing.plainFirst MemStore.new
    { dedup := newcomer.dedup
      deliveredLog := newcomer.deliveredLog
      protocol := exportState newcomer.core
      view := { installedView := 0, dead := [] } }).1
  constructor
  · have runs := (decided newcomer (Installed.transfer .totalOrder MemStore.new _)).2 rejoinInputs
    apply runs.unused newcomer_unused
    rw [newcomer_trace]
    apply Explained.of_from Explained.nil
    simp [Library.ExplainedFrom, Admissible, LoopbackRing.plainFirst, LoopbackRing.plainCfg]
  · have runs := (decided rejoined (Installed.transfer .totalOrder MemStore.new _)).2 rejoinInputs
    rw [rejoined_trace] at runs ⊢
    rw [runs.kept_iff]
    · intro free
      have unseen := free.unrecorded newWrite 7 (by simp) (by simp)
      revert unseen
      decide
    · apply Explained.of_from Explained.nil
      simp [Library.ExplainedFrom, FreshChannel]

/-- The first write after the rejoin gets the id of the write before the crash.
The replica drops it as a duplicate and its client waits for ever; a promoted
driver assigns the same id. -/
theorem rejoin_reuses_request_id :
    rejoined.dedup.isDup 0 0 = true ∧
      assignedIds (harness.run ⟨rejoined, ∅⟩ rejoinInputs).2 = [0] ∧
      ¬rejoined.dedup.FreshFor 0 (assignedIds (harness.run ⟨rejoined, ∅⟩ rejoinInputs).2) ∧
      (harness.run ⟨rejoined, ∅⟩ rejoinInputs).1.replica.store = rejoined.store ∧
      (harness.run ⟨rejoined, ∅⟩ rejoinInputs).2.flatMap Observed.answers = [] ∧
      (harness.run ⟨rejoined, ∅⟩ rejoinInputs).1.waiting.toList = [(0, 7)] ∧
      ∃ seed, (finalSnapshotForPromotion [some (survivor.serveStateTransfer 0)]
          ⟨MemStore.new, WriteDedup.new, DeliveredLog.default⟩).1 = some seed ∧
        ¬seed.dedup.FreshFor 0 (assignedIn (driverLoop LoopbackRing.plainFirst
          survivor.store (some seed)
          [.request { now := ⟨0, 0⟩, argv := newWrite.argv, reply := 7 }]).2) := by
  have dup : rejoined.dedup.isDup 0 0 = true := by decide
  have assigned : assignedIds (harness.run ⟨rejoined, ∅⟩ rejoinInputs).2 = [0] := by rfl
  refine ⟨dup, assigned, ?_, by rfl, by rfl, by rfl, ?_⟩
  · intro fresh
    have unseen := fresh 0 (by rw [assigned]; exact List.mem_cons_self)
    rw [dup] at unseen
    cases unseen
  · refine ⟨_, rfl, ?_⟩
    intro fresh
    have unseen := fresh 0 (by decide)
    revert unseen
    decide

end Sample

end TrainsValkey
