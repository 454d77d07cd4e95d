import TrainsValkey.LoopbackRing
import TrainsValkey.WriteFates

/-
Which reply a client gets, and when.

The environment of a driver opens a fresh channel for each request and hands it
an operation of its own origin only after the driver broadcast that operation.
Under these two conditions on the trace the pending requests are the assigned
ids that were not applied yet, every client is answered at most once, and a
broadcast request is answered by the first delivery of its own operation.

The driver may start with the deduplication state of a survivor, `base`, as
long as it has no entry for the driver's own origin.
-/

set_option autoImplicit false

namespace TrainsValkey

open Std (ExtTreeMap)
open Trains
open Library (Action Explained replay)
open Library.Action (Keeps)

section Replies

variable [Trains] {σ : Type} [RedisStore σ]

/-! ### What a trace says -/

def appliedOps (trace : List Event) : List WriteOp :=
  trace.filterMap (fun event =>
    match event with
    | .applied op _ => some op
    | _ => none)

theorem appliedOps_append (first second : List Event) :
    appliedOps (first ++ second) = appliedOps first ++ appliedOps second :=
  List.filterMap_append

theorem appliedOps_quiet (trace : List Event) {event : Event} (isQuiet : event.isQuiet = true) :
    appliedOps (trace ++ [event]) = appliedOps trace := by
  rw [appliedOps_append]
  cases event <;> first | exact List.append_nil _ | cases isQuiet

def Event.answers (client : Sender) : Event → Bool
  | .answer other _ => other == client
  | _ => false

/-- What the environment may do after `before`. -/
def Admissible (id : ProcId) (before : List Event) : Event → Prop
  | .request client => .request client ∉ before
  | .delivered op => op.origin = id → ∃ client, .broadcast op client ∈ before
  | _ => True

/-- Why the driver does what it does after `before`. -/
def Justified (start : σ) (base : WriteDedup) (before : List Event) : Event → Prop
  | .broadcast _ client => Unserved client before
  | .applied op result =>
      ∃ earlier, before = earlier ++ [.delivered op] ∧ FirstDelivery base earlier op ∧
        result = (op.applyTo (replay applyOp start (appliedOps earlier))).1
  | .answer client reply =>
      (∀ other, .answer client other ∉ before) ∧
        ((∀ op, .broadcast op client ∉ before) ∨
          ∃ earlier op result, before = earlier ++ [.delivered op, .applied op result] ∧
            .broadcast op client ∈ earlier ∧ reply = op.clientReply.getD result)
  | _ => True

theorem Admissible.freshChannel {id : ProcId} {before : List Event} {event : Event}
    (admissible : Admissible id before event) : FreshChannel before event := by
  cases event with
  | request client => exact admissible
  | _ => exact True.intro

theorem Justified.caused {start : σ} {base : WriteDedup} {before : List Event} {event : Event}
    (justified : Justified start base before event) : Caused base before event := by
  cases event with
  | broadcast op client => exact justified
  | applied op result =>
      obtain ⟨earlier, split, first, _⟩ := justified
      exact ⟨earlier, split, first⟩
  | answer client reply =>
      rcases justified.2 with unsent | ⟨earlier, op, result, split, sent, replied⟩
      · exact Or.inl unsent
      · exact Or.inr ⟨earlier, op, op, result, split, sent, rfl, replied⟩
  | _ => exact True.intro

section Trace

variable {start : σ} {base : WriteDedup} {trace : List Event}

theorem countP_answers_le_one (explained : Explained (Justified start base) trace)
    (client : Sender) : trace.countP (Event.answers client) ≤ 1 := by
  induction explained with
  | nil => exact Nat.zero_le 1
  | @snoc earlier event explained here ih =>
      rw [List.countP_append, List.countP_singleton]
      cases answers : Event.answers client event with
      | false => simpa using ih
      | true =>
          cases event with
          | answer other reply =>
              have same : other = client := by simpa [Event.answers] using answers
              subst same
              have unanswered : earlier.countP (Event.answers other) = 0 := by
                rw [List.countP_eq_zero]
                intro event member
                cases event with
                | answer third said =>
                    intro answered
                    have same : third = other := by simpa [Event.answers] using answered
                    subst same
                    exact here.1 said member
                | _ => exact Bool.false_ne_true
              rw [unanswered]
              exact Nat.le_refl 1
          | _ => cases answers

theorem answer_follows_apply (explained : Explained (Justified start base) trace)
    {op : WriteOp} {client : Sender} {reply : Reply} {before after : List Event}
    (sent : .broadcast op client ∈ trace)
    (here : trace = before ++ .answer client reply :: after) :
    ∃ earlier result, before = earlier ++ [.delivered op, .applied op result] ∧
      FirstDelivery base earlier op ∧
      result = (op.applyTo (replay applyOp start (appliedOps earlier))).1 ∧
      reply = op.clientReply.getD result := by
  subst here
  rcases explained.justifies.2 with unsent | ⟨earlier, other, result, rfl, otherSent, replied⟩
  · exact absurd (broadcast_before_answer (explained.mono Justified.caused) sent) (unsent op)
  · have same : op = other :=
      broadcast_unique (explained.mono Justified.caused) sent (by simp [otherSent])
    subst same
    have ran : Explained (Justified start base)
        ((earlier ++ [.delivered op]) ++ .applied op result :: .answer client reply :: after) := by
      simpa using explained
    obtain ⟨prior, split, first, computed⟩ := ran.justifies
    obtain ⟨rfl, _⟩ := List.append_inj' split rfl
    exact ⟨earlier, result, rfl, first, computed, replied⟩

end Trace

/-! ### What every admissible run keeps -/

structure Tracked (id : ProcId) (start : σ) (base : WriteDedup) (st : DriverState σ)
    (trace : List Event) : Prop extends Followed id base st trace where
  explained : Explained (Justified start base) trace
  store : st.store = replay applyOp start (appliedOps trace)
  waiting : ∀ requestId : Nat, (∃ client, st.pending[requestId]? = some client) ↔
    requestId < st.nextRid ∧ st.dedup.isDup id requestId = false
  unanswered : ∀ (requestId : Nat) client, st.pending[requestId]? = some client →
    ∀ reply, .answer client reply ∉ trace

namespace Tracked

variable {id : ProcId} {start : σ} {base : WriteDedup} {st : DriverState σ}
  {trace : List Event}

theorem initial (sameDedup : st.dedup = base) (sameStore : st.store = start)
    (noPending : st.pending = ∅) (noRid : st.nextRid = 0) :
    Tracked id start base st [] := by
  constructor
  · exact Followed.initial sameDedup noPending
  · exact Explained.nil
  · exact sameStore
  · simp [noPending, noRid]
  · simp

theorem same {after : DriverState σ} (tracked : Tracked id start base st trace)
    (same : SameClients st after) : Tracked id start base after trace := by
  have followed := tracked.toFollowed.same same
  obtain ⟨sameParts, samePending, sameRid⟩ := same
  have sameStore : after.store = st.store := congrArg Parts.store sameParts
  have sameDedup : after.dedup = st.dedup := congrArg Parts.dedup sameParts
  constructor
  · exact followed
  · exact tracked.explained
  · rw [sameStore]
    exact tracked.store
  · rw [samePending, sameRid, sameDedup]
    exact tracked.waiting
  · rw [samePending]
    exact tracked.unanswered

theorem quiet {event : Event} (tracked : Tracked id start base st trace)
    (isQuiet : event.isQuiet = true) : Tracked id start base st (trace ++ [event]) := by
  constructor
  · exact tracked.toFollowed.quiet isQuiet
  · refine Explained.snoc tracked.explained ?_
    cases event <;> first | exact True.intro | cases isQuiet
  · rw [appliedOps_quiet trace isQuiet]
    exact tracked.store
  · exact tracked.waiting
  · simp only [mem_quiet isQuiet (.answer _ _) rfl]
    exact tracked.unanswered

theorem again {op : WriteOp} (tracked : Tracked id start base st trace)
    (dup : st.dedup.isDup op.origin op.requestId = true) :
    Tracked id start base st (trace ++ [.delivered op]) := by
  constructor
  · exact tracked.toFollowed.again dup
  · exact Explained.snoc tracked.explained True.intro
  · rw [appliedOps_append]
    exact tracked.store.trans (congrArg _ (List.append_nil _).symm)
  · exact tracked.waiting
  · simpa using tracked.unanswered

theorem first {op : WriteOp} {after : DriverState σ} (tracked : Tracked id start base st trace)
    (fresh : st.dedup.isDup op.origin op.requestId = false)
    (parts : after.toParts = st.toParts.deliver op) (sameRid : after.nextRid = st.nextRid)
    (pending : ∀ (requestId : Nat) client, after.pending[requestId]? = some client ↔
      st.pending[requestId]? = some client ∧ op.ident ≠ (id, requestId)) :
    Tracked id start base after
      (trace ++ [.delivered op] ++ [.applied op (op.applyTo st.store).1]) := by
  have sameStore : after.store = applyOp st.store op := by
    have delivered := congrArg Parts.store parts
    rw [Parts.deliver_fresh fresh] at delivered
    exact delivered
  constructor
  · exact tracked.toFollowed.first fresh parts sameRid
      (fun requestId client found => ((pending requestId client).mp found).1) _
  · refine Explained.snoc (Explained.snoc tracked.explained True.intro) ?_
    refine ⟨trace, rfl, tracked.toFollowed.firstDelivery fresh, ?_⟩
    rw [tracked.store]
  · rw [appliedOps_append, appliedOps_append, Library.replay_append, Library.replay_append,
      sameStore, tracked.store]
    rfl
  · intro requestId
    have unmarked : after.dedup.isDup id requestId = false ↔
        op.ident ≠ (id, requestId) ∧ st.dedup.isDup id requestId = false := by
      rw [← Bool.not_eq_true, ← Bool.not_eq_true, isDup_delivered parts, not_or, eq_comm]
    simp only [pending, sameRid, exists_and_right]
    rw [tracked.waiting, unmarked, and_assoc, and_comm (b := op.ident ≠ (id, requestId))]
  · intro requestId client found reply
    simpa using tracked.unanswered requestId client ((pending _ _).mp found).1 reply

theorem asked (tracked : Tracked id start base st trace) (client : Sender) :
    Tracked id start base st (trace ++ [.request client]) := by
  constructor
  · exact tracked.toFollowed.asked client
  · exact Explained.snoc tracked.explained True.intro
  · rw [appliedOps_append]
    exact tracked.store.trans (congrArg _ (List.append_nil _).symm)
  · exact tracked.waiting
  · simpa using tracked.unanswered

theorem answered {client : Sender} {reply : Reply} (tracked : Tracked id start base st trace)
    (why : Justified start base trace (.answer client reply))
    (known : .request client ∈ trace)
    (others : ∀ requestId : Nat, st.pending[requestId]? ≠ some client) :
    Tracked id start base st (trace ++ [.answer client reply]) := by
  constructor
  · exact tracked.toFollowed.answered why.caused known
  · exact Explained.snoc tracked.explained why
  · rw [appliedOps_append]
    exact tracked.store.trans (congrArg _ (List.append_nil _).symm)
  · exact tracked.waiting
  · intro requestId waiter found said
    simp only [List.mem_append, List.mem_singleton, Event.answer.injEq, not_or, not_and]
    refine ⟨tracked.unanswered requestId waiter found said, ?_⟩
    intro same
    subst same
    exact absurd found (others requestId)

theorem broadcast_of_delivered (admissible : Explained (Admissible id) trace) {op : WriteOp}
    (delivered : .delivered op ∈ trace) (own : op.origin = id) :
    ∃ client, .broadcast op client ∈ trace := by
  obtain ⟨before, after, rfl⟩ := List.append_of_mem delivered
  obtain ⟨client, sent⟩ := admissible.justifies own
  exact ⟨client, List.mem_append_left _ sent⟩

theorem sent {op : WriteOp} {client : Sender} {after : DriverState σ}
    (tracked : Tracked id start base st trace) (admissible : Explained (Admissible id) trace)
    (unused : ∀ requestId, base.isDup id requestId = false)
    (known : .request client ∈ trace) (unserved : Unserved client trace)
    (own : op.origin = id) (next : op.requestId = st.nextRid)
    (parts : after.toParts = st.toParts) (nextRid : after.nextRid = st.nextRid + 1)
    (pending : after.pending = st.pending.insert st.nextRid client) :
    Tracked id start base after (trace ++ [.broadcast op client]) := by
  have sameStore : after.store = st.store := congrArg Parts.store parts
  have sameDedup : after.dedup = st.dedup := congrArg Parts.dedup parts
  have notDup : st.dedup.isDup id st.nextRid = false := by
    rw [Bool.eq_false_iff]
    intro dup
    rcases (tracked.seen id st.nextRid).mp dup with old | ⟨other, delivered, same⟩
    · rw [unused] at old
      cases old
    · obtain ⟨otherOrigin, otherId⟩ := Prod.mk.inj same
      obtain ⟨waiter, earlier⟩ := broadcast_of_delivered admissible delivered otherOrigin
      have below := (tracked.assigned other waiter earlier).2
      omega
  constructor
  · exact tracked.toFollowed.sent known unserved own next parts nextRid pending
  · exact Explained.snoc tracked.explained unserved
  · rw [appliedOps_append, sameStore]
    exact tracked.store.trans (congrArg _ (List.append_nil _).symm)
  · intro requestId
    simp only [pending, nextRid, sameDedup, ExtTreeMap.getElem?_insert,
      Std.LawfulEqOrd.compare_eq_iff_eq]
    by_cases here : st.nextRid = requestId
    · subst here
      simp [notDup]
    · rw [if_neg here, tracked.waiting]
      constructor
      · rintro ⟨bound, fresh⟩
        exact ⟨by omega, fresh⟩
      · rintro ⟨bound, fresh⟩
        exact ⟨by omega, fresh⟩
  · intro requestId waiter found reply
    simp only [List.mem_append, List.mem_singleton, reduceCtorEq, or_false]
    simp only [pending, ExtTreeMap.getElem?_insert, Std.LawfulEqOrd.compare_eq_iff_eq] at found
    by_cases here : st.nextRid = requestId
    · rw [if_pos here] at found
      cases found
      exact unserved.1 reply
    · rw [if_neg here] at found
      exact tracked.unanswered requestId waiter found reply

theorem woken {op : WriteOp} {client : Sender} (tracked : Tracked id start base st trace)
    (fresh : st.dedup.isDup op.origin op.requestId = false) (own : op.origin = id)
    (sent : .broadcast op client ∈ trace) (found : st.pending[op.requestId]? = some client) :
    Tracked id start base
      { st with
        toParts := st.toParts.deliver op
        pending := st.pending.erase op.requestId }
      (trace ++ [.delivered op] ++ [.applied op (op.applyTo st.store).1] ++
        [.answer client (op.clientReply.getD (op.applyTo st.store).1)]) := by
  have applied : Tracked id start base
      { st with
        toParts := st.toParts.deliver op
        pending := st.pending.erase op.requestId }
      (trace ++ [.delivered op] ++ [.applied op (op.applyTo st.store).1]) := by
    refine tracked.first fresh rfl rfl ?_
    intro requestId waiter
    simp only [ExtTreeMap.getElem?_erase, Std.LawfulEqOrd.compare_eq_iff_eq]
    by_cases here : op.requestId = requestId
    · simp [here, own, WriteOp.ident]
    · simp [here, WriteOp.ident]
  have unanswered := tracked.unanswered op.requestId client found
  refine applied.answered ⟨?_, Or.inr ⟨trace, op, _, by simp, sent, rfl⟩⟩ ?_ ?_
  · intro other
    simpa using unanswered other
  · simp [tracked.toFollowed.known sent]
  · -- another pending entry of this client would belong to the same operation
    intro requestId still
    simp only [ExtTreeMap.getElem?_erase, Std.LawfulEqOrd.compare_eq_iff_eq] at still
    split at still
    · cases still
    · rename_i apart
      obtain ⟨other, otherSent, same⟩ := tracked.waitingFor requestId client still
      have equal := broadcast_unique tracked.caused sent otherSent
      exact apart (equal ▸ same)

theorem refused {client : Sender} (tracked : Tracked id start base st trace)
    (fresh : .request client ∉ trace) (reply : Reply) :
    Tracked id start base st (trace ++ [.request client] ++ [.answer client reply]) := by
  obtain ⟨unanswered, unsent⟩ := tracked.requested client fresh
  refine (tracked.asked client).answered ⟨?_, Or.inl ?_⟩ (by simp) ?_
  · simpa using unanswered
  · simpa using unsent
  · intro requestId found
    obtain ⟨op, sent, _⟩ := tracked.waitingFor requestId client found
    exact unsent op sent

end Tracked

/-! ### Every turn of the driver keeps it -/

section Driver

variable {id : ProcId} {start : σ} {base : WriteDedup}

/-- What the driver guarantees as long as its environment plays its part. -/
def TrackedIfAdmissible (id : ProcId) (start : σ) (base : WriteDedup) (st : DriverState σ)
    (trace : List Event) : Prop :=
  Explained (Admissible id) trace → Tracked id start base st trace

theorem deliverOp_keeps (op : WriteOp) :
    Keeps (TrackedIfAdmissible id start base) (deliverOp id op) := by
  intro st trace held
  cases dup : st.dedup.isDup op.origin op.requestId with
  | true =>
      rw [deliverOp_dup dup]
      intro admissible
      exact (held (admissible.before [.delivered op])).again dup
  | false =>
      rw [deliverOp_fresh dup]
      unfold DriverState.waitingClient
      by_cases own : op.origin = id
      · rw [if_pos own]
        cases found : st.pending[op.requestId]? with
        | none =>
            intro admissible
            have tracked := held (admissible.before _)
            obtain ⟨client, sent⟩ := admissible.justifies own
            have assigned := (tracked.assigned op client sent).2
            rw [own] at dup
            obtain ⟨waiter, waiting⟩ := (tracked.waiting op.requestId).mpr ⟨assigned, dup⟩
            rw [found] at waiting
            cases waiting
        | some client =>
            intro admissible
            have tracked := held (admissible.before _)
            obtain ⟨waiter, sent⟩ := admissible.justifies own
            obtain ⟨other, otherSent, same⟩ := tracked.waitingFor op.requestId client found
            obtain ⟨rfl, rfl⟩ := tracked.unique op other waiter client sent otherSent same.symm
            have woken := tracked.woken dup own sent found
            simp only [List.append_assoc] at woken
            exact woken
      · rw [if_neg own]
        intro admissible
        have applied : Tracked id start base { st with toParts := st.toParts.deliver op }
            (trace ++ [.delivered op] ++ [.applied op (op.applyTo st.store).1]) := by
          refine (held (admissible.before _)).first dup rfl rfl ?_
          intro requestId client
          have foreign : op.ident ≠ (id, requestId) := fun same => own (Prod.mk.inj same).1
          simp [foreign]
        rw [List.append_assoc] at applied
        exact applied

theorem trackedProperty :
    ClientProperty id (TrackedIfAdmissible (σ := σ) id start base) where
  deliver := deliverOp_keeps
  silent held same admissible := (held admissible).same same
  quietEvent event held isQuiet admissible := (held (admissible.before [event])).quiet isQuiet

variable [Bincode WriteOp] [FloatArith]

theorem handleWriteRequest_keeps (unused : ∀ requestId, base.isDup id requestId = false)
    (req : WriteRequest) :
    Keeps (TrackedIfAdmissible (σ := σ) id start base) (handleWriteRequest id req) := by
  apply trackedProperty.writeRequest
  · intro st trace reply held admissible
    have refused := (held (admissible.before _)).refused admissible.justifies reply
    rw [List.append_assoc] at refused
    exact refused
  · intro st trace argv clientReply held
    rw [List.append_cons]
    intro admissible
    obtain ⟨withRequest, _⟩ := admissible.last
    obtain ⟨earlier, fresh⟩ := withRequest.last
    have tracked := held earlier
    have unserved := tracked.requested req.reply fresh
    refine (tracked.asked req.reply).sent withRequest unused (by simp) ?_
      (WriteOp.forRequest_origin _ _ _ _) (WriteOp.forRequest_requestId _ _ _ _) rfl rfl rfl
    simpa [Unserved] using unserved

variable [AlwaysSerializable DeliveredEntry] [AlwaysSerializable ReplicaSnapshot]

theorem coldStart_tracked (cfg : DriverCfg) (store : σ) (inputs : List DriverInput) :
    TrackedIfAdmissible cfg.id store WriteDedup.new (driverLoop cfg store none inputs).1
      (driverLoop cfg store none inputs).2 :=
  trackedProperty.driverLoop (handleWriteRequest_keeps (WriteDedup.isDup_new cfg.id)) store none
    (fun _ => Tracked.initial rfl rfl rfl rfl) inputs

theorem client_replies_matched (cfg : DriverCfg) (store : σ) (inputs : List DriverInput)
    (admissible : Explained (Admissible cfg.id) (driverLoop cfg store none inputs).2) :
    let st := (driverLoop cfg store none inputs).1
    let trace := (driverLoop cfg store none inputs).2
    (∀ requestId : Nat, requestId ∈ st.pending ↔
      requestId < st.nextRid ∧
        ¬∃ op result, .applied op result ∈ trace ∧ op.ident = (cfg.id, requestId)) ∧
    (∀ client, trace.countP (Event.answers client) ≤ 1) ∧
    (∀ op client reply before after, .broadcast op client ∈ trace →
      trace = before ++ .answer client reply :: after →
        ∃ earlier result, before = earlier ++ [.delivered op, .applied op result] ∧
          (∀ other, .delivered other ∈ earlier → other.ident ≠ op.ident) ∧
          result = (op.applyTo (replay applyOp store (appliedOps earlier))).1 ∧
          reply = op.clientReply.getD result) ∧
    st.store = replay applyOp store (appliedOps trace) := by
  have tracked := coldStart_tracked cfg store inputs admissible
  refine ⟨?_, countP_answers_le_one tracked.explained, ?_, tracked.store⟩
  · intro requestId
    have notRun : (driverLoop cfg store none inputs).1.dedup.isDup cfg.id requestId = false ↔
        ¬∃ op result, .applied op result ∈ (driverLoop cfg store none inputs).2 ∧
          op.ident = (cfg.id, requestId) := by
      rw [← Bool.not_eq_true]
      refine not_congr ((tracked.ran cfg.id requestId).trans ?_)
      simp only [WriteDedup.isDup_new, Bool.false_eq_true, false_or]
    rw [ExtTreeMap.mem_iff_isSome_getElem?, Option.isSome_iff_exists, ← notRun]
    exact tracked.waiting requestId
  · intro op client reply before after sent here
    obtain ⟨earlier, result, split, first, computed, replied⟩ :=
      answer_follows_apply tracked.explained sent here
    exact ⟨earlier, result, split, first.2, computed, replied⟩

end Driver

end Replies

/-! ### One write that comes back twice, among foreign and unreadable payloads -/

section Sample

open scoped LoopbackRing

def echoCfg : DriverCfg := LoopbackRing.plainFirst

def ownSet : WriteOp := WriteOp.new 0 0 (LoopbackRing.set "k" "v")

def foreignDel : WriteOp := WriteOp.new 1 0 [asBytes "DEL", asBytes "k"]

def echoInputs : List DriverInput :=
  [.request { now := ⟨0, 0⟩, argv := ownSet.argv, reply := 7 },
    .train { issuer := 1, payloads := LoopbackRing.payloads [foreignDel] },
    .train { issuer := 1, payloads := ⟨[]⟩ :: LoopbackRing.payloads [ownSet, ownSet] },
    .tick]

theorem echoInputs_trace :
    (driverLoop echoCfg MemStore.new none echoInputs).2 =
      [.request 7, .broadcast ownSet 7,
        .delivered foreignDel, .applied foreignDel (.integer 0),
        .forward { issuer := 1, payloads := LoopbackRing.payloads [ownSet] },
        .delivered ownSet, .applied ownSet .ok, .answer 7 .ok, .delivered ownSet,
        .forward { issuer := 1, payloads := [] }] := by
  rfl

theorem echoInputs_admissible :
    Explained (Admissible 0) (driverLoop echoCfg MemStore.new none echoInputs).2 := by
  rw [echoInputs_trace]
  apply Explained.of_from Explained.nil
  simp [Library.ExplainedFrom, Admissible, foreignDel, ownSet, WriteOp.new]

theorem client_replies_matched_echo :
    Explained (Admissible 0) (driverLoop echoCfg MemStore.new none echoInputs).2 ∧
      ∀ client, (driverLoop echoCfg MemStore.new none echoInputs).2.countP
        (Event.answers client) ≤ 1 :=
  ⟨echoInputs_admissible,
    (client_replies_matched echoCfg MemStore.new echoInputs echoInputs_admissible).2.1⟩

end Sample

end TrainsValkey
