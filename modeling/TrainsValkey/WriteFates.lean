import TrainsValkey.DriverTrace

/-
What becomes of the writes of a node that has been in the group before.

The ids of an incarnation may repeat the ids of an earlier one.  Whatever the
driver is handed, the operation that runs under an identity is the one that is
delivered first, unless the installed state records it.  So an incarnation keeps
its writes, and answers its clients by them, exactly when no older operation
takes the place of one.
-/

set_option autoImplicit false

namespace TrainsValkey

open Std (ExtTreeMap)
open Trains
open Library (Action Explained)
open Library.Action (Keeps)

section Fates

variable [Trains] {σ : Type}

/-! ### Where events come from -/

def Unserved (client : Sender) (before : List Event) : Prop :=
  (∀ reply, .answer client reply ∉ before) ∧ ∀ op, .broadcast op client ∉ before

def FirstDelivery (base : WriteDedup) (before : List Event) (op : WriteOp) : Prop :=
  base.isDup op.origin op.requestId = false ∧
    ∀ other, .delivered other ∈ before → other.ident ≠ op.ident

/-- Every client comes with a channel of its own. -/
def FreshChannel (before : List Event) : Event → Prop
  | .request client => .request client ∉ before
  | _ => True

/-- Where the events of a run come from, whatever the driver is handed. -/
def Caused (base : WriteDedup) (before : List Event) : Event → Prop
  | .broadcast _ client => Unserved client before
  | .applied op _ => ∃ earlier, before = earlier ++ [.delivered op] ∧ FirstDelivery base earlier op
  | .answer client reply =>
      (∀ op, .broadcast op client ∉ before) ∨
        ∃ earlier op sent result, before = earlier ++ [.delivered op, .applied op result] ∧
          .broadcast sent client ∈ earlier ∧ sent.ident = op.ident ∧
            reply = op.clientReply.getD result
  | _ => True

section Trace

variable {base : WriteDedup} {trace : List Event}

theorem broadcast_unique (caused : Explained (Caused base) trace)
    {op other : WriteOp} {client : Sender} (first : .broadcast op client ∈ trace)
    (second : .broadcast other client ∈ trace) : op = other := by
  induction caused with
  | nil => cases first
  | snoc earlier here ih =>
      simp only [List.mem_append, List.mem_singleton] at first second
      rcases first with first | rfl
      · rcases second with second | rfl
        · exact ih first second
        · exact absurd first (here.2 op)
      · rcases second with second | same
        · exact absurd second (here.2 other)
        · cases same
          rfl

theorem broadcast_before_answer {before after : List Event} {op : WriteOp} {client : Sender}
    {reply : Reply} (caused : Explained (Caused base) (before ++ .answer client reply :: after))
    (sent : .broadcast op client ∈ before ++ .answer client reply :: after) :
    .broadcast op client ∈ before := by
  rcases List.mem_append.mp sent with member | member
  · exact member
  · rcases List.mem_cons.mp member with same | later
    · cases same
    · obtain ⟨between, rest, rfl⟩ := List.append_of_mem later
      rw [← List.cons_append, ← List.append_assoc] at caused
      have unserved := caused.justifies.1 reply
      simp at unserved

theorem firstDelivery_unique {before after otherBefore otherAfter : List Event}
    {op other : WriteOp} (split : trace = before ++ .delivered op :: after)
    (otherSplit : trace = otherBefore ++ .delivered other :: otherAfter)
    (first : FirstDelivery base before op) (otherFirst : FirstDelivery base otherBefore other)
    (same : op.ident = other.ident) : op = other := by
  rw [split, List.append_eq_append_iff] at otherSplit
  rcases otherSplit with ⟨between, rfl, here⟩ | ⟨between, rfl, here⟩
  · cases between with
    | nil =>
        cases here
        rfl
    | cons event rest =>
        obtain ⟨rfl, _⟩ := List.cons.inj here
        exact absurd same (otherFirst.2 op (by simp))
  · cases between with
    | nil =>
        cases here
        rfl
    | cons event rest =>
        obtain ⟨rfl, _⟩ := List.cons.inj here
        exact absurd same.symm (first.2 other (by simp))

theorem first_of_applied (caused : Explained (Caused base) trace) {op : WriteOp} {result : Reply}
    (applied : .applied op result ∈ trace) :
    ∃ before after, trace = before ++ .delivered op :: after ∧ FirstDelivery base before op := by
  obtain ⟨before, after, rfl⟩ := List.append_of_mem applied
  obtain ⟨earlier, rfl, first⟩ := caused.justifies
  exact ⟨earlier, .applied op result :: after, by simp, first⟩

end Trace

/-! ### What every run keeps -/

structure Followed (id : ProcId) (base : WriteDedup) (st : DriverState σ) (trace : List Event) :
    Prop where
  caused : Explained (Caused base) trace
  seen : ∀ origin requestId, st.dedup.isDup origin requestId = true ↔
    base.isDup origin requestId = true ∨
      ∃ op, .delivered op ∈ trace ∧ op.ident = (origin, requestId)
  ran : ∀ origin requestId, st.dedup.isDup origin requestId = true ↔
    base.isDup origin requestId = true ∨
      ∃ op result, .applied op result ∈ trace ∧ op.ident = (origin, requestId)
  assigned : ∀ op client, .broadcast op client ∈ trace →
    op.origin = id ∧ op.requestId < st.nextRid
  unique : ∀ op other client otherClient, .broadcast op client ∈ trace →
    .broadcast other otherClient ∈ trace → op.requestId = other.requestId →
      op = other ∧ client = otherClient
  waitingFor : ∀ (requestId : Nat) client, st.pending[requestId]? = some client →
    ∃ op, .broadcast op client ∈ trace ∧ op.requestId = requestId
  requested : ∀ client, .request client ∉ trace → Unserved client trace

theorem mem_quiet {trace : List Event} {event : Event} (isQuiet : event.isQuiet = true)
    (other : Event) (loud : other.isQuiet = false) : other ∈ trace ++ [event] ↔ other ∈ trace := by
  rw [List.mem_append, List.mem_singleton]
  constructor
  · rintro (earlier | rfl)
    · exact earlier
    · rw [isQuiet] at loud
      cases loud
  · exact Or.inl

theorem isDup_delivered [RedisStore σ] {op : WriteOp} {st after : DriverState σ}
    (parts : after.toParts = st.toParts.deliver op) (origin : ProcId) (requestId : Nat) :
    after.dedup.isDup origin requestId = true ↔
      (origin, requestId) = op.ident ∨ st.dedup.isDup origin requestId = true := by
  have delivered := congrArg Parts.dedup parts
  rw [delivered]
  exact st.toParts.deliver_isDup op origin requestId

namespace Followed

variable {id : ProcId} {base : WriteDedup} {st : DriverState σ} {trace : List Event}

theorem initial (sameDedup : st.dedup = base) (noPending : st.pending = ∅) :
    Followed id base st [] := by
  constructor
  · exact Explained.nil
  · simp [sameDedup]
  · simp [sameDedup]
  · simp
  · simp
  · simp [noPending]
  · simp [Unserved]

theorem same {after : DriverState σ} (followed : Followed id base st trace)
    (same : SameClients st after) : Followed id base after trace := by
  obtain ⟨sameParts, samePending, sameRid⟩ := same
  have sameDedup : after.dedup = st.dedup := congrArg Parts.dedup sameParts
  constructor
  · exact followed.caused
  · rw [sameDedup]
    exact followed.seen
  · rw [sameDedup]
    exact followed.ran
  · rw [sameRid]
    exact followed.assigned
  · exact followed.unique
  · rw [samePending]
    exact followed.waitingFor
  · exact followed.requested

theorem quiet {event : Event} (followed : Followed id base st trace)
    (isQuiet : event.isQuiet = true) : Followed id base st (trace ++ [event]) := by
  have member : ∀ other : Event, other.isQuiet = false →
      (other ∈ trace ++ [event] ↔ other ∈ trace) := mem_quiet isQuiet
  constructor
  · refine Explained.snoc followed.caused ?_
    cases event <;> first | exact True.intro | cases isQuiet
  · simp only [member (.delivered _) rfl]
    exact followed.seen
  · simp only [member (.applied _ _) rfl]
    exact followed.ran
  · simp only [member (.broadcast _ _) rfl]
    exact followed.assigned
  · simp only [member (.broadcast _ _) rfl]
    exact followed.unique
  · simp only [member (.broadcast _ _) rfl]
    exact followed.waitingFor
  · simp only [Unserved, member (.request _) rfl, member (.answer _ _) rfl,
      member (.broadcast _ _) rfl]
    exact followed.requested

theorem again {op : WriteOp} (followed : Followed id base st trace)
    (dup : st.dedup.isDup op.origin op.requestId = true) :
    Followed id base st (trace ++ [.delivered op]) := by
  constructor
  · exact Explained.snoc followed.caused True.intro
  · intro origin requestId
    rw [followed.seen]
    constructor
    · rintro (old | ⟨other, delivered, same⟩)
      · exact Or.inl old
      · exact Or.inr ⟨other, List.mem_append_left _ delivered, same⟩
    · rintro (old | ⟨other, delivered, same⟩)
      · exact Or.inl old
      · simp only [List.mem_append, List.mem_singleton, Event.delivered.injEq] at delivered
        rcases delivered with earlier | rfl
        · exact Or.inr ⟨other, earlier, same⟩
        · cases same
          exact (followed.seen _ _).mp dup
  · simpa using followed.ran
  · simpa using followed.assigned
  · simpa using followed.unique
  · simpa using followed.waitingFor
  · simpa [Unserved] using followed.requested

theorem firstDelivery {op : WriteOp} (followed : Followed id base st trace)
    (fresh : st.dedup.isDup op.origin op.requestId = false) : FirstDelivery base trace op := by
  have unseen := mt (followed.seen op.origin op.requestId).mpr
    (by rw [fresh]; exact Bool.false_ne_true)
  constructor
  · rw [Bool.eq_false_iff]
    exact fun old => unseen (Or.inl old)
  · exact fun other delivered same => unseen (Or.inr ⟨other, delivered, same⟩)

theorem first [RedisStore σ] {op : WriteOp} {after : DriverState σ}
    (followed : Followed id base st trace)
    (fresh : st.dedup.isDup op.origin op.requestId = false)
    (parts : after.toParts = st.toParts.deliver op) (sameRid : after.nextRid = st.nextRid)
    (pending : ∀ (requestId : Nat) client, after.pending[requestId]? = some client →
      st.pending[requestId]? = some client) (result : Reply) :
    Followed id base after (trace ++ [.delivered op] ++ [.applied op result]) := by
  have recorded := isDup_delivered parts
  constructor
  · refine Explained.snoc (Explained.snoc followed.caused True.intro) ?_
    exact ⟨trace, rfl, followed.firstDelivery fresh⟩
  · intro origin requestId
    rw [recorded, followed.seen]
    constructor
    · rintro (same | old | ⟨other, delivered, same⟩)
      · exact Or.inr ⟨op, by simp, same.symm⟩
      · exact Or.inl old
      · exact Or.inr ⟨other, by simp [delivered], same⟩
    · rintro (old | ⟨other, delivered, same⟩)
      · exact Or.inr (Or.inl old)
      · simp only [List.mem_append, List.mem_singleton, Event.delivered.injEq, reduceCtorEq,
          or_false] at delivered
        rcases delivered with earlier | rfl
        · exact Or.inr (Or.inr ⟨other, earlier, same⟩)
        · exact Or.inl same.symm
  · intro origin requestId
    rw [recorded, followed.ran]
    constructor
    · rintro (same | old | ⟨other, result, applied, same⟩)
      · exact Or.inr ⟨op, result, by simp, same.symm⟩
      · exact Or.inl old
      · exact Or.inr ⟨other, result, by simp [applied], same⟩
    · rintro (old | ⟨other, result, applied, same⟩)
      · exact Or.inr (Or.inl old)
      · simp only [List.mem_append, List.mem_singleton, Event.applied.injEq, reduceCtorEq,
          or_false] at applied
        rcases applied with earlier | ⟨rfl, rfl⟩
        · exact Or.inr (Or.inr ⟨other, result, earlier, same⟩)
        · exact Or.inl same.symm
  · simpa [sameRid] using followed.assigned
  · simpa using followed.unique
  · intro requestId client found
    obtain ⟨waiter, sent, same⟩ := followed.waitingFor requestId client (pending _ _ found)
    exact ⟨waiter, by simp [sent], same⟩
  · simpa [Unserved] using followed.requested

theorem asked (followed : Followed id base st trace) (client : Sender) :
    Followed id base st (trace ++ [.request client]) := by
  constructor
  · exact Explained.snoc followed.caused True.intro
  · simpa using followed.seen
  · simpa using followed.ran
  · simpa using followed.assigned
  · simpa using followed.unique
  · simpa using followed.waitingFor
  · intro other absent
    have earlier : .request other ∉ trace :=
      fun member => absent (List.mem_append_left _ member)
    simpa [Unserved] using followed.requested other earlier

theorem answered {client : Sender} {reply : Reply} (followed : Followed id base st trace)
    (why : Caused base trace (.answer client reply)) (known : .request client ∈ trace) :
    Followed id base st (trace ++ [.answer client reply]) := by
  constructor
  · exact Explained.snoc followed.caused why
  · simpa using followed.seen
  · simpa using followed.ran
  · simpa using followed.assigned
  · simpa using followed.unique
  · simpa using followed.waitingFor
  · intro other absent
    simp only [List.mem_append, List.mem_singleton, reduceCtorEq, or_false] at absent
    obtain ⟨unanswered, unsent⟩ := followed.requested other absent
    constructor
    · intro said
      simp only [List.mem_append, List.mem_singleton, Event.answer.injEq, not_or, not_and]
      refine ⟨unanswered said, ?_⟩
      rintro rfl
      exact absurd known absent
    · simpa using unsent

theorem sent {op : WriteOp} {client : Sender} {after : DriverState σ}
    (followed : Followed id base st trace) (known : .request client ∈ trace)
    (unserved : Unserved client trace) (own : op.origin = id) (next : op.requestId = st.nextRid)
    (parts : after.toParts = st.toParts) (nextRid : after.nextRid = st.nextRid + 1)
    (pending : after.pending = st.pending.insert st.nextRid client) :
    Followed id base after (trace ++ [.broadcast op client]) := by
  have sameDedup : after.dedup = st.dedup := congrArg Parts.dedup parts
  have below : ∀ other waiter, .broadcast other waiter ∈ trace →
      other.requestId < st.nextRid :=
    fun other waiter earlier => (followed.assigned other waiter earlier).2
  constructor
  · exact Explained.snoc followed.caused unserved
  · simpa [sameDedup] using followed.seen
  · simpa [sameDedup] using followed.ran
  · intro other waiter member
    rw [nextRid]
    simp only [List.mem_append, List.mem_singleton, Event.broadcast.injEq] at member
    rcases member with earlier | ⟨rfl, rfl⟩
    · exact ⟨(followed.assigned other waiter earlier).1, Nat.lt_succ_of_lt (below _ _ earlier)⟩
    · exact ⟨own, by omega⟩
  · intro first second firstClient secondClient firstSent secondSent same
    simp only [List.mem_append, List.mem_singleton, Event.broadcast.injEq] at firstSent secondSent
    rcases firstSent with earlier | ⟨rfl, rfl⟩
    · rcases secondSent with otherEarlier | ⟨rfl, rfl⟩
      · exact followed.unique _ _ _ _ earlier otherEarlier same
      · have := below _ _ earlier
        omega
    · rcases secondSent with otherEarlier | ⟨rfl, rfl⟩
      · have := below _ _ otherEarlier
        omega
      · exact ⟨rfl, rfl⟩
  · intro requestId waiter found
    simp only [pending, ExtTreeMap.getElem?_insert, Std.LawfulEqOrd.compare_eq_iff_eq] at found
    by_cases here : st.nextRid = requestId
    · rw [if_pos here] at found
      cases found
      exact ⟨op, by simp, next.trans here⟩
    · rw [if_neg here] at found
      obtain ⟨other, earlier, same⟩ := followed.waitingFor requestId waiter found
      exact ⟨other, by simp [earlier], same⟩
  · intro other absent
    simp only [List.mem_append, List.mem_singleton, reduceCtorEq, or_false] at absent
    obtain ⟨unanswered, unsent⟩ := followed.requested other absent
    constructor
    · simpa using unanswered
    · intro another
      simp only [List.mem_append, List.mem_singleton, Event.broadcast.injEq, not_or, not_and]
      refine ⟨unsent another, ?_⟩
      rintro rfl rfl
      exact absurd known absent

theorem known {op : WriteOp} {client : Sender} (followed : Followed id base st trace)
    (sent : .broadcast op client ∈ trace) : .request client ∈ trace := by
  by_contra absent
  exact (followed.requested client absent).2 op sent

end Followed

/-! ### Writes and what takes their place -/

/-- A write of the run that comes back has run, nothing else has run under its
identity, and its client is answered by its run only. -/
structure WritesKept (trace : List Event) : Prop where
  applied : ∀ op client, .broadcast op client ∈ trace → .delivered op ∈ trace →
    ∃ result, .applied op result ∈ trace
  itself : ∀ sent client op result, .broadcast sent client ∈ trace → .applied op result ∈ trace →
    op.ident = sent.ident → op = sent
  answered : ∀ op client reply before after, .broadcast op client ∈ trace →
    trace = before ++ .answer client reply :: after →
      ∃ earlier result, before = earlier ++ [.delivered op, .applied op result] ∧
        reply = op.clientReply.getD result

/-- The installed state records no write of the run that comes back, and what is
delivered first under the identity of a write is that write. -/
structure NoneOlder (base : WriteDedup) (trace : List Event) : Prop where
  unrecorded : ∀ op client, .broadcast op client ∈ trace → .delivered op ∈ trace →
    base.isDup op.origin op.requestId = false
  first : ∀ sent client old before after, .broadcast sent client ∈ trace →
    trace = before ++ .delivered old :: after → FirstDelivery base before old →
      old.ident = sent.ident → old = sent

namespace Followed

variable {id : ProcId} {base : WriteDedup} {st : DriverState σ} {trace : List Event}

theorem ran_of_delivered (followed : Followed id base st trace) {op : WriteOp}
    (delivered : .delivered op ∈ trace) (fresh : base.isDup op.origin op.requestId = false) :
    ∃ other result, .applied other result ∈ trace ∧ other.ident = op.ident := by
  have dup := (followed.seen op.origin op.requestId).mpr (Or.inr ⟨op, delivered, rfl⟩)
  rcases (followed.ran op.origin op.requestId).mp dup with old | ran
  · rw [fresh] at old
    cases old
  · exact ran

theorem noneOlder_of_kept (followed : Followed id base st trace) (kept : WritesKept trace) :
    NoneOlder base trace := by
  constructor
  · intro op client sent delivered
    obtain ⟨result, applied⟩ := kept.applied op client sent delivered
    obtain ⟨before, after, _, first⟩ := first_of_applied followed.caused applied
    exact first.1
  · intro sent client old before after broadcast split first same
    have delivered : .delivered old ∈ trace := by simp [split]
    obtain ⟨op, result, applied, sameIdent⟩ := followed.ran_of_delivered delivered first.1
    have itself := kept.itself sent client op result broadcast applied (sameIdent.trans same)
    obtain ⟨otherBefore, otherAfter, otherSplit, otherFirst⟩ :=
      first_of_applied followed.caused applied
    rw [← itself]
    exact firstDelivery_unique split otherSplit first otherFirst sameIdent.symm

theorem kept_of_noneOlder (followed : Followed id base st trace) (free : NoneOlder base trace) :
    WritesKept trace := by
  have itself : ∀ sent client op result, .broadcast sent client ∈ trace →
      .applied op result ∈ trace → op.ident = sent.ident → op = sent := by
    intro sent client op result broadcast applied same
    obtain ⟨before, after, split, first⟩ := first_of_applied followed.caused applied
    exact free.first sent client op before after broadcast split first same
  refine ⟨?_, itself, ?_⟩
  · intro op client sent delivered
    obtain ⟨other, result, applied, same⟩ :=
      followed.ran_of_delivered delivered (free.unrecorded op client sent delivered)
    have equal := itself op client other result sent applied same
    subst equal
    exact ⟨result, applied⟩
  · intro op client reply before after sent here
    have caused := followed.caused
    rw [here] at caused
    rcases caused.justifies with
      unsent | ⟨earlier, ran, other, result, rfl, broadcast, same, replied⟩
    · rw [here] at sent
      exact absurd (broadcast_before_answer caused sent) (unsent op)
    · have otherSent : .broadcast other client ∈ trace := by simp [here, broadcast]
      have equal := broadcast_unique followed.caused otherSent sent
      subst equal
      have applied : .applied ran result ∈ trace := by simp [here]
      have ranItself := itself other client ran result otherSent applied same.symm
      subst ranItself
      exact ⟨earlier, result, rfl, replied⟩

theorem kept_iff (followed : Followed id base st trace) :
    WritesKept trace ↔ NoneOlder base trace :=
  ⟨followed.noneOlder_of_kept, followed.kept_of_noneOlder⟩

end Followed

/-! ### Every turn of the driver -/

/-- What the driver guarantees to clients with channels of their own. -/
def FollowedIfFresh (id : ProcId) (base : WriteDedup) (st : DriverState σ)
    (trace : List Event) : Prop :=
  Explained FreshChannel trace → Followed id base st trace

section Driver

variable {id : ProcId} {base : WriteDedup}

theorem FollowedIfFresh.refused {st : DriverState σ} {trace : List Event} {client : Sender}
    (held : FollowedIfFresh id base st trace) (reply : Reply) :
    FollowedIfFresh id base st (trace ++ [.request client, .answer client reply]) := by
  rw [List.append_cons]
  intro fresh
  obtain ⟨earlier, unasked⟩ := fresh.last.1.last
  have followed := held earlier
  refine (followed.asked client).answered (Or.inl ?_) (by simp)
  simpa using (followed.requested client unasked).2

theorem FollowedIfFresh.sent {st : DriverState σ} {trace : List Event} {client : Sender}
    (held : FollowedIfFresh id base st trace) (argv : List Bytes) (clientReply : Option Reply) :
    FollowedIfFresh id base
      { st with nextRid := st.nextRid + 1, pending := st.pending.insert st.nextRid client }
      (trace ++ [.request client,
        .broadcast (.forRequest id st.nextRid argv clientReply) client]) := by
  rw [List.append_cons]
  intro fresh
  obtain ⟨earlier, unasked⟩ := fresh.last.1.last
  have followed := held earlier
  refine (followed.asked client).sent (by simp) ?_ (WriteOp.forRequest_origin _ _ _ _)
    (WriteOp.forRequest_requestId _ _ _ _) rfl rfl rfl
  simpa [Unserved] using followed.requested client unasked

variable [RedisStore σ]

theorem deliverOp_follows (op : WriteOp) :
    Keeps (FollowedIfFresh (σ := σ) id base) (deliverOp id op) := by
  intro st trace held
  cases dup : st.dedup.isDup op.origin op.requestId with
  | true =>
      rw [deliverOp_dup dup]
      intro fresh
      exact (held (fresh.before [.delivered op])).again dup
  | false =>
      rw [deliverOp_fresh dup]
      cases waiting : st.waitingClient id op with
      | none =>
          intro fresh
          have followed := held (fresh.before _)
          have applied : Followed id base { st with toParts := st.toParts.deliver op }
              (trace ++ [.delivered op] ++ [.applied op (op.applyTo st.store).1]) := by
            refine followed.first dup ?_ ?_ ?_ _
            · rfl
            · rfl
            · exact fun _ _ found => found
          rw [List.append_assoc] at applied
          exact applied
      | some client =>
          intro fresh
          have followed := held (fresh.before _)
          unfold DriverState.waitingClient at waiting
          split at waiting
          · rename_i own
            obtain ⟨sent, broadcast, sameId⟩ := followed.waitingFor op.requestId client waiting
            have same : sent.ident = op.ident :=
              Prod.ext ((followed.assigned sent client broadcast).1.trans own.symm) sameId
            have applied : Followed id base
                { st with
                  toParts := st.toParts.deliver op
                  pending := st.pending.erase op.requestId }
                (trace ++ [.delivered op] ++ [.applied op (op.applyTo st.store).1]) := by
              refine followed.first dup ?_ ?_ ?_ _
              · rfl
              · rfl
              · intro requestId waiter found
                simp only [ExtTreeMap.getElem?_erase] at found
                split at found
                · cases found
                · exact found
            have why : Caused base
                (trace ++ [.delivered op] ++ [.applied op (op.applyTo st.store).1])
                (.answer client (op.clientReply.getD (op.applyTo st.store).1)) :=
              Or.inr ⟨trace, op, sent, _, by simp, broadcast, same, rfl⟩
            have woken := applied.answered why (by simp [followed.known broadcast])
            simp only [List.append_assoc] at woken
            exact woken
          · cases waiting

theorem followedProperty : ClientProperty id (FollowedIfFresh (σ := σ) id base) where
  deliver := deliverOp_follows
  silent held same fresh := (held fresh).same same
  quietEvent event held isQuiet fresh := (held (fresh.before [event])).quiet isQuiet

variable [Bincode WriteOp] [FloatArith]

theorem handleWriteRequest_follows (req : WriteRequest) :
    Keeps (FollowedIfFresh (σ := σ) id base) (handleWriteRequest id req) :=
  followedProperty.writeRequest req (fun _ _ reply held => held.refused reply)
    (fun _ _ argv clientReply held => held.sent argv clientReply)

variable [AlwaysSerializable DeliveredEntry] [AlwaysSerializable ReplicaSnapshot]

theorem promoted_followed (cfg : DriverCfg) (store : σ) (seed : PromoteSeed)
    (inputs : List DriverInput) :
    FollowedIfFresh cfg.id seed.dedup (driverLoop cfg store (some seed) inputs).1
      (driverLoop cfg store (some seed) inputs).2 :=
  followedProperty.driverLoop handleWriteRequest_follows store (some seed)
    (fun _ => Followed.initial rfl rfl) inputs

end Driver

end Fates

end TrainsValkey
