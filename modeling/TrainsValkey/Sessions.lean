import TrainsValkey.Library.Sequential
import TrainsValkey.Promotion
import TrainsValkey.ClientReplies

/-
What the clients of the ring see, taken together.

A client talks to one node, one request at a time.  A read is answered from the
node's own store, which the driver changes one operation after the other, so it
falls between two events of the driver's trace; a write is answered when its
operation has run there.  Over one total order of operations the clients of all
nodes see one serial store.
-/

set_option autoImplicit false

namespace TrainsValkey

open Trains
open Library (Call Explained PlacedCall SerialObject Stream replay)
open Library.Action (Keeps)

section Sessions

variable [Trains] {σ : Type} [RedisStore σ]

/-- The store as a single client would use it.  A write that was resolved
carries its reply. -/
def serialStore : SerialObject σ WriteOp (SystemTime × Command) Reply where
  apply := applyOp
  updated store op := op.clientReply.getD (op.applyTo store).1
  answer store query := RedisStore.query store query.1 query.2

/-! ### What a run applies -/

section Order

variable {start : σ} {history : List WriteOp} {parts : Parts σ} {op : WriteOp}

omit [Trains] in
theorem CaughtUp.next_fresh (distinct : (history.map WriteOp.ident).Nodup)
    (caughtUp : CaughtUp start history parts)
    (at_head : history[parts.deliveredLog.headIndex]? = some op) :
    parts.dedup.isDup op.origin op.requestId = false := by
  have unseen := Library.not_seenBefore distinct at_head
  rw [Bool.eq_false_iff]
  intro dup
  exact unseen ((caughtUp.isDup_iff op.origin op.requestId).mp dup)

/-- As long as the kernel hands over a stream of the order, the node stands in
it and has applied its front. -/
def OnOrder (start : σ) (history : List WriteOp) (st : DriverState σ) (trace : List Event) :
    Prop :=
  ∀ final, Stream history 0 (deliveredIn trace) final →
    CaughtUp start history st.toParts ∧ st.deliveredLog.headIndex = final ∧
      appliedOps trace = history.take final

theorem OnOrder.unmoved {before after : DriverState σ} {trace events : List Event}
    (held : OnOrder start history before trace) (parts : after.toParts = before.toParts)
    (noneDelivered : deliveredIn events = []) (noneApplied : appliedOps events = []) :
    OnOrder start history after (trace ++ events) := by
  intro final handed
  rw [deliveredIn_append, noneDelivered, List.append_nil] at handed
  rw [appliedOps_append, noneApplied, List.append_nil, parts]
  exact held final handed

theorem deliverOp_onOrder (distinct : (history.map WriteOp.ident).Nodup) (id : ProcId)
    (op : WriteOp) : Keeps (OnOrder start history) (deliverOp id op) := by
  intro st trace held final handed
  have delivers : deliveredIn (deliverOp id op st).2 = [op] := by
    cases dup : st.dedup.isDup op.origin op.requestId with
    | true =>
        rw [deliverOp_dup dup]
        rfl
    | false =>
        rw [deliverOp_fresh dup]
        cases st.waitingClient id op with
        | none => rfl
        | some client => rfl
  rw [deliveredIn_append, delivers] at handed
  obtain ⟨middle, front, last⟩ := handed.split
  obtain ⟨caughtUp, head, applied⟩ := held middle front
  cases last with
  | again delivered later =>
      cases later
      rw [← head] at delivered
      have dup : st.dedup.isDup op.origin op.requestId = true :=
        (caughtUp.isDup_iff op.origin op.requestId).mpr ⟨op, delivered, rfl⟩
      rw [deliverOp_dup dup, appliedOps_append, applied]
      exact ⟨caughtUp, head, List.append_nil _⟩
  | next at_count later =>
      cases later
      rw [← head] at at_count
      have fresh := caughtUp.next_fresh distinct at_count
      obtain ⟨moved, sameLog⟩ := caughtUp.deliver_next distinct at_count
      have reached : (deliverOp id op st).1.toParts = st.toParts.deliver op ∧
          appliedOps (deliverOp id op st).2 = [op] := by
        rw [deliverOp_fresh fresh]
        cases st.waitingClient id op with
        | none => exact ⟨rfl, rfl⟩
        | some client => exact ⟨rfl, rfl⟩
      rw [head] at at_count
      rw [appliedOps_append, reached.1, reached.2, applied,
        Library.take_succ_of_getElem? at_count]
      refine ⟨moved, ?_, rfl⟩
      rw [sameLog, DeliveredLog.append_headIndex, head]

theorem onOrderProperty (distinct : (history.map WriteOp.ident).Nodup) (id : ProcId) :
    ClientProperty id (OnOrder start history) where
  deliver := deliverOp_onOrder distinct id
  silent held same := by
    intro final handed
    rw [same.parts]
    exact held final handed
  quietEvent event held isQuiet := by
    apply held.unmoved rfl
    · cases event <;> first | rfl | cases isQuiet
    · cases event <;> first | rfl | cases isQuiet

variable [Bincode WriteOp] [FloatArith] [AlwaysSerializable DeliveredEntry]
  [AlwaysSerializable ReplicaSnapshot]

theorem driverLoop_onOrder (distinct : (history.map WriteOp.ident).Nodup) (cfg : DriverCfg)
    (inputs : List DriverInput) :
    OnOrder start history (driverLoop cfg start none inputs).1
      (driverLoop cfg start none inputs).2 := by
  apply (onOrderProperty distinct cfg.id).driverLoop
  · intro req
    apply (onOrderProperty distinct cfg.id).writeRequest
    · intro st trace reply held
      exact held.unmoved rfl rfl rfl
    · intro st trace argv clientReply held
      exact held.unmoved rfl rfl rfl
  · intro final handed
    cases handed
    exact ⟨CaughtUp.initial start history _, rfl, rfl⟩

end Order

/-! ### What a client sees -/

/-- A request of a client, by where its parts stand in the trace of its node:
a read is answered behind the first `cut` events. -/
inductive SessionCall where
  | read (cut : Nat) (now : SystemTime) (cmd : Command) (reply : Reply)
  | write (sent answered : Nat) (client : Sender) (op : WriteOp) (reply : Reply)

namespace SessionCall

def call : SessionCall → Call WriteOp (SystemTime × Command) Reply
  | .read _ now cmd reply => .query (now, cmd) reply
  | .write _ _ _ op reply => .update op reply

/-- How many events stand before the request is taken up, and before its
answer is there. -/
def begins : SessionCall → Nat
  | .read cut _ _ _ => cut
  | .write sent _ _ _ _ => sent

def ends : SessionCall → Nat
  | .read cut _ _ _ => cut
  | .write _ answered _ _ _ => answered + 1

def held (trace : List Event) (cut : Nat) : Nat := (appliedOps (trace.take cut)).length

/-- The request happened in the trace.  A read sees the store as the operations
applied so far have left it. -/
def SeenIn (start : σ) (events : List Event) : SessionCall → Prop
  | .read cut now cmd reply =>
      cut ≤ events.length ∧
        reply = RedisStore.query (replay applyOp start (appliedOps (events.take cut))) now cmd
  | .write sent answered client op reply =>
      sent < answered ∧ events[sent]? = some (.broadcast op client) ∧
        events[answered]? = some (.answer client reply)

def placed (trace : List Event) (observed : SessionCall) :
    PlacedCall WriteOp (SystemTime × Command) Reply where
  call := observed.call
  place :=
    match observed with
    | .read cut _ _ _ => held trace cut
    | .write _ answered _ _ _ => held trace answered - 1

theorem appliedOps_take {events : List Event} {first second : Nat} (forward : first ≤ second) :
    appliedOps (events.take first) <+: appliedOps (events.take second) :=
  List.IsPrefix.filterMap _ (List.take_prefix_take_left forward)

theorem held_mono (events : List Event) {first second : Nat} (forward : first ≤ second) :
    held events first ≤ held events second :=
  (appliedOps_take forward).length_le

section Placed

variable {start : σ} {history : List WriteOp} {events : List Event}

theorem appliedOps_held {final : Nat} (applied : appliedOps events = history.take final)
    (cut : Nat) : appliedOps (events.take cut) = history.take (held events cut) := by
  have front : appliedOps (events.take cut) <+: history := by
    have whole : appliedOps (events.take cut) <+: appliedOps events :=
      List.IsPrefix.filterMap _ (List.take_prefix cut events)
    rw [applied] at whole
    exact whole.trans (List.take_prefix final history)
  exact List.prefix_iff_eq_take.mp front

theorem write_place {final : Nat} (applied : appliedOps events = history.take final)
    (explained : Explained (Justified start WriteDedup.new) events) {sent answered : Nat}
    {client : Sender} {op : WriteOp} {reply : Reply}
    (seen : SeenIn start events (.write sent answered client op reply)) :
    ∃ position, history[position]? = some op ∧ held events answered = position + 1 ∧
      held events sent ≤ position ∧
        reply = op.clientReply.getD
          (op.applyTo (replay applyOp start (history.take position))).1 := by
  obtain ⟨before, broadcast, answer⟩ := seen
  obtain ⟨within, here⟩ := List.getElem?_eq_some_iff.mp answer
  have split : events = events.take answered ++
      .answer client reply :: events.drop (answered + 1) := by
    rw [← here, ← List.drop_eq_getElem_cons within, List.take_append_drop]
  have known := List.mem_of_getElem? broadcast
  obtain ⟨earlier, result, front, _, computed, replied⟩ :=
    answer_follows_apply explained known split
  have lengths := congrArg List.length front
  rw [List.length_take, Nat.min_eq_left (Nat.le_of_lt within), List.length_append] at lengths
  simp only [List.length_cons, List.length_nil] at lengths
  have start_ : events.take earlier.length = earlier := by
    have shorter := congrArg (List.take earlier.length) front
    rw [List.take_take, Nat.min_eq_left (by omega), List.take_left] at shorter
    exact shorter
  have ran : appliedOps (events.take answered) = appliedOps earlier ++ [op] := by
    rw [front, appliedOps_append]
    rfl
  have count : held events answered = (appliedOps earlier).length + 1 := by
    rw [held, ran, List.length_append]
    rfl
  have order := appliedOps_held applied answered
  have sameEarlier := appliedOps_held applied earlier.length
  rw [held, start_] at sameEarlier
  refine ⟨(appliedOps earlier).length, ?_, count, ?_, ?_⟩
  · rw [ran, count] at order
    have at_last := congrArg (fun ops : List WriteOp => ops[(appliedOps earlier).length]?) order
    simp only [List.getElem?_concat_length] at at_last
    rw [at_last, List.getElem?_take_of_lt (Nat.lt_succ_self _)]
  · -- the events right before the answer are not the broadcast
    have early : sent ≤ earlier.length := by
      by_contra late
      have inFront : (events.take answered)[sent]? = some (.broadcast op client) := by
        rw [List.getElem?_take_of_lt before]
        exact broadcast
      rw [front, List.getElem?_append_right (by omega)] at inFront
      have last : sent - earlier.length = 1 := by omega
      rw [last] at inFront
      cases inFront
    have fewer := held_mono events early
    rw [held, held, start_] at fewer
    exact fewer
  · rw [replied, computed, ← sameEarlier]

theorem placed_fits {final : Nat} (applied : appliedOps events = history.take final)
    (explained : Explained (Justified start WriteDedup.new) events) {observed : SessionCall}
    (seen : observed.SeenIn start events) :
    (observed.placed events).Fits serialStore start history := by
  cases observed with
  | read cut now cmd reply =>
      obtain ⟨_, answered⟩ := seen
      have order := appliedOps_held applied cut
      have within : held events cut ≤ history.length := by
        have front := congrArg List.length order
        rw [List.length_take] at front
        unfold held at front ⊢
        omega
      rw [order] at answered
      exact ⟨within, answered⟩
  | write sent answered client op reply =>
      obtain ⟨position, here, count, _, replied⟩ := write_place applied explained seen
      have place : held events answered - 1 = position := by omega
      unfold PlacedCall.Fits placed call
      simp only [place]
      exact ⟨here, replied⟩

theorem placed_between {final : Nat} (applied : appliedOps events = history.take final)
    (explained : Explained (Justified start WriteDedup.new) events) {observed : SessionCall}
    (seen : observed.SeenIn start events) :
    held events observed.begins ≤ (observed.placed events).before ∧
      (observed.placed events).after ≤ held events observed.ends := by
  cases observed with
  | read cut now cmd reply => exact ⟨Nat.le_refl _, Nat.le_refl _⟩
  | write sent answered client op reply =>
      obtain ⟨position, _, count, late, _⟩ := write_place applied explained seen
      have place : held events answered - 1 = position := by omega
      have later := held_mono events (Nat.le_add_right answered 1)
      unfold placed call begins ends PlacedCall.before PlacedCall.after
      simp only [place]
      exact ⟨late, by omega⟩

end Placed

end SessionCall

/-- One client's requests at a node, reads and broadcast writes only: each waits
for the answer to the one before.  A write that is answered at once leaves no
trace in the order. -/
structure Session (start : σ) (events : List Event) where
  requests : List SessionCall
  seen : ∀ request ∈ requests, request.SeenIn start events
  ordered : requests.Pairwise (fun first second => first.ends ≤ second.begins)

def Session.Uses {start : σ} {events : List Event} (session : Session start events)
    (client : Sender) : Prop :=
  ∃ sent answered op reply, .write sent answered client op reply ∈ session.requests

namespace Session

variable {start : σ} {history : List WriteOp} {events : List Event}

def placed (session : Session start events) :
    List (PlacedCall WriteOp (SystemTime × Command) Reply) :=
  session.requests.map (SessionCall.placed events)

theorem placed_calls (session : Session start events) :
    session.placed.map PlacedCall.call = session.requests.map SessionCall.call := by
  rw [placed, List.map_map]
  rfl

theorem placed_fit {final : Nat} (applied : appliedOps events = history.take final)
    (explained : Explained (Justified start WriteDedup.new) events)
    (session : Session start events) :
    ∀ placed ∈ session.placed, placed.Fits serialStore start history := by
  intro placed member
  obtain ⟨request, inSession, rfl⟩ := List.mem_map.mp member
  exact SessionCall.placed_fits applied explained (session.seen request inSession)

theorem placed_ordered {final : Nat} (applied : appliedOps events = history.take final)
    (explained : Explained (Justified start WriteDedup.new) events)
    (session : Session start events) :
    session.placed.Pairwise (fun first second => first.after ≤ second.before) := by
  rw [placed, List.pairwise_map]
  refine session.ordered.imp_of_mem ?_
  intro first second firstIn secondIn forward
  have ending := (SessionCall.placed_between applied explained (session.seen first firstIn)).2
  have beginning :=
    (SessionCall.placed_between applied explained (session.seen second secondIn)).1
  have between := SessionCall.held_mono events forward
  exact ending.trans (between.trans beginning)

theorem placed_odd {final : Nat} (applied : appliedOps events = history.take final)
    (explained : Explained (Justified start WriteDedup.new) events)
    (session : Session start events)
    {placed : PlacedCall WriteOp (SystemTime × Command) Reply} (member : placed ∈ session.placed)
    {position : Nat} (here : placed.key = 2 * position + 1) :
    ∃ sent answered client op reply,
      .write sent answered client op reply ∈ session.requests ∧
        history[position]? = some op ∧ .broadcast op client ∈ events := by
  obtain ⟨request, inSession, rfl⟩ := List.mem_map.mp member
  obtain ⟨place, op, answer, called⟩ := PlacedCall.key_odd here
  cases request with
  | read cut now cmd reply => cases called
  | write sent answered client op reply =>
      have seen := session.seen _ inSession
      obtain ⟨found, at_, count, _⟩ := SessionCall.write_place applied explained seen
      have samePosition : found = position := by
        simp only [SessionCall.placed] at place
        omega
      rw [samePosition] at at_
      exact ⟨sent, answered, client, op, reply, inSession, at_, List.mem_of_getElem? seen.2.1⟩

end Session

/-! ### All clients of the ring -/

section Ring

variable [Bincode WriteOp] [FloatArith] [AlwaysSerializable DeliveredEntry]
  [AlwaysSerializable ReplicaSnapshot]

variable {ι κ : Type} {nodes : ι → DriverCfg} {inputs : ι → List DriverInput} {start : σ}
  {history : List WriteOp}

/-- What a node has applied is a front of the order, and its trace explains
its answers. -/
theorem driverLoop_front (distinct : (history.map WriteOp.ident).Nodup) {cfg : DriverCfg}
    {turns : List DriverInput}
    (admissible : Explained (Admissible cfg.id) (driverLoop cfg start none turns).2)
    (delivered : ∃ final, Stream history 0 (deliveredIn (driverLoop cfg start none turns).2) final) :
    Explained (Justified start WriteDedup.new) (driverLoop cfg start none turns).2 ∧
      ∃ final, appliedOps (driverLoop cfg start none turns).2 = history.take final := by
  obtain ⟨final, handed⟩ := delivered
  exact ⟨(coldStart_tracked cfg start turns admissible).explained, final,
    (driverLoop_onOrder distinct cfg turns final handed).2.2⟩

end Ring

end Sessions

/-! ### A writer at one node and a reader at another that lags -/

section Sample

open scoped LoopbackRing

def sharedNodes (i : Bool) : DriverCfg :=
  if i then LoopbackRing.plainSecond else LoopbackRing.plainFirst

def sharedInputs (i : Bool) : List DriverInput :=
  let arrives : DriverInput := .train ⟨2, LoopbackRing.payloads [ownSet]⟩
  if i then [arrives]
  else [.request { now := ⟨0, 0⟩, argv := ownSet.argv, reply := 7 }, arrives]

def sharedTrace (i : Bool) : List Event :=
  (driverLoop (sharedNodes i) MemStore.new none (sharedInputs i)).2

theorem sharedTrace_first : sharedTrace false =
    [.request 7, .broadcast ownSet 7, .delivered ownSet, .applied ownSet .ok, .answer 7 .ok,
      .forward ⟨2, LoopbackRing.payloads [ownSet]⟩] := by
  rfl

theorem sharedTrace_second : sharedTrace true =
    [.delivered ownSet, .applied ownSet .ok, .forward ⟨2, []⟩] := by
  rfl

def getK : Command := { name := "GET", argv := [asBytes "GET", asBytes "k"] }

theorem sharedNodes_apart : Function.Injective (fun i => (sharedNodes i).id) := by
  intro i j
  cases i <;> cases j <;> intro same <;> first | rfl | cases same

theorem sharedTrace_admissible (i : Bool) :
    Explained (Admissible (sharedNodes i).id) (sharedTrace i) := by
  cases i with
  | false =>
      rw [sharedTrace_first]
      apply Explained.of_from Explained.nil
      simp [Library.ExplainedFrom, Admissible]
  | true =>
      rw [sharedTrace_second]
      apply Explained.of_from Explained.nil
      refine ⟨?_, True.intro, True.intro, True.intro⟩
      intro own
      cases own

theorem sharedTrace_delivered (i : Bool) :
    ∃ final, Stream [ownSet] 0 (deliveredIn (sharedTrace i)) final := by
  refine ⟨1, ?_⟩
  cases i with
  | false => exact Stream.next rfl (Stream.done 1)
  | true => exact Stream.next rfl (Stream.done 1)

end Sample

end TrainsValkey
