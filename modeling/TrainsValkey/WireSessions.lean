import TrainsValkey.ClientConnection
import TrainsValkey.Sessions

/-
What clients read off their sockets.

A connection takes its requests off the bytes it receives and serves them one
after the other: a read from the store beside it, a write through the driver,
which answers at once or puts an operation into the order.  The bytes it writes
are read back reply by reply, and the replies of all connections to all nodes
are those of one serial store.
-/

set_option autoImplicit false

namespace TrainsValkey

open Trains
open Library (Call Explained PlacedCall SerialObject Stream replay)
open Library.Action (Keeps)

/-! ### What a driver makes of a request -/

section Requests

variable [Trains] {σ : Type} [RedisStore σ] [Bincode WriteOp] [FloatArith]

/-- The event behind a request, by what the store says when it is taken up. -/
inductive Taken (id : ProcId) (start : σ) (req : WriteRequest) (before : List Event) : Event → Prop
  | immediate {reply : Reply}
      (action : writeAction req (replay applyOp start (appliedOps before)) = .immediate reply) :
      Taken id start req before (.answer req.reply reply)
  | sent {argv : List Bytes} {clientReply : Option Reply} (requestId : Nat)
      (action : writeAction req (replay applyOp start (appliedOps before)) =
        .broadcast argv clientReply) :
      Taken id start req before (.broadcast (.forRequest id requestId argv clientReply) req.reply)
  | refused {e : String} (requestId : Nat) (argv : List Bytes) (clientReply : Option Reply)
      (failed : Bincode.encodeToVec (WriteOp.forRequest id requestId argv clientReply) = .error e) :
      Taken id start req before (.answer req.reply
        (.error s!"ERR failed to encode write for replication: bincode encode: {e}"))

/-- The requests in the trace are among those asked, and each is taken up at
the event behind it. -/
structure TakenUp (id : ProcId) (asked : WriteRequest → Prop) (start : σ) (st : DriverState σ)
    (events : List Event) : Prop where
  store : st.store = replay applyOp start (appliedOps events)
  follows : ∀ (at_ : Nat) (client : Sender), events[at_]? = some (.request client) →
    ∃ req next, asked req ∧ req.reply = client ∧ events[at_ + 1]? = some next ∧
      Taken id start req (events.take at_) next

namespace TakenUp

variable {id : ProcId} {asked : WriteRequest → Prop} {start : σ} {st after : DriverState σ}
  {events : List Event}

theorem append (taken : TakenUp id asked start st events) (more : List Event)
    (store : after.store = replay applyOp start (appliedOps (events ++ more)))
    (follows : ∀ (at_ : Nat) (client : Sender), more[at_]? = some (.request client) →
      ∃ req next, asked req ∧ req.reply = client ∧ more[at_ + 1]? = some next ∧
        Taken id start req (events ++ more.take at_) next) :
    TakenUp id asked start after (events ++ more) := by
  refine ⟨store, fun at_ client here => ?_⟩
  by_cases early : at_ < events.length
  · rw [List.getElem?_append_left early] at here
    obtain ⟨req, next, known, channel, behind, made⟩ := taken.follows at_ client here
    have within := (List.getElem?_eq_some_iff.mp behind).1
    refine ⟨req, next, known, channel, ?_, ?_⟩
    · rw [List.getElem?_append_left within]
      exact behind
    · rw [List.take_append_of_le_length (Nat.le_of_lt early)]
      exact made
  · obtain ⟨later, rfl⟩ := Nat.exists_eq_add_of_le (Nat.not_lt.mp early)
    rw [List.getElem?_append_right (Nat.le_add_right _ _), Nat.add_sub_cancel_left] at here
    obtain ⟨req, next, known, channel, behind, made⟩ := follows later client here
    refine ⟨req, next, known, channel, ?_, ?_⟩
    · rw [Nat.add_assoc, List.getElem?_append_right (Nat.le_add_right _ _),
        Nat.add_sub_cancel_left]
      exact behind
    · rw [List.take_length_add_append]
      exact made

theorem extend (taken : TakenUp id asked start st events) (more : List Event)
    (store : after.store = replay applyOp start (appliedOps (events ++ more)))
    (none_ : ∀ client, .request client ∉ more) :
    TakenUp id asked start after (events ++ more) :=
  taken.append more store (fun _ client here =>
    absurd (List.mem_of_getElem? here) (none_ client))

theorem takes (taken : TakenUp id asked start st events) {req : WriteRequest} (known : asked req)
    (same : after.store = st.store) {next : Event} (made : Taken id start req events next) :
    TakenUp id asked start after (events ++ [.request req.reply, next]) := by
  have quiet : appliedOps [.request req.reply, next] = [] := by
    cases made <;> rfl
  apply taken.append
  · rw [appliedOps_append, quiet, List.append_nil, same]
    exact taken.store
  · intro at_ client here
    match at_ with
    | 0 =>
        cases here
        refine ⟨req, next, known, rfl, rfl, ?_⟩
        rw [List.take_zero, List.append_nil]
        exact made
    | 1 =>
        have asks : next = .request client := Option.some.inj here
        subst asks
        cases made
    | _ + 2 => cases here

end TakenUp

variable {id : ProcId} {asked : WriteRequest → Prop} {start : σ}

theorem deliverOp_takenUp (op : WriteOp) :
    Keeps (TakenUp id asked start) (deliverOp id op) := by
  intro st events taken
  cases dup : st.dedup.isDup op.origin op.requestId with
  | true =>
      rw [deliverOp_dup dup]
      apply taken.extend
      · rw [appliedOps_append]
        exact taken.store.trans (congrArg _ (List.append_nil _).symm)
      · simp
  | false =>
      have applied : (st.toParts.deliver op).store =
          replay applyOp start (appliedOps events ++ [op]) := by
        rw [Library.replay_append, ← taken.store, Parts.deliver_fresh dup]
        rfl
      rw [deliverOp_fresh dup]
      cases st.waitingClient id op with
      | none =>
          apply taken.extend
          · rw [appliedOps_append]
            exact applied
          · simp
      | some client =>
          apply taken.extend
          · rw [appliedOps_append]
            exact applied
          · simp

theorem takenUpProperty : ClientProperty id (TakenUp (σ := σ) id asked start) where
  deliver := deliverOp_takenUp
  silent taken same := ⟨(congrArg Parts.store same.parts).trans taken.store, taken.follows⟩
  quietEvent event taken isQuiet := by
    apply taken.extend
    · rw [appliedOps_quiet _ isQuiet]
      exact taken.store
    · intro client member
      rw [List.mem_singleton] at member
      subst member
      cases isQuiet

theorem handleWriteRequest_takenUp {req : WriteRequest} (known : asked req) :
    Keeps (TakenUp (σ := σ) id asked start) (handleWriteRequest id req) := by
  intro st events taken
  unfold handleWriteRequest
  cases action : writeAction req st.store with
  | immediate reply =>
      rw [taken.store] at action
      exact taken.takes known rfl (.immediate action)
  | broadcast argv clientReply =>
      simp only
      rw [taken.store] at action
      split
      · rename_i bytes encoded
        let waiting : DriverState σ :=
          { st with
            nextRid := st.nextRid + 1
            pending := st.pending.insert st.nextRid req.reply }
        have same : waiting.store = st.store := rfl
        have sent := taken.takes known same (.sent st.nextRid action)
        have pumped := takenUpProperty.stepAndPump (.localBroadcast bytes) _ _ sent
        rw [List.append_assoc] at pumped
        exact pumped
      · rename_i e failed
        exact taken.takes known rfl (.refused st.nextRid argv clientReply failed)

theorem driverLoop_takenUp [AlwaysSerializable DeliveredEntry] [AlwaysSerializable ReplicaSnapshot]
    (cfg : DriverCfg) (start : σ) (inputs : List DriverInput) :
    TakenUp cfg.id (fun req => .request req ∈ inputs) start (driverLoop cfg start none inputs).1
      (driverLoop cfg start none inputs).2 := by
  apply takenUpProperty.driverRun
  · exact ⟨rfl, fun _ _ here => nomatch here⟩
  · exact fun req member => handleWriteRequest_takenUp member

end Requests

/-! ### A request of a connection -/

theorem WriteOp.forRequest_clientReply (origin : ProcId) (requestId : Nat) (argv : List Bytes)
    (clientReply : Option Reply) :
    (forRequest origin requestId argv clientReply).clientReply = clientReply := by
  cases clientReply <;> rfl

def Command.isReplicated (cmd : Command) : Bool :=
  match classify cmd.name with
  | .write | .nonDeterministic => true
  | .read | .unsupported => false

/-- Which way a request went, by where it stands in the trace of its node: it
was served at the connection, or handed to the driver, or the driver was gone. -/
inductive Way where
  | here (cut : Nat) (now : SystemTime)
  | driven (asked answered : Nat) (client : Sender)
  | undriven (cut : Nat)

def Way.begins : Way → Nat
  | .here cut _ => cut
  | .driven asked _ _ => asked
  | .undriven cut => cut

def Way.ends : Way → Nat
  | .here cut _ => cut
  | .driven _ answered _ => answered + 1
  | .undriven cut => cut

structure Visit where
  cmd : Command
  way : Way
  reply : Reply

section Store

variable [Trains] {σ : Type} [RedisStore σ] [FloatArith]

/-- The reply a node has for a request on its own, unless the request goes into
the order. -/
def ownAnswer (store : σ) (now : SystemTime) (cmd : Command) : Option Reply :=
  match classify cmd.name with
  | .read => some (RedisStore.query store now cmd)
  | .unsupported =>
      some (.error s!"ERR unknown command '{cmd.name}' (not in the replication table)")
  | .write | .nonDeterministic =>
      match writeAction { now, argv := cmd.argv, reply := 0 } store with
      | .immediate reply => some reply
      | .broadcast _ _ => none

/-- The store as the only client of a single node would meet it. -/
def clientStore : SerialObject σ WriteOp (SystemTime × Command) (Option Reply) where
  apply := applyOp
  updated store op := some (op.clientReply.getD (op.applyTo store).1)
  answer store query := ownAnswer store query.1 query.2

/-- The reply says that the request went nowhere. -/
inductive WentNowhere : Reply → Prop
  | unavailable : WentNowhere (.error "ERR replication driver unavailable")
  | dropped : WentNowhere (.error "ERR replication request dropped")
  | refused (e : String) : WentNowhere
      (.error s!"ERR failed to encode write for replication: bincode encode: {e}")

namespace Visit

/-- The request went this way in the trace of a node.  The channel it is
answered on is its own. -/
def HappensIn (start : σ) (inputs : List DriverInput) (events : List Event) (visit : Visit) :
    Prop :=
  match visit.way with
  | .here cut now =>
      visit.cmd.isReplicated = false ∧ cut ≤ events.length ∧
        ownAnswer (replay applyOp start (appliedOps (events.take cut))) now visit.cmd =
          some visit.reply
  | .driven asked answered client =>
      visit.cmd.isReplicated = true ∧ asked < answered ∧
        events[asked]? = some (.request client) ∧
        events[answered]? = some (.answer client visit.reply) ∧
        ∀ req, .request req ∈ inputs → req.reply = client → req.argv = visit.cmd.argv
  | .undriven _ => visit.cmd.isReplicated = true ∧ WentNowhere visit.reply

inductive Outcome where
  | query (now : SystemTime)
  | update (op : WriteOp)
  | failed

def call (visit : Visit) : Outcome → Option (Call WriteOp (SystemTime × Command) (Option Reply))
  | .query now => some (.query (now, visit.cmd) (some visit.reply))
  | .update op => some (.update op (some visit.reply))
  | .failed => none

/-- An update is what the driver makes of the request on a store that some
front of the order leaves. -/
def CameTo (start : σ) (history : List WriteOp) (visit : Visit) : Outcome → Prop
  | .query _ => True
  | .update op =>
      visit.cmd.isReplicated = true ∧ ∃ seen now, seen ≤ history.length ∧
        writeAction { now, argv := visit.cmd.argv, reply := 0 }
          (replay applyOp start (history.take seen)) = .broadcast op.argv op.clientReply
  | .failed => visit.cmd.isReplicated = true ∧ WentNowhere visit.reply

structure Settled (start : σ) (history : List WriteOp) (events : List Event) (visit : Visit)
    (outcome : Outcome) (place : Nat) : Prop where
  cameTo : visit.CameTo start history outcome
  fits : ∀ call, visit.call outcome = some call →
    (PlacedCall.mk call place).Fits clientStore start history
  begins : ∀ call, visit.call outcome = some call →
    SessionCall.held events visit.way.begins ≤ place
  ends : ∀ call, visit.call outcome = some call →
    (PlacedCall.mk call place).after ≤ SessionCall.held events visit.way.ends
  sent : ∀ op, outcome = .update op → history[place]? = some op ∧
    ∃ asked answered client, visit.way = .driven asked answered client ∧
      .broadcast op client ∈ events

variable {start : σ} {history : List WriteOp} {events : List Event}

omit [FloatArith] in
theorem answered_once {base : WriteDedup} (explained : Explained (Justified start base) events)
    {first second : Nat} {client : Sender} {reply other : Reply}
    (one : events[first]? = some (.answer client reply))
    (again : events[second]? = some (.answer client other)) : first = second := by
  have never {early late : Nat} {reply other : Reply} (less : early < late)
      (one : events[early]? = some (.answer client reply))
      (again : events[late]? = some (.answer client other)) : False := by
    obtain ⟨within, here⟩ := List.getElem?_eq_some_iff.mp again
    have split : events = events.take late ++ .answer client other :: events.drop (late + 1) := by
      rw [← here, ← List.drop_eq_getElem_cons within, List.take_append_drop]
    rw [split] at explained
    apply (explained.justifies).1 reply
    apply List.mem_of_getElem? (i := early)
    rw [List.getElem?_take_of_lt less]
    exact one
  rcases Nat.lt_trichotomy first second with less | same | more
  · exact (never less one again).elim
  · exact same
  · exact (never more again one).elim

omit [FloatArith] [RedisStore σ] in
theorem held_le {final : Nat} (applied : appliedOps events = history.take final) (cut : Nat) :
    SessionCall.held events cut ≤ history.length := by
  have front := congrArg List.length (SessionCall.appliedOps_held applied cut)
  rw [List.length_take] at front
  unfold SessionCall.held at front ⊢
  omega

theorem settled_query {visit : Visit} {cut final : Nat} {now : SystemTime}
    (applied : appliedOps events = history.take final)
    (answer : ownAnswer (replay applyOp start (appliedOps (events.take cut))) now visit.cmd =
      some visit.reply)
    (begins : visit.way.begins = cut) (ends : cut ≤ visit.way.ends) :
    visit.Settled start history events (.query now) (SessionCall.held events cut) := by
  rw [SessionCall.appliedOps_held applied cut] at answer
  refine ⟨True.intro, ?_, ?_, ?_, ?_⟩
  · intro call made
    cases made
    exact ⟨held_le applied cut, answer.symm⟩
  · intro call made
    rw [begins]
  · intro call made
    cases made
    exact SessionCall.held_mono events ends
  · intro op impossible
    cases impossible

theorem settled_failed {visit : Visit} (isReplicated : visit.cmd.isReplicated = true)
    (failed : WentNowhere visit.reply) :
    visit.Settled start history events .failed 0 := by
  refine ⟨⟨isReplicated, failed⟩, ?_, ?_, ?_, ?_⟩
  · intro call impossible
    cases impossible
  · intro call impossible
    cases impossible
  · intro call impossible
    cases impossible
  · intro op impossible
    cases impossible

omit [Trains] in
theorem ownAnswer_immediate {store : σ} {cmd : Command} {req : WriteRequest} {reply : Reply}
    (isReplicated : cmd.isReplicated = true) (same : req.argv = cmd.argv)
    (action : writeAction req store = .immediate reply) :
    ownAnswer store req.now cmd = some reply := by
  have asked : writeAction { now := req.now, argv := cmd.argv, reply := 0 } store =
      .immediate reply := by
    rw [← same]
    exact action
  unfold Command.isReplicated at isReplicated
  unfold ownAnswer
  split
  · rename_i class_
    rw [class_] at isReplicated
    cases isReplicated
  · rename_i class_
    rw [class_] at isReplicated
    cases isReplicated
  · rw [asked]
  · rw [asked]

theorem settled_update {cmd : Command} {reply : Reply} {req : WriteRequest} {id : ProcId}
    {asked answered requestId final : Nat} {argv : List Bytes} {clientReply : Option Reply}
    (applied : appliedOps events = history.take final)
    (explained : Explained (Justified start WriteDedup.new) events)
    (isReplicated : cmd.isReplicated = true) (same : req.argv = cmd.argv)
    (action : writeAction req (replay applyOp start (appliedOps (events.take asked))) =
      .broadcast argv clientReply) (later : asked < answered)
    (behind : events[asked + 1]? =
      some (.broadcast (.forRequest id requestId argv clientReply) req.reply))
    (answer : events[answered]? = some (.answer req.reply reply)) :
    ∃ place, Settled start history events ⟨cmd, .driven asked answered req.reply, reply⟩
      (.update (.forRequest id requestId argv clientReply)) place := by
  have away : asked + 1 ≠ answered := by
    intro here
    rw [here, answer] at behind
    cases behind
  have seen : (SessionCall.write (asked + 1) answered req.reply
      (.forRequest id requestId argv clientReply) reply).SeenIn start events :=
    ⟨by omega, behind, answer⟩
  obtain ⟨position, here, count, late, replied⟩ :=
    SessionCall.write_place applied explained seen
  have whole := held_le applied asked
  have early := SessionCall.held_mono events (Nat.le_add_right asked 1)
  have further := SessionCall.held_mono events (Nat.le_add_right answered 1)
  refine ⟨position, ⟨isReplicated, _, req.now, whole, ?_⟩, ?_, ?_, ?_, ?_⟩
  · rw [WriteOp.forRequest_argv, WriteOp.forRequest_clientReply, ← same,
      ← SessionCall.appliedOps_held applied asked]
    exact action
  · intro call made
    cases made
    exact ⟨here, congrArg some replied⟩
  · intro call made
    exact Nat.le_trans early late
  · intro call made
    cases made
    unfold PlacedCall.after
    simp only [Way.ends]
    omega
  · intro op made
    cases made
    exact ⟨here, asked, answered, req.reply, rfl, List.mem_of_getElem? behind⟩

variable [Bincode WriteOp]

theorem settles {id : ProcId} {inputs : List DriverInput} {st : DriverState σ} {final : Nat}
    (taken : TakenUp id (fun req => .request req ∈ inputs) start st events)
    (explained : Explained (Justified start WriteDedup.new) events)
    (applied : appliedOps events = history.take final) {visit : Visit}
    (happens : visit.HappensIn start inputs events) :
    ∃ outcome place, visit.Settled start history events outcome place := by
  obtain ⟨cmd, way, reply⟩ := visit
  cases way with
  | here cut now =>
      obtain ⟨_, _, answer⟩ := happens
      exact ⟨.query now, _, settled_query applied answer rfl (Nat.le_refl _)⟩
  | undriven cut => exact ⟨.failed, 0, settled_failed happens.1 happens.2⟩
  | driven asked answered client =>
      obtain ⟨isReplicated, later, request, answer, own⟩ := happens
      obtain ⟨req, next, known, rfl, behind, made⟩ := taken.follows asked client request
      have same := own req known rfl
      cases made with
      | @immediate first action =>
          obtain rfl := answered_once explained behind answer
          rw [behind] at answer
          cases answer
          exact ⟨.query req.now, _, settled_query applied
            (ownAnswer_immediate isReplicated same action) rfl (Nat.le_add_right asked 2)⟩
      | @refused e requestId argv clientReply failed =>
          obtain rfl := answered_once explained behind answer
          rw [behind] at answer
          cases answer
          exact ⟨.failed, 0, settled_failed isReplicated (.refused e)⟩
      | @sent argv clientReply requestId action =>
          exact ⟨_, settled_update applied explained isReplicated same action later behind answer⟩

def placed (visit : Visit) (settled : Outcome × Nat) :
    Option (PlacedCall WriteOp (SystemTime × Command) (Option Reply)) :=
  (visit.call settled.1).map (fun call => ⟨call, settled.2⟩)

omit [Trains] [RedisStore σ] [FloatArith] [Bincode WriteOp] in
theorem placed_calls (visits : List Visit) (settled : Visit → Outcome × Nat) :
    (visits.filterMap (fun visit => visit.placed (settled visit))).map PlacedCall.call =
      visits.filterMap (fun visit => visit.call (settled visit).1) := by
  rw [List.map_filterMap]
  apply List.filterMap_congr
  intro visit _
  rw [placed, Option.map_map]
  exact Option.map_id'

end Visit

end Store

/-! ### All connections of the ring -/

section Ring

variable [Trains] [AlwaysSerializable MemStore] [Bincode WriteOp] [FloatArith]
  [AlwaysSerializable DeliveredEntry] [AlwaysSerializable ReplicaSnapshot]

theorem answersFrom_visits (moments : Nat → Moment) (served : Nat) (visits : List Visit)
    (each : ∀ (i : Nat) (visit : Visit), visits[i]? = some visit →
      (moments (served + i)).serve visit.cmd = visit.reply) :
    answersFrom moments served (visits.map Visit.cmd) = visits.map Visit.reply := by
  induction visits generalizing served with
  | nil => rfl
  | cons visit visits ih =>
      have first : (moments served).serve visit.cmd = visit.reply := each 0 visit rfl
      have later := ih (served + 1) (fun i other here => by
        have there := each (i + 1) other here
        rw [Nat.add_comm i 1, ← Nat.add_assoc] at there
        exact there)
      rw [List.map_cons, List.map_cons, answersFrom, first, later]

/-- A connection from the bytes it receives, its requests with the way each of
them went.  It takes up a request when it has the reply to the one before. -/
structure ClientRun (start : MemStore) (inputs : List DriverInput) (events : List Event) where
  chunks : List Bytes
  moments : Nat → Moment
  visits : List Visit
  requested : visits.map Visit.cmd = requests chunks
  served : ∀ (i : Nat) (visit : Visit), visits[i]? = some visit →
    (moments i).serve visit.cmd = visit.reply
  happens : ∀ visit ∈ visits, visit.HappensIn start inputs events
  ordered : visits.Pairwise (fun first second => first.way.ends ≤ second.way.begins)

namespace ClientRun

variable {start : MemStore} {inputs : List DriverInput} {events : List Event}

def written (conn : ClientRun start inputs events) : Bytes :=
  (Connection.clientLoop conn.moments .new conn.chunks).written

def Uses (conn : ClientRun start inputs events) (client : Sender) : Prop :=
  ∃ visit ∈ conn.visits, ∃ asked answered, visit.way = .driven asked answered client

theorem replies (conn : ClientRun start inputs events) :
    connectionReplies conn.moments conn.chunks =
      conn.visits.map Visit.reply ++ closing (RespDecoder.new.run conn.chunks).2 := by
  have whole := answersFrom_visits conn.moments 0 conn.visits (fun i visit here => by
    rw [Nat.zero_add]
    exact conn.served i visit here)
  rw [connectionReplies, ← conn.requested, whole]

theorem read_back (conn : ClientRun start inputs events) (lineErrors : LineErrors)
    (fits : ∀ reply ∈ connectionReplies conn.moments conn.chunks, reply.Fits)
    (harmless : ∀ cmd ∈ requests conn.chunks, cmd.Harmless) :
    readReplies conn.written =
      some (conn.visits.map Visit.reply ++ closing (RespDecoder.new.run conn.chunks).2) := by
  have wrote : conn.written =
      (connectionReplies conn.moments conn.chunks).flatMap Reply.encode :=
    Connection.clientLoop_written conn.moments .new conn.chunks
  rw [wrote, ← conn.replies]
  apply readReplies_flatMap
  intro reply member
  have framed : reply.Framed := by
    rcases List.mem_append.mp member with answer | last
    · exact answersFrom_framed lineErrors harmless 0 reply answer
    · exact closing_framed _ reply last
  exact WireReply.all_and reply.wire framed (fits reply member)

def placed (conn : ClientRun start inputs events) (settled : Visit → Visit.Outcome × Nat) :
    List (PlacedCall WriteOp (SystemTime × Command) (Option Reply)) :=
  conn.visits.filterMap (fun visit => visit.placed (settled visit))

variable {history : List WriteOp} {conn : ClientRun start inputs events}
  {settled : Visit → Visit.Outcome × Nat}

theorem mem_placed {placed : PlacedCall WriteOp (SystemTime × Command) (Option Reply)} :
    placed ∈ conn.placed settled ↔ ∃ visit ∈ conn.visits,
      visit.call (settled visit).1 = some placed.call ∧ (settled visit).2 = placed.place := by
  rw [ClientRun.placed, List.mem_filterMap]
  constructor
  · rintro ⟨visit, member, made⟩
    obtain ⟨call, called, rfl⟩ := Option.map_eq_some_iff.mp made
    exact ⟨visit, member, called, rfl⟩
  · rintro ⟨visit, member, called, place⟩
    refine ⟨visit, member, ?_⟩
    rw [Visit.placed, called, place]
    rfl

theorem placed_fit
    (spec : ∀ visit ∈ conn.visits,
      visit.Settled start history events (settled visit).1 (settled visit).2) :
    ∀ placed ∈ conn.placed settled, placed.Fits clientStore start history := by
  intro placed member
  obtain ⟨visit, inConn, called, place⟩ := mem_placed.mp member
  have fits := (spec visit inConn).fits placed.call called
  rw [place] at fits
  exact fits

theorem placed_ordered
    (spec : ∀ visit ∈ conn.visits,
      visit.Settled start history events (settled visit).1 (settled visit).2) :
    (conn.placed settled).Pairwise (fun first second => first.after ≤ second.before) := by
  rw [ClientRun.placed, List.pairwise_filterMap]
  refine conn.ordered.imp_of_mem ?_
  intro first second firstIn secondIn forward one made other later
  obtain ⟨call, called, rfl⟩ := Option.map_eq_some_iff.mp made
  obtain ⟨next, nextCalled, rfl⟩ := Option.map_eq_some_iff.mp later
  have ending := (spec first firstIn).ends call called
  have beginning := (spec second secondIn).begins next nextCalled
  exact ending.trans ((SessionCall.held_mono events forward).trans beginning)

theorem placed_odd
    (spec : ∀ visit ∈ conn.visits,
      visit.Settled start history events (settled visit).1 (settled visit).2)
    {placed : PlacedCall WriteOp (SystemTime × Command) (Option Reply)}
    (member : placed ∈ conn.placed settled) {position : Nat}
    (here : placed.key = 2 * position + 1) :
    ∃ client op, conn.Uses client ∧ history[position]? = some op ∧
      .broadcast op client ∈ events := by
  obtain ⟨visit, inConn, called, place⟩ := mem_placed.mp member
  obtain ⟨at_, op, answer, isUpdate⟩ := PlacedCall.key_odd here
  rw [isUpdate] at called
  cases outcome : (settled visit).1 with
  | query now =>
      rw [outcome] at called
      cases called
  | failed =>
      rw [outcome] at called
      cases called
  | update sent =>
      obtain ⟨there, asked, answered, client, way, broadcast⟩ :=
        (spec visit inConn).sent sent outcome
      rw [place, at_] at there
      exact ⟨client, sent, ⟨visit, inConn, asked, answered, way⟩, there, broadcast⟩

end ClientRun

section Nodes

variable {ι κ : Type} {nodes : ι → DriverCfg} {inputs : ι → List DriverInput} {start : MemStore}
  {history : List WriteOp}

theorem connections_unshared (apart : Function.Injective (fun i => (nodes i).id))
    (admissible : ∀ i,
      Explained (Admissible (nodes i).id) (driverLoop (nodes i) start none (inputs i)).2)
    {home : κ → ι}
    {conns : ∀ k, ClientRun start (inputs (home k))
      (driverLoop (nodes (home k)) start none (inputs (home k))).2}
    (channels : ∀ k l client, home k = home l → (conns k).Uses client →
      (conns l).Uses client → k = l)
    {settled : κ → Visit → Visit.Outcome × Nat}
    (spec : ∀ k, ∀ visit ∈ (conns k).visits, visit.Settled start history
      (driverLoop (nodes (home k)) start none (inputs (home k))).2 (settled k visit).1
      (settled k visit).2) :
    Library.Unshared (fun k => (conns k).placed (settled k)) := by
  have tracked (i : ι) := coldStart_tracked (nodes i) start (inputs i) (admissible i)
  intro k l placed member other otherMember position here there
  obtain ⟨client, op, uses, at_, broadcast⟩ := ClientRun.placed_odd (spec k) member here
  obtain ⟨rivalClient, rivalOp, rivalUses, rivalAt, rivalBroadcast⟩ :=
    ClientRun.placed_odd (spec l) otherMember there
  cases at_.symm.trans rivalAt
  have origin := ((tracked (home k)).assigned _ _ broadcast).1
  have rivalOrigin := ((tracked (home l)).assigned _ _ rivalBroadcast).1
  have sameHome : home k = home l := apart (origin.symm.trans rivalOrigin)
  rw [← sameHome] at rivalBroadcast
  obtain ⟨_, sameClient⟩ :=
    (tracked (home k)).unique _ _ _ _ broadcast rivalBroadcast rfl
  subst sameClient
  exact channels k l client sameHome uses rivalUses

/-- Whatever the clients of all nodes send and however it is cut up, they read
one reply for each request, and the replies are those of one serial store that
the operations reach in the total order; a request that came to nothing says
so. -/
theorem connections_sequentially_consistent {ι κ : Type} [Fintype κ] [DecidableEq κ]
    (nodes : ι → DriverCfg) (inputs : ι → List DriverInput)
    (apart : Function.Injective (fun i => (nodes i).id)) (start : MemStore)
    (history : List WriteOp) (distinct : (history.map WriteOp.ident).Nodup)
    (admissible : ∀ i,
      Explained (Admissible (nodes i).id) (driverLoop (nodes i) start none (inputs i)).2)
    (delivered : ∀ i, ∃ final,
      Stream history 0 (deliveredIn (driverLoop (nodes i) start none (inputs i)).2) final)
    (lineErrors : LineErrors) (home : κ → ι)
    (conns : ∀ k, ClientRun start (inputs (home k))
      (driverLoop (nodes (home k)) start none (inputs (home k))).2)
    (channels : ∀ k l client, home k = home l → (conns k).Uses client →
      (conns l).Uses client → k = l)
    (fits : ∀ k, ∀ reply ∈ connectionReplies (conns k).moments (conns k).chunks, reply.Fits)
    (harmless : ∀ k, ∀ cmd ∈ requests (conns k).chunks, cmd.Harmless) :
    (∀ k, readReplies (conns k).written = some ((conns k).visits.map Visit.reply ++
      closing (RespDecoder.new.run (conns k).chunks).2)) ∧
    ∃ outcome : κ → Visit → Visit.Outcome,
      (∀ k, ∀ visit ∈ (conns k).visits, visit.CameTo start history (outcome k visit)) ∧
        clientStore.SequentiallyConsistent start history
          (fun k => (conns k).visits.filterMap (fun visit => visit.call (outcome k visit))) := by
  constructor
  · exact fun k => (conns k).read_back lineErrors (fits k) (harmless k)
  · have each (k : κ) (visit : Visit) : ∃ settled : Visit.Outcome × Nat,
        visit ∈ (conns k).visits → visit.Settled start history
          (driverLoop (nodes (home k)) start none (inputs (home k))).2 settled.1 settled.2 := by
      by_cases member : visit ∈ (conns k).visits
      · obtain ⟨explained, final, applied⟩ :=
          driverLoop_front distinct (admissible (home k)) (delivered (home k))
        obtain ⟨outcome, place, settled⟩ :=
          Visit.settles (driverLoop_takenUp (nodes (home k)) start (inputs (home k))) explained
            applied ((conns k).happens visit member)
        exact ⟨(outcome, place), fun _ => settled⟩
      · exact ⟨(.failed, 0), fun inConn => absurd inConn member⟩
    choose settled spec using each
    refine ⟨fun k visit => (settled k visit).1, fun k visit member => (spec k visit member).cameTo,
      ?_⟩
    suffices placed : clientStore.SequentiallyConsistent start history
        (fun k => ((conns k).placed (settled k)).map PlacedCall.call) by
      simpa only [ClientRun.placed, Visit.placed_calls] using placed
    apply Library.sequentiallyConsistent_of_placed
    case fits => exact fun k => ClientRun.placed_fit (spec k)
    case ordered => exact fun k => ClientRun.placed_ordered (spec k)
    case unshared => exact connections_unshared apart admissible channels spec

end Nodes

end Ring

/-! ### A writer and a reader on two nodes, byte for byte -/

section Sample

open scoped LoopbackRing

def setK : Command := { name := "SET", argv := LoopbackRing.set "k" "v" }

def writerChunks : List Bytes :=
  let bytes := encodeRequest setK.argv ++ encodeRequest getK.argv
  [bytes.take 9, bytes.drop 9]

def readerChunks : List Bytes := [encodeRequest getK.argv ++ encodeRequest getK.argv]

def writerVisits : List Visit :=
  [⟨setK, .driven 0 4 7, .ok⟩, ⟨getK, .here 5 ⟨0, 0⟩, .bulk (asBytes "v")⟩]

def readerVisits : List Visit :=
  [⟨getK, .here 1 ⟨0, 0⟩, .nil⟩, ⟨getK, .here 3 ⟨0, 0⟩, .bulk (asBytes "v")⟩]

theorem ok_sentByDriver : SentByDriver .ok := by
  refine ⟨sharedNodes false, MemStore.new, none, sharedInputs false, 7,
    sharedTrace_admissible false, ?_⟩
  change _ ∈ sharedTrace false
  rw [sharedTrace_first]
  simp

def writerMoments (i : Nat) : Moment :=
  match i with
  | 0 => { store := MemStore.new, now := ⟨0, 0⟩, driver := .answered .ok ok_sentByDriver }
  | _ => { store := applyOp MemStore.new ownSet, now := ⟨0, 0⟩, driver := .dropped }

def readerMoments (i : Nat) : Moment :=
  match i with
  | 0 => { store := MemStore.new, now := ⟨0, 0⟩, driver := .dropped }
  | _ => { store := applyOp MemStore.new ownSet, now := ⟨0, 0⟩, driver := .dropped }

theorem writer_served (i : Nat) (visit : Visit) (here : writerVisits[i]? = some visit) :
    (writerMoments i).serve visit.cmd = visit.reply := by
  match i with
  | 0 =>
      cases here
      rfl
  | 1 =>
      cases here
      rfl
  | _ + 2 => cases here

theorem writer_happens : ∀ visit ∈ writerVisits,
    visit.HappensIn MemStore.new (sharedInputs false) (sharedTrace false) := by
  intro visit member
  simp only [writerVisits, List.mem_cons, List.not_mem_nil, or_false] at member
  rcases member with rfl | rfl
  · refine ⟨rfl, by omega, rfl, rfl, ?_⟩
    intro req asked _
    simp only [sharedInputs, Bool.false_eq_true, if_false, List.mem_cons, List.not_mem_nil,
      or_false] at asked
    rcases asked with same | impossible
    · cases same
      rfl
    · cases impossible
  · exact ⟨rfl, by rw [sharedTrace_first]; simp, rfl⟩

theorem writer_ordered :
    writerVisits.Pairwise (fun first second => first.way.ends ≤ second.way.begins) := by
  simp [writerVisits, Way.begins, Way.ends]

def writerRun : ClientRun MemStore.new (sharedInputs false) (sharedTrace false) :=
  { chunks := writerChunks
    moments := writerMoments
    visits := writerVisits
    requested := rfl
    served := writer_served
    happens := writer_happens
    ordered := writer_ordered }

theorem reader_served (i : Nat) (visit : Visit) (here : readerVisits[i]? = some visit) :
    (readerMoments i).serve visit.cmd = visit.reply := by
  match i with
  | 0 =>
      cases here
      rfl
  | 1 =>
      cases here
      rfl
  | _ + 2 => cases here

theorem reader_happens : ∀ visit ∈ readerVisits,
    visit.HappensIn MemStore.new (sharedInputs true) (sharedTrace true) := by
  intro visit member
  simp only [readerVisits, List.mem_cons, List.not_mem_nil, or_false] at member
  rcases member with rfl | rfl
  · exact ⟨rfl, by rw [sharedTrace_second]; simp, rfl⟩
  · exact ⟨rfl, by rw [sharedTrace_second]; simp, rfl⟩

theorem reader_ordered :
    readerVisits.Pairwise (fun first second => first.way.ends ≤ second.way.begins) := by
  simp [readerVisits, Way.begins, Way.ends]

def readerRun : ClientRun MemStore.new (sharedInputs true) (sharedTrace true) :=
  { chunks := readerChunks
    moments := readerMoments
    visits := readerVisits
    requested := rfl
    served := reader_served
    happens := reader_happens
    ordered := reader_ordered }

def sharedRun (i : Bool) : ClientRun MemStore.new (sharedInputs i) (sharedTrace i) :=
  match i with
  | false => writerRun
  | true => readerRun

theorem sharedRuns_sequentially_consistent :
    (∀ i, readReplies (sharedRun i).written = some ((sharedRun i).visits.map Visit.reply ++
      closing (RespDecoder.new.run (sharedRun i).chunks).2)) ∧
    ∃ outcome : Bool → Visit → Visit.Outcome,
      (∀ i, ∀ visit ∈ (sharedRun i).visits,
        visit.CameTo MemStore.new [ownSet] (outcome i visit)) ∧
      clientStore.SequentiallyConsistent MemStore.new [ownSet]
        (fun i => (sharedRun i).visits.filterMap (fun visit => visit.call (outcome i visit))) := by
  have lineErrors : LineErrors := by
    intro op e failed
    cases failed
  have fits (i : Bool) :
      ∀ reply ∈ connectionReplies (sharedRun i).moments (sharedRun i).chunks, reply.Fits := by
    rw [(sharedRun i).replies]
    cases i with
    | false =>
        have closed : closing (RespDecoder.new.run writerChunks).2 = [] := rfl
        simp [sharedRun, writerRun, closed, writerVisits, Reply.Fits, Reply.wire, Reply.ok,
          WireReply.All, WireReply.Sized]
        decide
    | true =>
        have closed : closing (RespDecoder.new.run readerChunks).2 = [] := rfl
        simp [sharedRun, readerRun, closed, readerVisits, Reply.Fits, Reply.wire, WireReply.All,
          WireReply.Sized]
        decide
  have harmless (i : Bool) : ∀ cmd ∈ requests (sharedRun i).chunks, cmd.Harmless := by
    cases i with
    | false => decide
    | true => decide
  exact connections_sequentially_consistent sharedNodes sharedInputs sharedNodes_apart MemStore.new
    [ownSet] (by simp) sharedTrace_admissible sharedTrace_delivered lineErrors id sharedRun
    (fun _ _ _ sameHome _ _ => sameHome) fits harmless

end Sample

end TrainsValkey
