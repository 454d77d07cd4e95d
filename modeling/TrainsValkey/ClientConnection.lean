import TrainsValkey.FramedReplies

/-
A client connection from the bytes it receives to the bytes it writes.

Every request gets one reply, in order.  The replies are read back as they were
written exactly when no unsupported command has a line feed in its name: that
reply quotes the name, and nothing on the line is escaped.
-/

set_option autoImplicit false

namespace TrainsValkey

open Trains
open Library (Explained)

/-! ### Requests and their replies -/

def requests (chunks : List Bytes) : List Command :=
  (RespDecoder.new.run chunks).1.filterMap Command.parse

/-- A request whose reply does not quote a line feed. -/
def Command.Harmless (cmd : Command) : Prop :=
  classify cmd.name = .unsupported → 10 ∉ asBytes cmd.name

instance (cmd : Command) : Decidable cmd.Harmless := inferInstanceAs (Decidable (_ → _))

def protocolErrorReply (e : RespError) : Reply := .error s!"ERR Protocol error: {e.display}"

/-- The reply to bytes that are no request; the connection is dropped with it. -/
def closing (left : Except RespError RespDecoder) : List Reply :=
  match left with
  | .error e => [protocolErrorReply e]
  | .ok _ => []

theorem closing_framed (left : Except RespError RespDecoder) :
    ∀ reply ∈ closing left, reply.Framed := by
  cases left with
  | ok decoder => exact fun reply member => nomatch member
  | error e =>
      intro reply member
      rw [List.mem_singleton.mp member]
      cases e with
      | protocol text => cases text <;> exact (Reply.framed_error _).mpr (by decide)

/-- What the types of the source promise of a reply that is written. -/
def Reply.Fits (reply : Reply) : Prop := reply.wire.All WireReply.Sized

/-! ### The connection -/

section Connection

variable [Trains] [AlwaysSerializable MemStore] [Bincode WriteOp] [FloatArith]
  [AlwaysSerializable DeliveredEntry] [AlwaysSerializable ReplicaSnapshot]

/-- The driver sends this reply in some run over a store of this kind, on a
ring that hands it only operations of its own that it sent. -/
def SentByDriver (reply : Reply) : Prop :=
  ∃ (cfg : DriverCfg) (store : MemStore) (promote : Option PromoteSeed)
    (inputs : List DriverInput) (client : Sender),
    Explained (Admissible cfg.id) (driverLoop cfg store promote inputs).2 ∧
      .answer client reply ∈ (driverLoop cfg store promote inputs).2

/-- What comes back when a connection hands a write to the driver. -/
inductive DriverReply where
  | unavailable
  | dropped
  | answered (reply : Reply) (sent : SentByDriver reply)

def DriverReply.reply : DriverReply → Reply
  | .unavailable => .error "ERR replication driver unavailable"
  | .dropped => .error "ERR replication request dropped"
  | .answered reply _ => reply

/-- What a request finds: the store and the clock, should it be a read, and the
driver's answer, should it be a write. -/
structure Moment where
  store : MemStore
  now : SystemTime
  driver : DriverReply

def Moment.serve (moment : Moment) (cmd : Command) : Reply :=
  match classify cmd.name with
  | .read => RedisStore.query moment.store moment.now cmd
  | .write | .nonDeterministic => moment.driver.reply
  | .unsupported =>
      .error s!"ERR unknown command '{cmd.name}' (not in the replication table)"

structure Connection where
  decoder : RespDecoder
  served : Nat
  written : Bytes

namespace Connection

def new : Connection := { decoder := RespDecoder.new, served := 0, written := [] }

def write (conn : Connection) (reply : Reply) : Connection :=
  { conn with written := conn.written ++ reply.encode }

/-- The inner loop of `client_loop`: whether the connection is dropped, and
what it has written.  The turns bound the commands a buffer can hold. -/
def answerBuffered (moments : Nat → Moment) : Nat → Connection → Bool × Connection
  | 0, conn => (false, conn)
  | turns + 1, conn =>
      match conn.decoder.nextCommand with
      | (.error e, _) => (true, conn.write (protocolErrorReply e))
      | (.ok none, decoder) => (false, { conn with decoder })
      | (.ok (some argv), decoder) =>
          match Command.parse argv with
          | none => answerBuffered moments turns { conn with decoder }
          | some cmd =>
              answerBuffered moments turns
                { conn.write ((moments conn.served).serve cmd) with
                  decoder
                  served := conn.served + 1 }

/-- `client_loop` on the chunks it reads until the client closes. -/
def clientLoop (moments : Nat → Moment) : Connection → List Bytes → Connection
  | conn, [] => conn
  | conn, chunk :: rest =>
      let fed := { conn with decoder := conn.decoder.feed chunk }
      match answerBuffered moments (fed.decoder.buf.length + 1) fed with
      | (true, conn) => conn
      | (false, conn) => clientLoop moments conn rest

end Connection

/-! ### The replies of a connection -/

def answersFrom (moments : Nat → Moment) : Nat → List Command → List Reply
  | _, [] => []
  | served, cmd :: rest => (moments served).serve cmd :: answersFrom moments (served + 1) rest

def connectionReplies (moments : Nat → Moment) (chunks : List Bytes) : List Reply :=
  answersFrom moments 0 (requests chunks) ++ closing (RespDecoder.new.run chunks).2

theorem answersFrom_append (moments : Nat → Moment) (served : Nat) (first second : List Command) :
    answersFrom moments served (first ++ second) =
      answersFrom moments served first ++ answersFrom moments (served + first.length) second := by
  induction first generalizing served with
  | nil => rfl
  | cons cmd rest ih =>
      rw [List.cons_append, answersFrom, answersFrom, ih, List.length_cons, List.cons_append,
        Nat.add_right_comm, Nat.add_assoc]

namespace Connection

variable (moments : Nat → Moment)

/-- What a connection has done after it drained its decoder. -/
structure Answered (conn : Connection) (drained : List (List Bytes) × Except RespError RespDecoder)
    (reached : Bool × Connection) : Prop where
  written : reached.2.written = conn.written ++
    (answersFrom moments conn.served (drained.1.filterMap Command.parse) ++
      closing drained.2).flatMap Reply.encode
  dropped : ∀ e, drained.2 = .error e → reached.1 = true
  kept : ∀ decoder, drained.2 = .ok decoder →
    reached.1 = false ∧ reached.2.decoder = decoder ∧
      reached.2.served = conn.served + (drained.1.filterMap Command.parse).length

theorem answerBuffered_answers (turns : Nat) (conn : Connection) :
    Answered moments conn (RespDecoder.drainFor turns conn.decoder)
      (answerBuffered moments turns conn) := by
  induction turns generalizing conn with
  | zero =>
      refine ⟨(List.append_nil _).symm, fun e failed => ?_, fun decoder same => ?_⟩
      · cases failed
      · cases same
        exact ⟨rfl, rfl, rfl⟩
  | succ turns ih =>
      rw [RespDecoder.drainFor, answerBuffered]
      generalize conn.decoder.nextCommand = next
      obtain ⟨answer, decoder⟩ := next
      cases answer with
      | error e =>
          refine ⟨?_, fun _ _ => rfl, fun decoder same => ?_⟩
          · simp [write, answersFrom, closing]
          · cases same
      | ok found =>
          cases found with
          | none =>
              refine ⟨(List.append_nil _).symm, fun e failed => ?_, fun last same => ?_⟩
              · cases failed
              · cases same
                exact ⟨rfl, rfl, rfl⟩
          | some argv =>
              cases parsed : Command.parse argv with
              | none =>
                  have later := ih { conn with decoder }
                  simp only [parsed]
                  refine ⟨?_, later.dropped, fun last same => ?_⟩
                  · simp only [List.filterMap_cons, parsed]
                    exact later.written
                  · simp only [List.filterMap_cons, parsed]
                    exact later.kept last same
              | some cmd =>
                  have later := ih
                    { conn.write ((moments conn.served).serve cmd) with
                      decoder
                      served := conn.served + 1 }
                  simp only [parsed]
                  refine ⟨?_, later.dropped, fun last same => ?_⟩
                  · simp only [List.filterMap_cons, parsed, answersFrom, List.cons_append,
                      List.flatMap_cons]
                    rw [later.written, write, List.append_assoc]
                  · obtain ⟨stays, sameDecoder, served⟩ := later.kept last same
                    refine ⟨stays, sameDecoder, ?_⟩
                    simp only [List.filterMap_cons, parsed, List.length_cons]
                    rw [served]
                    exact Nat.succ_add_eq_add_succ _ _

theorem clientLoop_written (conn : Connection) (chunks : List Bytes) :
    (clientLoop moments conn chunks).written = conn.written ++
      (answersFrom moments conn.served ((conn.decoder.run chunks).1.filterMap Command.parse) ++
        closing (conn.decoder.run chunks).2).flatMap Reply.encode := by
  induction chunks generalizing conn with
  | nil => exact (List.append_nil _).symm
  | cons chunk rest ih =>
      have answered := answerBuffered_answers moments ((conn.decoder.feed chunk).buf.length + 1)
        { conn with decoder := conn.decoder.feed chunk }
      rw [clientLoop, RespDecoder.run]
      simp only at answered ⊢
      generalize answerBuffered moments _ _ = reached at answered ⊢
      generalize RespDecoder.drainFor _ _ = drained at answered ⊢
      obtain ⟨dropped, after⟩ := reached
      obtain ⟨commands, left⟩ := drained
      cases left with
      | error e =>
          cases answered.dropped e rfl
          exact answered.written
      | ok decoder =>
          obtain ⟨stays, sameDecoder, served⟩ := answered.kept decoder rfl
          cases stays
          have written := answered.written
          simp only [closing, List.append_nil] at sameDecoder served written ⊢
          rw [ih, sameDecoder, served, written, List.append_assoc, ← List.flatMap_append,
            ← List.append_assoc, ← answersFrom_append, ← List.filterMap_append]
          rfl

end Connection

/-! ### Which replies keep to their line -/

section Framing

variable {moments : Nat → Moment}

theorem driverReply_framed (lineErrors : LineErrors) (answer : DriverReply) :
    answer.reply.Framed := by
  cases answer with
  | unavailable => exact (Reply.framed_error _).mpr (by decide)
  | dropped => exact (Reply.framed_error _).mpr (by decide)
  | answered reply sent =>
      obtain ⟨cfg, store, promote, inputs, client, admissible, said⟩ := sent
      exact driverLoop_framed lineErrors cfg store promote inputs admissible _ said

theorem serve_framed (lineErrors : LineErrors) (moment : Moment) {cmd : Command}
    (harmless : cmd.Harmless) : (moment.serve cmd).Framed := by
  unfold Moment.serve
  split
  · rename_i class_
    exact moment.store.query_framed cmd moment.now (classify_clear (by rw [class_]; decide))
  · exact driverReply_framed lineErrors moment.driver
  · exact driverReply_framed lineErrors moment.driver
  · rename_i class_
    exact isLine_quote "ERR unknown command '" "' (not in the replication table)"
      (harmless class_) (by decide) (by decide) (by decide)

theorem serve_broken (moment : Moment) {cmd : Command} (harmful : ¬cmd.Harmless) :
    ∃ text, moment.serve cmd = .error text ∧ 10 ∈ asBytes text := by
  obtain ⟨class_, quoted⟩ := Classical.not_imp.mp harmful
  refine ⟨s!"ERR unknown command '{cmd.name}' (not in the replication table)", ?_, ?_⟩
  · rw [Moment.serve, class_]
  · have text : s!"ERR unknown command '{cmd.name}' (not in the replication table)" =
        "ERR unknown command '" ++ cmd.name ++ "' (not in the replication table)" := rfl
    rw [text, asBytes_append, asBytes_append]
    exact List.mem_append_left _ (List.mem_append_right _ (Classical.not_not.mp quoted))

theorem answersFrom_framed (lineErrors : LineErrors) {commands : List Command}
    (harmless : ∀ cmd ∈ commands, cmd.Harmless) (served : Nat) :
    ∀ reply ∈ answersFrom moments served commands, reply.Framed := by
  induction commands generalizing served with
  | nil => exact fun reply member => nomatch member
  | cons cmd rest ih =>
      intro reply member
      rcases List.mem_cons.mp member with rfl | later
      · exact serve_framed lineErrors (moments served) (harmless cmd List.mem_cons_self)
      · exact ih (fun other inRest => harmless other (List.mem_cons_of_mem _ inRest)) _ reply later

end Framing

/-- The replies a connection writes are read back, one for each request and in
order, exactly when no unsupported request has a line feed in its name. -/
theorem one_reply_each_iff (lineErrors : LineErrors) (moments : Nat → Moment)
    (chunks : List Bytes) (fits : ∀ reply ∈ connectionReplies moments chunks, reply.Fits) :
    readReplies (Connection.clientLoop moments .new chunks).written =
        some (connectionReplies moments chunks) ↔
      ∀ cmd ∈ requests chunks, cmd.Harmless := by
  have written : (Connection.clientLoop moments .new chunks).written =
      (connectionReplies moments chunks).flatMap Reply.encode :=
    Connection.clientLoop_written moments .new chunks
  have wellFormed {commands : List Command} (harmless : ∀ cmd ∈ commands, cmd.Harmless)
      (fit : ∀ reply ∈ answersFrom moments 0 commands, reply.Fits) :
      ∀ reply ∈ answersFrom moments 0 commands, reply.wire.WellFormed := fun reply member =>
    WireReply.all_and reply.wire (answersFrom_framed lineErrors harmless 0 reply member)
      (fit reply member)
  rw [written]
  constructor
  · intro read cmd member
    by_contra harmful
    -- the first of the harmful requests
    have some_ : ((requests chunks).find? (fun cmd => !decide cmd.Harmless)).isSome :=
      List.find?_isSome.mpr ⟨cmd, member, by simpa using harmful⟩
    obtain ⟨bad, found⟩ := Option.isSome_iff_exists.mp some_
    obtain ⟨isBad, front, back, split, before⟩ := List.find?_eq_some_iff_append.mp found
    have harmful : ¬bad.Harmless := by simpa using isBad
    obtain ⟨text, said, broken⟩ := serve_broken (moments (0 + front.length)) harmful
    have replies : connectionReplies moments chunks = answersFrom moments 0 front ++
        .error text :: (answersFrom moments (0 + front.length + 1) back ++
          closing (RespDecoder.new.run chunks).2) := by
      rw [connectionReplies, split, answersFrom_append, answersFrom, said, List.append_assoc,
        List.cons_append]
    rw [replies] at read
    refine readReplies_broken (wellFormed ?_ ?_) broken read
    · intro other inFront
      simpa using before other inFront
    · intro reply inFront
      rw [replies] at fits
      exact fits reply (List.mem_append_left _ inFront)
  · intro harmless
    apply readReplies_flatMap
    intro reply member
    rcases List.mem_append.mp member with answer | last
    · exact wellFormed harmless (fun other inAnswers => fits other
        (List.mem_append_left _ inAnswers)) reply answer
    · exact WireReply.all_and reply.wire (closing_framed _ reply last) (fits reply member)

end Connection

/-! ### A pipeline of three requests, and a name that answers twice -/

section Sample

open scoped LoopbackRing

def stoppedNode : Moment := { store := MemStore.new, now := ⟨0, 0⟩, driver := .unavailable }

def pipeline : List Bytes :=
  [encodeRequest [asBytes "PING"] ++ encodeRequest [asBytes "SUBSCRIBE", asBytes "a\nb"],
    encodeRequest [asBytes "SET", asBytes "k", asBytes "\r\n"]]

def quotedNewline : List Bytes := [encodeRequest [asBytes "X\n+OK"]]

theorem pipeline_replies : connectionReplies (fun _ => stoppedNode) pipeline =
    [.simple "PONG", .error "ERR unknown command 'SUBSCRIBE' (not in the replication table)",
      .error "ERR replication driver unavailable"] := by
  rfl

theorem one_reply_each_pipeline :
    readReplies (Connection.clientLoop (fun _ => stoppedNode) .new pipeline).written =
      some (connectionReplies (fun _ => stoppedNode) pipeline) := by
  have lineErrors : LineErrors := by
    intro op e failed
    cases failed
  refine (one_reply_each_iff lineErrors (fun _ => stoppedNode) pipeline ?_).mpr ?_
  · rw [pipeline_replies]
    simp [Reply.Fits, Reply.wire, WireReply.All, WireReply.Sized]
  · decide

theorem quoted_newline_reads_twice :
    readReplies (Connection.clientLoop (fun _ => stoppedNode) .new quotedNewline).written =
        some [.error "ERR unknown command 'X", .simple "OK' (not in the replication table)"] ∧
      readReplies (Connection.clientLoop (fun _ => stoppedNode) .new quotedNewline).written ≠
        some (connectionReplies (fun _ => stoppedNode) quotedNewline) := by
  have read : readReplies
      (Connection.clientLoop (fun _ => stoppedNode) .new quotedNewline).written =
        some [.error "ERR unknown command 'X", .simple "OK' (not in the replication table)"] := by
    rfl
  refine ⟨read, ?_⟩
  rw [read]
  intro same
  exact absurd (congrArg (Option.map List.length) same) (by decide)

end Sample

end TrainsValkey
