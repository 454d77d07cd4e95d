import TrainsValkey.Classify
import TrainsValkey.Command
import TrainsValkey.ReplyReader

/-
The connection of a backend to its engine.

All reads and the apply path share one connection, and a call reads one reply
off it.  A reply that the reader rejects half-way leaves its rest unread, and
nothing ever discards that rest.  An engine that speaks RESP2 sends no such
reply; the reply to an accepted `HELLO 3` is one.
-/

set_option autoImplicit false

namespace TrainsValkey

/-! ### The engine -/

/-- An engine at the other end of the connection.  It answers a request with
one reply, in RESP2 until it accepts `HELLO 3`; the reply to that is a map. -/
structure RespEngine where
  State : Type
  start : State
  respond : State → List Bytes → State × Bytes
  resp3 : State → Bool
  starts : resp3 start = false
  resp2_reply : ∀ state argv, resp3 (respond state argv).1 = false →
    ∃ reply : WireReply, reply.WellFormed ∧ (respond state argv).2 = reply.bytes
  hello_reply : ∀ state argv, resp3 state = false → resp3 (respond state argv).1 = true →
    ∃ (count : Nat) (entries : Bytes),
      (respond state argv).2 = 37 :: (i64Bytes count ++ crlf) ++ entries ∧ entries ≠ []
  hello_only : ∀ state argv, resp3 state = false → resp3 (respond state argv).1 = true →
    ∃ cmd, Command.parse argv = some cmd ∧ cmd.name = "HELLO" ∧ cmd.arg 1 = some (asBytes "3")

namespace RespEngine

variable (engine : RespEngine)

def AcceptsHello (state : engine.State) (argv : List Bytes) : Prop :=
  engine.resp3 state = false ∧ engine.resp3 (engine.respond state argv).1 = true

/-- No request follows one in which the engine accepts `HELLO 3`. -/
def NothingAfterHello : engine.State → List (List Bytes) → Prop
  | _, [] => True
  | state, argv :: rest =>
      (engine.AcceptsHello state argv → rest = []) ∧
        NothingAfterHello (engine.respond state argv).1 rest

variable {engine}

theorem nothingAfterHello_of_noHello {requests : List (List Bytes)}
    (noHello : ∀ argv ∈ requests, ∀ cmd, Command.parse argv = some cmd →
      cmd.name = "HELLO" → cmd.arg 1 ≠ some (asBytes "3")) (state : engine.State) :
    engine.NothingAfterHello state requests := by
  induction requests generalizing state with
  | nil => exact True.intro
  | cons argv rest ih =>
      constructor
      · intro accepts
        obtain ⟨cmd, parsed, name, version⟩ := engine.hello_only state argv accepts.1 accepts.2
        exact absurd version (noHello argv List.mem_cons_self cmd parsed name)
      · exact ih (fun other member => noHello other (List.mem_cons_of_mem _ member)) _

end RespEngine

/-! ### The connection -/

structure BackendConn (engine : RespEngine) where
  engineState : engine.State
  /-- What the engine sent and no call has read. -/
  unread : Bytes

/-- A call of `RedisBackend::command`: what it found unread, what the engine
sent for it, and what it returned, if it did not wait for more bytes. -/
structure BackendCall where
  unread : Bytes
  sent : Bytes
  answer : Option Reply

def backendReadFailed (e : ReadError) : Reply := .error s!"ERR backend read failed: {e.display}"

namespace BackendConn

variable {engine : RespEngine}

def new (engine : RespEngine) : BackendConn engine := { engineState := engine.start, unread := [] }

def command (conn : BackendConn engine) (argv : List Bytes) : BackendCall × BackendConn engine :=
  let (engineState, sent) := engine.respond conn.engineState argv
  match readReply false (conn.unread ++ sent) with
  | .blocked =>
      ({ unread := conn.unread, sent, answer := none },
        { engineState, unread := conn.unread ++ sent })
  | .finished (.ok r) rest =>
      ({ unread := conn.unread, sent, answer := some r }, { engineState, unread := rest })
  | .finished (.error e) rest =>
      ({ unread := conn.unread, sent, answer := some (backendReadFailed e) },
        { engineState, unread := rest })

/-- One call after the other.  Nothing follows a call that waits. -/
def calls : BackendConn engine → List (List Bytes) → List BackendCall
  | _, [] => []
  | conn, argv :: rest =>
      let (call, next) := conn.command argv
      call :: (if call.answer.isSome then calls next rest else [])

end BackendConn

/-- The call returned the engine's reply to its own request, or an error, and
read nothing that was sent before the request. -/
structure BackendCall.Aligned (call : BackendCall) : Prop where
  unread : call.unread = []
  answer :
    (∃ reply : WireReply, reply.WellFormed ∧ call.sent = reply.bytes ∧
      call.answer = some reply.reply) ∨
    ∃ e, call.answer = some (backendReadFailed e)

/-! ### One call -/

namespace BackendConn

variable {engine : RespEngine} {conn : BackendConn engine} {argv : List Bytes}

theorem command_resp2 (aligned : conn.unread = [])
    (resp2 : engine.resp3 (engine.respond conn.engineState argv).1 = false) :
    (conn.command argv).1.Aligned ∧ (conn.command argv).1.answer.isSome = true ∧
      (conn.command argv).2 =
        { engineState := (engine.respond conn.engineState argv).1, unread := [] } := by
  obtain ⟨reply, wellFormed, sent⟩ := engine.resp2_reply conn.engineState argv resp2
  have read := readReply_bytes wellFormed false []
  rw [List.append_nil] at read
  have done : conn.command argv =
      ({ unread := [], sent := reply.bytes, answer := some reply.reply },
        { engineState := (engine.respond conn.engineState argv).1, unread := [] }) := by
    simp only [command, aligned, List.nil_append, sent, read]
  rw [done]
  exact ⟨⟨rfl, Or.inl ⟨reply, wellFormed, rfl, rfl⟩⟩, rfl, rfl⟩

theorem command_hello (aligned : conn.unread = [])
    (accepts : engine.AcceptsHello conn.engineState argv) :
    (conn.command argv).1.Aligned ∧ (conn.command argv).1.answer.isSome = true ∧
      (conn.command argv).2.unread ≠ [] := by
  obtain ⟨count, entries, sent, some_⟩ := engine.hello_reply conn.engineState argv accepts.1 accepts.2
  have read : readReply false (37 :: (i64Bytes count ++ crlf) ++ entries) =
      .finished (.error (.unknownMarker 37)) entries :=
    readReplyFor_line (isLine_i64Bytes count) (by decide) (by decide) false _ entries
  have done : conn.command argv =
      ({ unread := []
         sent := 37 :: (i64Bytes count ++ crlf) ++ entries
         answer := some (backendReadFailed (.unknownMarker 37)) },
        { engineState := (engine.respond conn.engineState argv).1, unread := entries }) := by
    simp only [command, aligned, List.nil_append, sent, read]
  rw [done]
  exact ⟨⟨rfl, Or.inr ⟨_, rfl⟩⟩, rfl, some_⟩

theorem command_unread (conn : BackendConn engine) (argv : List Bytes) :
    (conn.command argv).1.unread = conn.unread := by
  unfold command
  simp only
  split <;> rfl

/-! ### All calls -/

theorem calls_aligned_iff (resp2 : engine.resp3 conn.engineState = false)
    (aligned : conn.unread = []) (requests : List (List Bytes)) :
    (∀ call ∈ conn.calls requests, call.Aligned) ↔
      engine.NothingAfterHello conn.engineState requests := by
  induction requests generalizing conn with
  | nil => simp [calls, RespEngine.NothingAfterHello]
  | cons argv rest ih =>
      rw [calls, RespEngine.NothingAfterHello]
      simp only [List.forall_mem_cons]
      cases after : engine.resp3 (engine.respond conn.engineState argv).1 with
      | false =>
          obtain ⟨own, returned, next⟩ := command_resp2 aligned after
          have stays : ¬engine.AcceptsHello conn.engineState argv := by
            intro accepts
            rw [accepts.2] at after
            cases after
          rw [if_pos returned, next, ih after rfl]
          simp [own, stays]
      | true =>
          obtain ⟨own, returned, some_⟩ := command_hello aligned ⟨resp2, after⟩
          rw [if_pos returned]
          cases rest with
          | nil => simp [own, calls, RespEngine.NothingAfterHello]
          | cons later rest =>
              constructor
              · intro all
                have first : ((conn.command argv).2.command later).1.Aligned :=
                  all.2 _ List.mem_cons_self
                have unread := first.unread
                rw [command_unread] at unread
                exact absurd unread some_
              · intro quiet
                exact nomatch quiet.1 ⟨resp2, after⟩

end BackendConn

/-- No call returns what was sent for an earlier one, and every call returns
its own reply or an error, exactly when no request follows an accepted
`HELLO 3`. -/
theorem backend_aligned_iff (engine : RespEngine) (requests : List (List Bytes)) :
    (∀ call ∈ (BackendConn.new engine).calls requests, call.Aligned) ↔
      engine.NothingAfterHello engine.start requests :=
  BackendConn.calls_aligned_iff engine.starts rfl requests

/-- As long as nobody asks for RESP3, every call is aligned. -/
theorem calls_aligned_of_noHello (engine : RespEngine) {requests : List (List Bytes)}
    (noHello : ∀ argv ∈ requests, ∀ cmd, Command.parse argv = some cmd →
      cmd.name = "HELLO" → cmd.arg 1 ≠ some (asBytes "3")) :
    ∀ call ∈ (BackendConn.new engine).calls requests, call.Aligned := by
  apply (BackendConn.calls_aligned_iff engine.starts rfl requests).mpr
  exact RespEngine.nothingAfterHello_of_noHello noHello engine.start

/-! ### A read after `HELLO 3` -/

section Sample

set_option maxRecDepth 4096

def helloEntries : Bytes :=
  asBytes "$6\r\nserver\r\n$6\r\nvalkey\r\n$7\r\nversion\r\n$5\r\n8.0.1\r\n" ++
    asBytes "$5\r\nproto\r\n:3\r\n$2\r\nid\r\n:4\r\n$4\r\nmode\r\n$10\r\nstandalone\r\n" ++
    asBytes "$4\r\nrole\r\n$6\r\nmaster\r\n$7\r\nmodules\r\n*0\r\n"

def isHello3 (argv : List Bytes) : Bool :=
  match Command.parse argv with
  | some cmd => cmd.name == "HELLO" && cmd.arg 1 == some (asBytes "3")
  | none => false

def emptyRespond (resp3 : Bool) (argv : List Bytes) : Bool × Bytes :=
  if isHello3 argv then (true, asBytes "%7\r\n" ++ helloEntries)
  else if resp3 then (true, asBytes "_\r\n")
  else (false, WireReply.nil.bytes)

theorem emptyRespond_resp2 (resp3 : Bool) (argv : List Bytes)
    (resp2 : (emptyRespond resp3 argv).1 = false) :
    ∃ reply : WireReply, reply.WellFormed ∧ (emptyRespond resp3 argv).2 = reply.bytes := by
  unfold emptyRespond at resp2 ⊢
  split at resp2
  · cases resp2
  · rename_i notHello
    split at resp2
    · cases resp2
    · rename_i notResp3
      rw [if_neg notHello, if_neg notResp3]
      exact ⟨.nil, ⟨True.intro, True.intro⟩, rfl⟩

theorem emptyRespond_switches {argv : List Bytes}
    (switched : (emptyRespond false argv).1 = true) : isHello3 argv = true := by
  unfold emptyRespond at switched
  split at switched
  · assumption
  · cases switched

theorem emptyRespond_hello (resp3 : Bool) (argv : List Bytes) (before : resp3 = false)
    (switched : (emptyRespond resp3 argv).1 = true) :
    ∃ (count : Nat) (entries : Bytes),
      (emptyRespond resp3 argv).2 = 37 :: (i64Bytes count ++ crlf) ++ entries ∧ entries ≠ [] := by
  subst before
  refine ⟨7, helloEntries, ?_, by decide⟩
  rw [emptyRespond, if_pos (emptyRespond_switches switched)]
  rfl

theorem emptyRespond_only (resp3 : Bool) (argv : List Bytes) (before : resp3 = false)
    (switched : (emptyRespond resp3 argv).1 = true) :
    ∃ cmd, Command.parse argv = some cmd ∧ cmd.name = "HELLO" ∧
      cmd.arg 1 = some (asBytes "3") := by
  subst before
  have hello := emptyRespond_switches switched
  unfold isHello3 at hello
  split at hello
  · rename_i cmd parsed
    obtain ⟨name, version⟩ := Bool.and_eq_true_iff.mp hello
    exact ⟨cmd, parsed, eq_of_beq name, eq_of_beq version⟩
  · cases hello

def emptyEngine : RespEngine where
  State := Bool
  start := false
  respond := emptyRespond
  resp3 speaks := speaks
  starts := rfl
  resp2_reply := emptyRespond_resp2
  hello_reply := emptyRespond_hello
  hello_only := emptyRespond_only

def helloThenGet : List (List Bytes) :=
  [[asBytes "HELLO", asBytes "3"], [asBytes "GET", asBytes "k"]]

theorem get_returns_hello_entry :
    ((BackendConn.new emptyEngine).calls helloThenGet).map (·.answer) =
        [some (.error "ERR backend read failed: unknown RESP reply marker 37"),
          some (.bulk (asBytes "server"))] ∧
      ¬∀ call ∈ (BackendConn.new emptyEngine).calls helloThenGet, call.Aligned := by
  have answers : ((BackendConn.new emptyEngine).calls helloThenGet).map (·.answer) =
      [some (.error "ERR backend read failed: unknown RESP reply marker 37"),
        some (.bulk (asBytes "server"))] := by
    rfl
  refine ⟨answers, fun all => ?_⟩
  have unread : ((BackendConn.new emptyEngine).calls helloThenGet)[1]?.map (·.unread) =
      some helloEntries := by
    rfl
  obtain ⟨call, found, left⟩ := Option.map_eq_some_iff.mp unread
  have aligned := (all call (List.mem_of_getElem? found)).unread
  rw [left] at aligned
  exact absurd aligned (by decide)

end Sample

end TrainsValkey
