import TrainsValkey.Replica

/-
The connection over which a backend reads and writes the keyspace of its engine.

A survivor reads its keyspace with `SCAN` and `DUMP`, a rejoiner writes it with
`FLUSHDB` and `RESTORE`, one round trip for each command, and any of them can
fail.
-/

set_option autoImplicit false

namespace TrainsValkey

open Std (ExtTreeMap)
/-! ### The two loops -/

/-- A connection to an engine: one request, one reply. -/
structure EngineLink where
  State : Type
  command : State → List Bytes → Reply × State

/-- Key, `PTTL` in milliseconds, `DUMP` blob. -/
abbrev SnapshotEntry := Bytes × Int × Bytes

abbrev SnapshotEntries := List SnapshotEntry

def scanRequest (cursor : Bytes) : List Bytes :=
  [asBytes "SCAN", cursor, asBytes "COUNT", asBytes "512"]

def dumpRequest (key : Bytes) : List Bytes := [asBytes "DUMP", key]

def pttlRequest (key : Bytes) : List Bytes := [asBytes "PTTL", key]

def flushdbRequest : List Bytes := [asBytes "FLUSHDB"]

def restoreRequest (key : Bytes) (ttl : Int) (dump : Bytes) : List Bytes :=
  [asBytes "RESTORE", key, i64Bytes ttl, dump, asBytes "REPLACE"]

/-- The next cursor and the listed keys; `none` ends the scan. -/
def scanPage : Reply → Option (Bytes × List Reply)
  | .array [.bulk next, .array keys] => some (next, keys)
  | .array [.bulk next, _] => some (next, [])
  | _ => none

namespace EngineLink

variable (link : EngineLink)

def dumpEntry (key : Bytes) (st : link.State) : Option SnapshotEntry × link.State :=
  match link.command st (dumpRequest key) with
  | (.bulk dump, st) =>
      match link.command st (pttlRequest key) with
      | (.integer n, st) => (some (key, n, dump), st)
      | (_, st) => (some (key, -1, dump), st)
  | (_, st) => (none, st)

/-- The inner loop of `export_snapshot`. -/
def exportPage : List Reply → link.State → SnapshotEntries → SnapshotEntries × link.State
  | [], st, entries => (entries, st)
  | .bulk key :: rest, st, entries =>
      let (entry, st) := link.dumpEntry key st
      exportPage rest st (entries ++ entry.toList)
  | _ :: rest, st, entries => exportPage rest st entries

/-- The loop of `export_snapshot`, for so many pages at most: `none` is a scan
that goes on after them. -/
def exportLoop : Nat → link.State → Bytes → SnapshotEntries → Option SnapshotEntries
  | 0, _, _, _ => none
  | pages + 1, st, cursor, entries =>
      let (reply, st) := link.command st (scanRequest cursor)
      match scanPage reply with
      | none => some entries
      | some (next, keys) =>
          let (entries, st) := link.exportPage keys st entries
          if next = asBytes "0" then some entries else exportLoop pages st next entries

/-- The loop of `import_snapshot`. -/
def restoreEntries : SnapshotEntries → link.State → link.State
  | [], st => st
  | (key, ttl, dump) :: rest, st =>
      let ttl := if ttl < 0 then 0 else ttl
      restoreEntries rest (link.command st (restoreRequest key ttl dump)).2

variable [AlwaysSerializable SnapshotEntries]

def exportSnapshot (pages : Nat) (st : link.State) : Option Bytes :=
  (link.exportLoop pages st (asBytes "0") []).map serialize

def importSnapshot (st : link.State) (bytes : Bytes) : Except SnapshotError Unit × link.State :=
  match (decodeFromSlice bytes : Except String SnapshotEntries) with
  | .error e => (.error { decode := e }, st)
  | .ok entries => (.ok (), link.restoreEntries entries (link.command st flushdbRequest).2)

end EngineLink

/-! ### The engine -/

def dumpReply {Value : Type} (dump : Value → Bytes) : Option Value → Reply
  | some value => .bulk (dump value)
  | none => .nil

/-- What the two loops rely on of an engine.  `values` is the keyspace that a
client sees; a scan leaves it alone and comes back to cursor 0 after so many
pages, having listed every key. -/
structure DumpEngine where
  State : Type
  Value : Type
  values : State → ExtTreeMap Bytes Value
  exec : State → List Bytes → Reply × State
  dump : Value → Bytes
  scan : State → Bytes → Bytes × List Bytes
  pages : State → Nat
  scan_reply : ∀ st cursor, exec st (scanRequest cursor) =
    (.array [.bulk (scan st cursor).1, .array ((scan st cursor).2.map .bulk)], st)
  pages_pos : ∀ st, 0 < pages st
  scan_returns : ∀ st page, page + 1 ≤ pages st →
    ((fun cursor => (scan st cursor).1)^[page + 1] (asBytes "0") = asBytes "0" ↔
      page + 1 = pages st)
  scan_lists : ∀ st key, key ∈ values st → ∃ page, page < pages st ∧
    key ∈ (scan st ((fun cursor => (scan st cursor).1)^[page] (asBytes "0"))).2
  dump_reply : ∀ st key, exec st (dumpRequest key) = (dumpReply dump (values st)[key]?, st)
  pttl_reply : ∀ st key, ∃ n, inI64 n = true ∧ exec st (pttlRequest key) = (.integer n, st)
  flushdb_effect : ∀ st, values (exec st flushdbRequest).2 = ∅
  restore_effect : ∀ st key ttl value, 0 ≤ ttl → inI64 ttl = true →
    values (exec st (restoreRequest key ttl (dump value))).2 = (values st).insert key value

/-! ### Failures on the way -/

/-- A `SCAN` that does not answer with its page: with something the loop does
not read as a page, or with the cursor and other items. -/
inductive ScanFault where
  | refused (reply : Reply) (unread : scanPage reply = none)
  | garbled (items : Reply)

def ScanFault.answer : ScanFault → Reply → Reply
  | .refused reply _, _ => reply
  | .garbled items, .array (next :: _) => .array [next, items]
  | .garbled _, reply => reply

/-- Which commands of one transfer fail and what they answer: the n-th `SCAN`,
the n-th `DUMP` or `RESTORE` of a key, the `PTTL` after so many `DUMP`s of its
key, the `FLUSHDB`.  A command that fails is not executed; what it answers is
not what the loop expects of the command. -/
structure TransferFaults where
  scan : Nat → Option ScanFault
  dump : Bytes → Nat → Option Reply
  pttl : Bytes → Nat → Option Reply
  flushdb : Option Reply
  restore : Bytes → Nat → Option Reply
  dump_not_bulk : ∀ key i blob, dump key i ≠ some (.bulk blob)
  pttl_i64 : ∀ key i n, pttl key i = some (.integer n) → inI64 n = true

structure FaultyConn (engine : DumpEngine) where
  engineState : engine.State
  scans : Nat
  dumped : List Bytes
  restored : List Bytes

/-- The commands of a transfer. -/
inductive Verb where
  | scan
  | dump
  | pttl
  | flushdb
  | restore
  | other

def verb (argv : List Bytes) : Verb :=
  if argv.head? = some (asBytes "SCAN") then .scan
  else if argv.head? = some (asBytes "DUMP") then .dump
  else if argv.head? = some (asBytes "PTTL") then .pttl
  else if argv.head? = some (asBytes "FLUSHDB") then .flushdb
  else if argv.head? = some (asBytes "RESTORE") then .restore
  else .other

def requestKey (argv : List Bytes) : Bytes := argv.tail.headD []

def TransferFaults.fault (faults : TransferFaults) {engine : DumpEngine}
    (conn : FaultyConn engine) (argv : List Bytes) : Option (Reply → Reply) :=
  let key := requestKey argv
  match verb argv with
  | .scan => (faults.scan conn.scans).map ScanFault.answer
  | .dump => (faults.dump key (conn.dumped.count key)).map (Function.const Reply)
  | .pttl => (faults.pttl key (conn.dumped.count key)).map (Function.const Reply)
  | .flushdb => faults.flushdb.map (Function.const Reply)
  | .restore => (faults.restore key (conn.restored.count key)).map (Function.const Reply)
  | .other => none

namespace FaultyConn

variable {engine : DumpEngine}

def connected (engineState : engine.State) : FaultyConn engine :=
  { engineState, scans := 0, dumped := [], restored := [] }

def note (conn : FaultyConn engine) (argv : List Bytes) : FaultyConn engine :=
  match verb argv with
  | .scan => { conn with scans := conn.scans + 1 }
  | .dump => { conn with dumped := requestKey argv :: conn.dumped }
  | .restore => { conn with restored := requestKey argv :: conn.restored }
  | _ => conn

def command (faults : TransferFaults) (conn : FaultyConn engine) (argv : List Bytes) :
    Reply × FaultyConn engine :=
  let (reply, engineState) := engine.exec conn.engineState argv
  match faults.fault conn argv with
  | some answer => (answer reply, conn.note argv)
  | none => (reply, { conn.note argv with engineState })

end FaultyConn

abbrev faultyLink (engine : DumpEngine) (faults : TransferFaults) : EngineLink where
  State := FaultyConn engine
  command := FaultyConn.command faults

/-! ### One command -/

section Command

variable {engine : DumpEngine} (faults : TransferFaults) (conn : FaultyConn engine)

theorem command_scan (cursor : Bytes) :
    conn.command faults (scanRequest cursor) =
      (match faults.scan conn.scans with
        | some fault => fault.answer (engine.exec conn.engineState (scanRequest cursor)).1
        | none => (engine.exec conn.engineState (scanRequest cursor)).1,
        { conn with scans := conn.scans + 1 }) := by
  have scans : verb (scanRequest cursor) = .scan := rfl
  simp only [FaultyConn.command, TransferFaults.fault, FaultyConn.note, scans, engine.scan_reply]
  cases faults.scan conn.scans with
  | none => rfl
  | some fault => rfl

theorem command_dump (key : Bytes) :
    conn.command faults (dumpRequest key) =
      ((faults.dump key (conn.dumped.count key)).getD
        (engine.exec conn.engineState (dumpRequest key)).1,
        { conn with dumped := key :: conn.dumped }) := by
  have dumps : verb (dumpRequest key) = .dump := rfl
  have same : requestKey (dumpRequest key) = key := rfl
  simp only [FaultyConn.command, TransferFaults.fault, FaultyConn.note, dumps, same,
    engine.dump_reply]
  cases faults.dump key (conn.dumped.count key) with
  | none => rfl
  | some reply => rfl

theorem command_pttl (key : Bytes) :
    conn.command faults (pttlRequest key) =
      ((faults.pttl key (conn.dumped.count key)).getD
        (engine.exec conn.engineState (pttlRequest key)).1, conn) := by
  have asks : verb (pttlRequest key) = .pttl := rfl
  have same : requestKey (pttlRequest key) = key := rfl
  obtain ⟨n, _, reply⟩ := engine.pttl_reply conn.engineState key
  simp only [FaultyConn.command, TransferFaults.fault, FaultyConn.note, asks, same, reply]
  cases faults.pttl key (conn.dumped.count key) with
  | none => rfl
  | some reply => rfl

theorem command_flushdb :
    (conn.command faults flushdbRequest).2 =
      match faults.flushdb with
      | some _ => conn
      | none => { conn with engineState := (engine.exec conn.engineState flushdbRequest).2 } := by
  have flushes : verb flushdbRequest = .flushdb := rfl
  simp only [FaultyConn.command, TransferFaults.fault, FaultyConn.note, flushes]
  cases faults.flushdb with
  | none => rfl
  | some reply => rfl

theorem command_restore (key : Bytes) (ttl : Int) (dump : Bytes) :
    (conn.command faults (restoreRequest key ttl dump)).2 =
      match faults.restore key (conn.restored.count key) with
      | some _ => { conn with restored := key :: conn.restored }
      | none =>
          { conn with
            restored := key :: conn.restored
            engineState := (engine.exec conn.engineState (restoreRequest key ttl dump)).2 } := by
  have restores : verb (restoreRequest key ttl dump) = .restore := rfl
  have same : requestKey (restoreRequest key ttl dump) = key := rfl
  simp only [FaultyConn.command, TransferFaults.fault, FaultyConn.note, restores, same]
  cases faults.restore key (conn.restored.count key) with
  | none => rfl
  | some reply => rfl

end Command

end TrainsValkey
