import TrainsValkey.EngineTransfer
import TrainsValkey.Library.Expiring
import TrainsValkey.ReplyReader

/-
The expiry of keys in a transfer between two engines.

The export asks for a key's value and then for the time it has left, and time
passes in between.  A key that has run out by then, or has less than a
millisecond left, is sent with a time that the import reads as none at all.
-/

set_option autoImplicit false

namespace TrainsValkey

open Std (ExtTreeMap)
open Library (Cell Keyspace numberedFrom numberedFrom_append mem_numberedFrom numberedFrom_split)

/-! ### An engine with a clock -/

/-- What the two loops rely on of an engine whose keys expire.  A cell is gone
from its deadline on; `left` counts the whole milliseconds until then, which
may be none while the cell is there. -/
structure ClockedEngine where
  State : Type
  Value : Type
  cells : State → Keyspace Bytes Value
  exec : Nat → State → List Bytes → Reply × State
  dump : Value → Bytes
  scan : Nat → State → Bytes → Bytes × List Bytes
  left : Nat → Nat → Nat
  left_antitone : ∀ deadline now later, now ≤ later → left deadline later ≤ left deadline now
  left_i64 : ∀ deadline now, inI64 (left deadline now) = true
  scan_reply : ∀ now st cursor, exec now st (scanRequest cursor) =
    (.array [.bulk (scan now st cursor).1, .array ((scan now st cursor).2.map .bulk)], st)
  dump_reply : ∀ now st key, exec now st (dumpRequest key) =
    (dumpReply dump (((cells st).live now key).map Cell.value), st)
  pttl_missing : ∀ now st key, (cells st).live now key = none →
    exec now st (pttlRequest key) = (.integer (-2), st)
  pttl_unlimited : ∀ now st key value, (cells st).live now key = some ⟨value, none⟩ →
    exec now st (pttlRequest key) = (.integer (-1), st)
  pttl_expiring : ∀ now st key value deadline,
    (cells st).live now key = some ⟨value, some deadline⟩ →
      exec now st (pttlRequest key) = (.integer (left deadline now), st)
  flushdb_effect : ∀ now st, cells (exec now st flushdbRequest).2 = fun _ => none
  restore_unlimited : ∀ now st key value,
    cells (exec now st (restoreRequest key 0 (dump value))).2 =
      Function.update (cells st) key (some ⟨value, none⟩)
  restore_expiring : ∀ now st key ttl value, 0 < ttl → inI64 ttl = true →
    cells (exec now st (restoreRequest key ttl (dump value))).2 = cells st ∨
      ∃ deadline, cells (exec now st (restoreRequest key ttl (dump value))).2 =
        Function.update (cells st) key (some ⟨value, some deadline⟩)

/-- When the commands of one transfer run: the n-th `SCAN`, the n-th `DUMP` of
a key and the `PTTL` after it, the `FLUSHDB`, the n-th `RESTORE` of a key. -/
structure Timing where
  scanned : Nat → Nat
  dumped : Bytes → Nat → Nat
  asked : Bytes → Nat → Nat
  flushed : Nat
  restored : Bytes → Nat → Nat
  dumped_le_asked : ∀ key i, dumped key i ≤ asked key i
  asked_le_dumped : ∀ key i, asked key i ≤ dumped key (i + 1)

structure TimedConn (engine : ClockedEngine) where
  engineState : engine.State
  scans : Nat
  dumped : List Bytes
  restored : List Bytes

namespace TimedConn

variable {engine : ClockedEngine}

def connected (engineState : engine.State) : TimedConn engine :=
  { engineState, scans := 0, dumped := [], restored := [] }

def note (conn : TimedConn engine) (argv : List Bytes) : TimedConn engine :=
  match verb argv with
  | .scan => { conn with scans := conn.scans + 1 }
  | .dump => { conn with dumped := requestKey argv :: conn.dumped }
  | .restore => { conn with restored := requestKey argv :: conn.restored }
  | _ => conn

def now (timing : Timing) (conn : TimedConn engine) (argv : List Bytes) : Nat :=
  let key := requestKey argv
  match verb argv with
  | .scan => timing.scanned conn.scans
  | .dump => timing.dumped key (conn.dumped.count key)
  | .pttl => timing.asked key (conn.dumped.count key - 1)
  | .flushdb => timing.flushed
  | .restore => timing.restored key (conn.restored.count key)
  | .other => 0

def command (timing : Timing) (conn : TimedConn engine) (argv : List Bytes) :
    Reply × TimedConn engine :=
  let (reply, engineState) := engine.exec (conn.now timing argv) conn.engineState argv
  (reply, { conn.note argv with engineState })

end TimedConn

abbrev timedLink (engine : ClockedEngine) (timing : Timing) : EngineLink where
  State := TimedConn engine
  command := TimedConn.command timing

/-! ### What the export sends -/

section Export

variable {engine : ClockedEngine} (timing : Timing)

theorem timed_scan (conn : TimedConn engine) (cursor : Bytes) :
    conn.command timing (scanRequest cursor) =
      (.array [.bulk (engine.scan (timing.scanned conn.scans) conn.engineState cursor).1,
          .array ((engine.scan (timing.scanned conn.scans) conn.engineState cursor).2.map .bulk)],
        { conn with scans := conn.scans + 1 }) := by
  have scans : verb (scanRequest cursor) = .scan := rfl
  simp only [TimedConn.command, TimedConn.now, TimedConn.note, scans, engine.scan_reply]

theorem timed_dump (conn : TimedConn engine) (key : Bytes) :
    conn.command timing (dumpRequest key) =
      (dumpReply engine.dump
          (((engine.cells conn.engineState).live
            (timing.dumped key (conn.dumped.count key)) key).map Cell.value),
        { conn with dumped := key :: conn.dumped }) := by
  have dumps : verb (dumpRequest key) = .dump := rfl
  have same : requestKey (dumpRequest key) = key := rfl
  simp only [TimedConn.command, TimedConn.now, TimedConn.note, dumps, same, engine.dump_reply]

def ClockedEngine.pttl (engine : ClockedEngine) (now : Nat) : Option (Cell engine.Value) → Int
  | none => -2
  | some cell =>
      match cell.deadline with
      | none => -1
      | some deadline => engine.left deadline now

theorem pttl_reply (now : Nat) (st : engine.State) (key : Bytes) :
    engine.exec now st (pttlRequest key) =
      (.integer (engine.pttl now ((engine.cells st).live now key)), st) := by
  cases held : (engine.cells st).live now key with
  | none => exact engine.pttl_missing now st key held
  | some cell =>
      obtain ⟨value, deadline⟩ := cell
      cases deadline with
      | none => exact engine.pttl_unlimited now st key value held
      | some deadline => exact engine.pttl_expiring now st key value deadline held

theorem timed_pttl (conn : TimedConn engine) (key : Bytes) :
    TimedConn.command timing { conn with dumped := key :: conn.dumped } (pttlRequest key) =
      (.integer (engine.pttl (timing.asked key (conn.dumped.count key))
          ((engine.cells conn.engineState).live
            (timing.asked key (conn.dumped.count key)) key)),
        { conn with dumped := key :: conn.dumped }) := by
  have asks : verb (pttlRequest key) = .pttl := rfl
  have same : requestKey (pttlRequest key) = key := rfl
  simp only [TimedConn.command, TimedConn.now, TimedConn.note, asks, same, List.count_cons_self,
    Nat.add_sub_cancel, pttl_reply]

variable (st : engine.State)

def dumpedCell (key : Bytes) (i : Nat) : Option (Cell engine.Value) :=
  (engine.cells st).live (timing.dumped key i) key

def askedTtl (key : Bytes) (i : Nat) : Int :=
  engine.pttl (timing.asked key i) ((engine.cells st).live (timing.asked key i) key)

def timedEntry (numbered : Bytes × Nat) : Option SnapshotEntry :=
  (dumpedCell timing st numbered.1 numbered.2).map (fun cell =>
    (numbered.1, askedTtl timing st numbered.1 numbered.2, engine.dump cell.value))

def listedFrom : Nat → Nat → Bytes → List Bytes
  | 0, _, _ => []
  | pages + 1, page, cursor =>
      let (next, keys) := engine.scan (timing.scanned page) st cursor
      keys ++ if next = asBytes "0" then [] else listedFrom pages (page + 1) next

/-- Every key that the export asks for, as often as the scan lists it. -/
def listed (pages : Nat) : List Bytes := listedFrom timing st pages 0 (asBytes "0")

variable {st}

theorem dumpEntry_timed {conn : TimedConn engine} (here : conn.engineState = st) (key : Bytes) :
    (timedLink engine timing).dumpEntry key conn =
      (timedEntry timing st (key, conn.dumped.count key),
        { conn with dumped := key :: conn.dumped }) := by
  subst here
  unfold EngineLink.dumpEntry timedEntry dumpedCell askedTtl
  simp only [timedLink, timed_dump]
  cases held : (engine.cells conn.engineState).live
      (timing.dumped key (conn.dumped.count key)) key with
  | none => rfl
  | some cell =>
      have left := timed_pttl timing conn key
      simp only [Option.map_some, dumpReply, left]

theorem exportPage_timed (keys : List Bytes) (conn : TimedConn engine)
    (here : conn.engineState = st) (entries : SnapshotEntries) :
    (timedLink engine timing).exportPage (keys.map .bulk) conn entries =
      (entries ++ (numberedFrom conn.dumped keys).filterMap (timedEntry timing st),
        { conn with dumped := keys.reverse ++ conn.dumped }) := by
  have entry : ∀ dumped key,
      (timedLink engine timing).dumpEntry key { conn with dumped } =
        (timedEntry timing st (key, dumped.count key),
          { conn with dumped := key :: dumped }) := by
    intro dumped key
    exact @dumpEntry_timed engine timing st { conn with dumped } here key
  have page := @exportPage_numbered (timedLink engine timing)
    (fun dumped => ({ conn with dumped } : TimedConn engine)) _ entry (keys.map .bulk)
    conn.dumped entries
  rw [filterMap_bulkKey] at page
  exact page

theorem exportLoop_timed {pages : Nat} {conn : TimedConn engine}
    (here : conn.engineState = st) {cursor : Bytes} {entries result : SnapshotEntries}
    (ended : (timedLink engine timing).exportLoop pages conn cursor entries = some result) :
    result = entries ++
      (numberedFrom conn.dumped (listedFrom timing st pages conn.scans cursor)).filterMap
        (timedEntry timing st) := by
  induction pages generalizing conn cursor entries with
  | zero => cases ended
  | succ pages ih =>
      subst here
      unfold EngineLink.exportLoop at ended
      unfold listedFrom
      simp only [timedLink, timed_scan, scanPage] at ended
      generalize scan : engine.scan (timing.scanned conn.scans) conn.engineState cursor = answer
        at ended ⊢
      obtain ⟨next, keys⟩ := answer
      have page := exportPage_timed timing keys { conn with scans := conn.scans + 1 } rfl entries
      simp only [timedLink] at page
      simp only [page] at ended
      rw [numberedFrom_append, List.filterMap_append, ← List.append_assoc]
      by_cases last : next = asBytes "0"
      · rw [if_pos last] at ended ⊢
        cases ended
        simp [numberedFrom]
      · rw [if_neg last] at ended ⊢
        exact @ih { conn with scans := conn.scans + 1, dumped := keys.reverse ++ conn.dumped } rfl
          next _ ended

end Export

/-! ### What the import leaves -/

section Import

variable {engine : ClockedEngine} (timing : Timing)

theorem timed_flushdb (conn : TimedConn engine) :
    (conn.command timing flushdbRequest).2 =
      { conn with
        engineState := (engine.exec timing.flushed conn.engineState flushdbRequest).2 } := by
  have flushes : verb flushdbRequest = .flushdb := rfl
  simp only [TimedConn.command, TimedConn.now, TimedConn.note, flushes]

theorem timed_restore (conn : TimedConn engine) (key : Bytes) (ttl : Int) (dump : Bytes) :
    (conn.command timing (restoreRequest key ttl dump)).2 =
      { conn with
        restored := key :: conn.restored
        engineState := (engine.exec (timing.restored key (conn.restored.count key))
          conn.engineState (restoreRequest key ttl dump)).2 } := by
  have restores : verb (restoreRequest key ttl dump) = .restore := rfl
  have same : requestKey (restoreRequest key ttl dump) = key := rfl
  simp only [TimedConn.command, TimedConn.now, TimedConn.note, restores, same]

def Sendable (engine : ClockedEngine) (entry : SnapshotEntry) : Prop :=
  inI64 entry.2.1 = true ∧ ∃ value, entry.2.2 = engine.dump value

/-- What one `RESTORE` can make of the cell of its key. -/
inductive Restored (ttl : Int) (before : Option (Cell engine.Value)) :
    Option (Cell engine.Value) → Prop
  | unlimited (none_left : ttl ≤ 0) (value : engine.Value) :
      Restored ttl before (some ⟨value, none⟩)
  | expiring (some_left : 0 < ttl) (value : engine.Value) (deadline : Nat) :
      Restored ttl before (some ⟨value, some deadline⟩)
  | refused (some_left : 0 < ttl) : Restored ttl before before

theorem Restored.permanent {ttl : Int} {before after : Option (Cell engine.Value)}
    (restored : Restored ttl before after) (none_left : ttl ≤ 0) :
    ∃ cell, after = some cell ∧ cell.deadline = none := by
  cases restored with
  | unlimited _ value => exact ⟨_, rfl, rfl⟩
  | expiring some_left => omega
  | refused some_left => omega

theorem restore_cells {entry : SnapshotEntry} (sendable : Sendable engine entry)
    (conn : TimedConn engine) :
    let done := (conn.command timing
      (restoreRequest entry.1 (if entry.2.1 < 0 then 0 else entry.2.1) entry.2.2)).2
    Restored entry.2.1 (engine.cells conn.engineState entry.1)
        (engine.cells done.engineState entry.1) ∧
      ∀ other, other ≠ entry.1 →
        engine.cells done.engineState other = engine.cells conn.engineState other := by
  obtain ⟨fits, value, blob⟩ := sendable
  rw [blob, timed_restore]
  intro done
  by_cases positive : 0 < entry.2.1
  · have unclamped : ¬entry.2.1 < 0 := by omega
    rcases engine.restore_expiring (timing.restored entry.1 (conn.restored.count entry.1))
      conn.engineState entry.1 entry.2.1 value positive fits with refused | ⟨deadline, taken⟩
    · have same : engine.cells done.engineState = engine.cells conn.engineState := by
        simp only [done, if_neg unclamped, refused]
      rw [same]
      exact ⟨Restored.refused positive, fun _ _ => rfl⟩
    · have updated : engine.cells done.engineState = Function.update
          (engine.cells conn.engineState) entry.1 (some ⟨value, some deadline⟩) := by
        simp only [done, if_neg unclamped, taken]
      rw [updated, Function.update_self]
      exact ⟨Restored.expiring positive value deadline,
        fun other different => Function.update_of_ne different _ _⟩
  · have clamped : (if entry.2.1 < 0 then 0 else entry.2.1) = 0 := by
      split <;> omega
    have updated : engine.cells done.engineState = Function.update
        (engine.cells conn.engineState) entry.1 (some ⟨value, none⟩) := by
      simp only [done, clamped, engine.restore_unlimited]
    rw [updated, Function.update_self]
    exact ⟨Restored.unlimited (by omega) value,
      fun other different => Function.update_of_ne different _ _⟩

/-- The run rule of the loop: what every `RESTORE` of a key keeps of its cell,
the loop keeps. -/
theorem restoreEntries_keeps {Holds : Option (Cell engine.Value) → Prop} {key : Bytes}
    {entries : SnapshotEntries} (sendable : ∀ entry ∈ entries, Sendable engine entry)
    (keeps : ∀ entry ∈ entries, entry.1 = key → ∀ before after,
      Restored entry.2.1 before after → Holds before → Holds after)
    (conn : TimedConn engine) (start : Holds (engine.cells conn.engineState key)) :
    Holds (engine.cells
      ((timedLink engine timing).restoreEntries entries conn).engineState key) := by
  induction entries generalizing conn with
  | nil => exact start
  | cons entry rest ih =>
      have later := ih (fun other member => sendable other (List.mem_cons_of_mem entry member))
        (fun other member => keeps other (List.mem_cons_of_mem entry member))
      obtain ⟨here, elsewhere⟩ := restore_cells timing (sendable entry List.mem_cons_self) conn
      apply later
      by_cases same : entry.1 = key
      · subst same
        exact keeps entry List.mem_cons_self rfl _ _ here start
      · rw [elsewhere key (Ne.symm same)]
        exact start

theorem restoreEntries_append (first second : SnapshotEntries) (conn : TimedConn engine) :
    (timedLink engine timing).restoreEntries (first ++ second) conn =
      (timedLink engine timing).restoreEntries second
        ((timedLink engine timing).restoreEntries first conn) := by
  induction first generalizing conn with
  | nil => rfl
  | cons entry rest ih => exact ih _

end Import

/-! ### Keys that run out during the export -/

section Transfer

variable {engine : ClockedEngine}

/-- A key that arrives has an expiry exactly when it had one where it came
from, whether or not it has expired there since. -/
def KeepsExpiry {Value : Type} (source target : Keyspace Bytes Value) : Prop :=
  ∀ key cell restored, source key = some cell → target key = some restored →
    restored.deadline.isSome = cell.deadline.isSome

/-- If the key has an expiry and is there at its n-th `DUMP`, then at the
`PTTL` that follows it has a whole millisecond left. -/
def InTime (timing : Timing) (st : engine.State) (key : Bytes) (i : Nat) : Prop :=
  ∀ cell deadline, engine.cells st key = some cell → cell.deadline = some deadline →
    timing.dumped key i < deadline →
      timing.asked key i < deadline ∧ 0 < engine.left deadline (timing.asked key i)

section Key

variable {timing : Timing} {st : engine.State} {key : Bytes} {value : engine.Value}

theorem live_unlimited (held : engine.cells st key = some ⟨value, none⟩) (now : Nat) :
    (engine.cells st).live now key = some ⟨value, none⟩ := by
  simp [Keyspace.live, Keyspace.expired, held, Cell.expired]

theorem live_expiring {deadline : Nat} (held : engine.cells st key = some ⟨value, some deadline⟩)
    (now : Nat) :
    (engine.cells st).live now key =
      if deadline ≤ now then none else some ⟨value, some deadline⟩ := by
  simp [Keyspace.live, Keyspace.expired, held, Cell.expired]

theorem askedTtl_unlimited (held : engine.cells st key = some ⟨value, none⟩) (i : Nat) :
    askedTtl timing st key i = -1 := by
  rw [askedTtl, live_unlimited held]
  rfl

theorem askedTtl_pos_iff (timing : Timing) {deadline : Nat}
    (held : engine.cells st key = some ⟨value, some deadline⟩) (i : Nat) :
    0 < askedTtl timing st key i ↔
      timing.asked key i < deadline ∧ 0 < engine.left deadline (timing.asked key i) := by
  rw [askedTtl, live_expiring held]
  by_cases gone : deadline ≤ timing.asked key i
  · rw [if_pos gone]
    simp only [ClockedEngine.pttl]
    omega
  · rw [if_neg gone]
    simp only [ClockedEngine.pttl]
    omega

theorem dumpedCell_isSome_iff {deadline : Nat}
    (held : engine.cells st key = some ⟨value, some deadline⟩) (i : Nat) :
    (dumpedCell timing st key i).isSome = true ↔ timing.dumped key i < deadline := by
  rw [dumpedCell, live_expiring held]
  split
  · simp only [Option.isSome_none, Bool.false_eq_true, false_iff]
    omega
  · simp only [Option.isSome_some, true_iff]
    omega

theorem Timing.asked_mono (timing : Timing) (key : Bytes) {i j : Nat} (ordered : i ≤ j) :
    timing.asked key i ≤ timing.asked key j := by
  induction ordered with
  | refl => exact Nat.le_refl _
  | @step j earlier ih =>
      exact ih.trans ((timing.asked_le_dumped key j).trans (timing.dumped_le_asked key (j + 1)))

theorem askedTtl_stays {deadline : Nat}
    (held : engine.cells st key = some ⟨value, some deadline⟩) {i j : Nat} (ordered : i ≤ j)
    (out : askedTtl timing st key i ≤ 0) : askedTtl timing st key j ≤ 0 := by
  have later := timing.asked_mono key ordered
  have fewer := engine.left_antitone deadline _ _ later
  have first := askedTtl_pos_iff timing held i
  have second := askedTtl_pos_iff timing held j
  omega

theorem askedTtl_i64 (timing : Timing) (st : engine.State) (key : Bytes) (i : Nat) :
    inI64 (askedTtl timing st key i) = true := by
  unfold askedTtl
  cases (engine.cells st).live (timing.asked key i) key with
  | none => rfl
  | some cell =>
      obtain ⟨value, deadline⟩ := cell
      cases deadline with
      | none => rfl
      | some deadline => exact engine.left_i64 deadline _

end Key

/-! ### Exactly when expiry survives -/

variable [AlwaysSerializable SnapshotEntries]

def importedCells (taking : Timing) (target : engine.State) (bytes : Bytes) :
    Keyspace Bytes engine.Value :=
  engine.cells
    ((timedLink engine taking).importSnapshot (.connected target) bytes).2.engineState

def timedEntries (sending : Timing) (source : engine.State) (pages : Nat) : SnapshotEntries :=
  (numberedFrom [] (listed sending source pages)).filterMap (timedEntry sending source)

theorem exportSnapshot_timed {sending : Timing} {source : engine.State} {pages : Nat}
    {bytes : Bytes}
    (exported : (timedLink engine sending).exportSnapshot pages (.connected source) = some bytes) :
    bytes = serialize (timedEntries sending source pages) := by
  obtain ⟨entries, ended, rfl⟩ := Option.map_eq_some_iff.mp exported
  rw [exportLoop_timed sending rfl ended]
  rfl

def flushedConn (taking : Timing) (target : engine.State) : TimedConn engine :=
  ((TimedConn.connected target).command taking flushdbRequest).2

omit [AlwaysSerializable SnapshotEntries] in
theorem flushedConn_cells (taking : Timing) (target : engine.State) (key : Bytes) :
    engine.cells (flushedConn taking target).engineState key = none := by
  rw [flushedConn, timed_flushdb]
  simp only [engine.flushdb_effect]

theorem importedCells_serialize (taking : Timing) (target : engine.State)
    (entries : SnapshotEntries) :
    importedCells taking target (serialize entries) =
      engine.cells ((timedLink engine taking).restoreEntries entries
        (flushedConn taking target)).engineState := by
  unfold importedCells EngineLink.importSnapshot
  rw [decode_serialize]
  rfl

section Entries

variable {sending : Timing} {source : engine.State}

omit [AlwaysSerializable SnapshotEntries] in
theorem timedEntry_sendable {numbered : Bytes × Nat} {entry : SnapshotEntry}
    (sent : timedEntry sending source numbered = some entry) :
    Sendable engine entry ∧ entry.1 = numbered.1 ∧
      entry.2.1 = askedTtl sending source numbered.1 numbered.2 ∧
      (dumpedCell sending source numbered.1 numbered.2).isSome = true := by
  obtain ⟨cell, dumped, rfl⟩ := Option.map_eq_some_iff.mp sent
  exact ⟨⟨askedTtl_i64 sending source _ _, cell.value, rfl⟩, rfl, rfl, by rw [dumped]; rfl⟩

omit [AlwaysSerializable SnapshotEntries] in
theorem sendable_filterMap (numbered : List (Bytes × Nat)) :
    ∀ entry ∈ numbered.filterMap (timedEntry sending source), Sendable engine entry := by
  intro entry member
  obtain ⟨_, _, sent⟩ := List.mem_filterMap.mp member
  exact (timedEntry_sendable sent).1

omit [AlwaysSerializable SnapshotEntries] in
theorem mem_timedEntries {pages : Nat} {entry : SnapshotEntry}
    (member : entry ∈ timedEntries sending source pages) :
    ∃ i, i < (listed sending source pages).count entry.1 ∧
      entry.2.1 = askedTtl sending source entry.1 i ∧
      (dumpedCell sending source entry.1 i).isSome = true := by
  obtain ⟨⟨key, i⟩, listing, sent⟩ := List.mem_filterMap.mp member
  obtain ⟨_, same, ttl, dumped⟩ := timedEntry_sendable sent
  simp only at same ttl dumped
  rw [same]
  exact ⟨i, (mem_numberedFrom _ _ _).mp listing, ttl, dumped⟩

variable {pages : Nat} {key : Bytes} {value : engine.Value} (taking : Timing)
  (target : engine.State)

theorem imported_unlimited (held : engine.cells source key = some ⟨value, none⟩)
    {restored : Cell engine.Value}
    (arrived : importedCells taking target (serialize (timedEntries sending source pages)) key =
      some restored) : restored.deadline = none := by
  let Unlimited (cell : Option (Cell engine.Value)) : Prop :=
    ∀ restored, cell = some restored → restored.deadline = none
  have kept : ∀ entry ∈ timedEntries sending source pages, entry.1 = key → ∀ before after,
      Restored entry.2.1 before after → Unlimited before → Unlimited after := by
    intro entry member same before after outcome earlier
    obtain ⟨i, _, ttl, _⟩ := mem_timedEntries member
    rw [same, askedTtl_unlimited held] at ttl
    obtain ⟨cell, rfl, permanent⟩ := outcome.permanent (by omega)
    intro restored here
    cases here
    exact permanent
  rw [importedCells_serialize] at arrived
  refine restoreEntries_keeps taking (sendable_filterMap _) kept (flushedConn taking target) ?_
    restored arrived
  intro restored here
  rw [flushedConn_cells] at here
  cases here

theorem imported_expiring {deadline : Nat}
    (held : engine.cells source key = some ⟨value, some deadline⟩)
    (inTime : ∀ i, i < (listed sending source pages).count key → InTime sending source key i)
    {restored : Cell engine.Value}
    (arrived : importedCells taking target (serialize (timedEntries sending source pages)) key =
      some restored) : restored.deadline.isSome = true := by
  let Expiring (cell : Option (Cell engine.Value)) : Prop :=
    ∀ restored, cell = some restored → restored.deadline.isSome = true
  have kept : ∀ entry ∈ timedEntries sending source pages, entry.1 = key → ∀ before after,
      Restored entry.2.1 before after → Expiring before → Expiring after := by
    intro entry member same before after outcome earlier
    obtain ⟨i, early, ttl, dumped⟩ := mem_timedEntries member
    rw [same] at early ttl dumped
    have there := (dumpedCell_isSome_iff held i).mp dumped
    have some_left := (askedTtl_pos_iff sending held i).mpr (inTime i early _ _ held rfl there)
    cases outcome with
    | unlimited none_left => omega
    | expiring _ value deadline =>
        intro restored here
        cases here
        rfl
    | refused => exact earlier
  rw [importedCells_serialize] at arrived
  refine restoreEntries_keeps taking (sendable_filterMap _) kept (flushedConn taking target) ?_
    restored arrived
  intro restored here
  rw [flushedConn_cells] at here
  cases here

/-- Once an entry of a key says that no time is left, every later entry of it
does, and the last of them makes the key permanent. -/
theorem imported_permanent {deadline : Nat}
    (held : engine.cells source key = some ⟨value, some deadline⟩) {i : Nat}
    (early : i < (listed sending source pages).count key)
    (there : sending.dumped key i < deadline) (out : askedTtl sending source key i ≤ 0) :
    ∃ restored, importedCells taking target (serialize (timedEntries sending source pages)) key =
      some restored ∧ restored.deadline = none := by
  let Permanent (cell : Option (Cell engine.Value)) : Prop :=
    ∃ restored, cell = some restored ∧ restored.deadline = none
  obtain ⟨before, after, split, later⟩ := numberedFrom_split early
  have dumped := (dumpedCell_isSome_iff held i).mpr there
  obtain ⟨cell, dumpedHere⟩ := Option.isSome_iff_exists.mp dumped
  have sent : timedEntry sending source (key, i) =
      some (key, askedTtl sending source key i, engine.dump cell.value) := by
    rw [timedEntry, dumpedHere, Option.map_some]
  have entries : timedEntries sending source pages =
      before.filterMap (timedEntry sending source) ++
        (key, askedTtl sending source key i, engine.dump cell.value) ::
          after.filterMap (timedEntry sending source) := by
    rw [timedEntries, split, List.filterMap_append, List.filterMap_cons_some sent]
  have kept : ∀ entry ∈ after.filterMap (timedEntry sending source), entry.1 = key →
      ∀ before after, Restored entry.2.1 before after → Permanent before → Permanent after := by
    intro entry member same before after outcome earlier
    obtain ⟨⟨other, j⟩, listing, sentLater⟩ := List.mem_filterMap.mp member
    obtain ⟨_, sameKey, ttl, _⟩ := timedEntry_sendable sentLater
    simp only at sameKey ttl
    rw [← sameKey, same] at ttl listing
    have none_left := askedTtl_stays held (Nat.le_of_lt (later j listing)) out
    exact outcome.permanent (ttl.trans_le none_left)
  rw [importedCells_serialize, entries, restoreEntries_append]
  apply restoreEntries_keeps taking (sendable_filterMap after) kept
  obtain ⟨here, _⟩ := restore_cells taking (timedEntry_sendable sent).1
    ((timedLink engine taking).restoreEntries (before.filterMap (timedEntry sending source))
      (flushedConn taking target))
  exact here.permanent out

end Entries

/-- What the transfer leaves of expiry is right exactly when no key that was
dumped runs out, or into its last millisecond, before it is asked for the time
it has left. -/
theorem expiry_survives_iff (sending taking : Timing) (source target : engine.State)
    {pages : Nat} {bytes : Bytes}
    (exported : (timedLink engine sending).exportSnapshot pages (.connected source) = some bytes) :
    KeepsExpiry (engine.cells source) (importedCells taking target bytes) ↔
      ∀ key i, i < (listed sending source pages).count key → InTime sending source key i := by
  rw [exportSnapshot_timed exported]
  constructor
  · intro keeps key i early cell deadline held expires there
    obtain ⟨value, _⟩ := cell
    cases expires
    rw [← askedTtl_pos_iff sending held]
    by_contra out
    obtain ⟨restored, arrived, permanent⟩ :=
      imported_permanent taking target held early there (Int.not_lt.mp out)
    have same := keeps key _ restored held arrived
    rw [permanent] at same
    cases same
  · intro inTime key cell restored held arrived
    obtain ⟨value, deadline⟩ := cell
    cases deadline with
    | none => rw [imported_unlimited taking target held arrived]
    | some deadline => exact imported_expiring taking target held (inTime key) arrived

end Transfer

/-! ### Strings that expire -/

namespace ExpiringStrings

open StringKeyspace (load)

abbrev State := ExtTreeMap Bytes (Cell Bytes)

def cells (st : State) : Keyspace Bytes Bytes := fun key => st[key]?

/-- The millisecond before the deadline is the last one the key is there for,
and in it none is left. -/
def left (deadline now : Nat) : Nat := min (deadline - now - 1) isizeMax

def pttl (now : Nat) (held : Option (Cell Bytes)) : Int :=
  match held with
  | none => -2
  | some cell =>
      match cell.deadline with
      | none => -1
      | some deadline => left deadline now

def scan (_ : Nat) (st : State) (_ : Bytes) : Bytes × List Bytes := (asBytes "0", st.keys)

def restore (now : Nat) (st : State) : List Bytes → Reply × State
  | [_, key, ttl, blob, _] =>
      match load blob with
      | none => (.error "ERR DUMP payload version or checksum are wrong", st)
      | some value =>
          match parseReplyInt ttl with
          | none => (.error "ERR value is not an integer or out of range", st)
          | some ttl =>
              if ttl < 0 then (.error "ERR Invalid TTL value, must be >= 0", st)
              else if ttl = 0 then (.ok, st.insert key { value, deadline := none })
              else (.ok, st.insert key { value, deadline := some (now + ttl.toNat + 1) })
  | _ => (wrongargs "restore", st)

def exec (now : Nat) (st : State) (argv : List Bytes) : Reply × State :=
  match verb argv with
  | .scan => (.array [.bulk (asBytes "0"), .array (st.keys.map .bulk)], st)
  | .dump =>
      (dumpReply StringKeyspace.dump (((cells st).live now (requestKey argv)).map Cell.value), st)
  | .pttl => (.integer (pttl now ((cells st).live now (requestKey argv))), st)
  | .flushdb => (.ok, ∅)
  | .restore => restore now st argv
  | .other => (.error "ERR unknown command", st)

theorem left_antitone (deadline now later : Nat) (passed : now ≤ later) :
    left deadline later ≤ left deadline now := by
  unfold left
  omega

theorem left_i64 (deadline now : Nat) : inI64 (left deadline now) = true :=
  inI64_of_le (Nat.min_le_right _ _)

theorem pttl_answer (now : Nat) (st : State) (key : Bytes) {held : Option (Cell Bytes)}
    (here : (cells st).live now key = held) :
    exec now st (pttlRequest key) = (.integer (pttl now held), st) := by
  subst here
  rfl

theorem cells_insert (st : State) (key : Bytes) (cell : Cell Bytes) :
    cells (st.insert key cell) = Function.update (cells st) key (some cell) := by
  funext other
  by_cases same : other = key
  · subst same
    rw [Function.update_self]
    exact ExtTreeMap.getElem?_insert_self
  · rw [Function.update_of_ne same]
    have different : ¬key = other := Ne.symm same
    simp [cells, ExtTreeMap.getElem?_insert, different]

theorem restore_answer (now : Nat) (st : State) (key : Bytes) {ttl : Int} (value : Bytes)
    (fits : inI64 ttl = true) (positive : 0 ≤ ttl) :
    exec now st (restoreRequest key ttl (StringKeyspace.dump value)) =
      if ttl = 0 then (.ok, st.insert key { value, deadline := none })
      else (.ok, st.insert key { value, deadline := some (now + ttl.toNat + 1) }) := by
  have restores : exec now st (restoreRequest key ttl (StringKeyspace.dump value)) =
      restore now st (restoreRequest key ttl (StringKeyspace.dump value)) := rfl
  rw [restores]
  simp only [restoreRequest, restore, StringKeyspace.dump, load, parseReplyInt_i64Bytes fits,
    if_neg (Int.not_lt.mpr positive)]

end ExpiringStrings

def expiringStrings : ClockedEngine where
  State := ExpiringStrings.State
  Value := Bytes
  cells := ExpiringStrings.cells
  exec := ExpiringStrings.exec
  dump := StringKeyspace.dump
  scan := ExpiringStrings.scan
  left := ExpiringStrings.left
  left_antitone := ExpiringStrings.left_antitone
  left_i64 := ExpiringStrings.left_i64
  scan_reply _ _ _ := rfl
  dump_reply _ _ _ := rfl
  pttl_missing now st key gone := ExpiringStrings.pttl_answer now st key gone
  pttl_unlimited now st key _ held := ExpiringStrings.pttl_answer now st key held
  pttl_expiring now st key _ _ held := ExpiringStrings.pttl_answer now st key held
  flushdb_effect _ _ := by
    funext key
    exact ExtTreeMap.getElem?_empty
  restore_unlimited now st key value := by
    rw [ExpiringStrings.restore_answer now st key value rfl (Int.le_refl 0), if_pos rfl]
    exact ExpiringStrings.cells_insert st key _
  restore_expiring now st key ttl value positive fits := by
    right
    refine ⟨now + ttl.toNat + 1, ?_⟩
    rw [ExpiringStrings.restore_answer now st key value fits (Int.le_of_lt positive),
      if_neg (Int.ne_of_gt positive)]
    exact ExpiringStrings.cells_insert st key _

/-! ### A key in its last milliseconds -/

namespace ExpiringStrings

open scoped StringKeyspace

/-- The first `DUMP` of a key at `first`, every other command on it after a
pause. -/
def pausing (first pause : Nat) : Timing where
  scanned _ := 0
  dumped _ i := if i = 0 then first else first + pause
  asked _ _ := first + pause
  flushed := 0
  restored _ _ := 0
  dumped_le_asked _ i := by
    split
    · exact Nat.le_add_right first pause
    · exact Nat.le_refl _
  asked_le_dumped _ i := by
    rw [if_neg (Nat.succ_ne_zero i)]

def sessions : State :=
  ((∅ : State).insert (asBytes "session") { value := asBytes "v", deadline := some 100 }).insert
    (asBytes "kept") { value := asBytes "w", deadline := none }

theorem sessions_deadline {key : Bytes} {cell : Cell Bytes} {deadline : Nat}
    (held : cells sessions key = some cell) (expires : cell.deadline = some deadline) :
    deadline = 100 := by
  simp only [cells, sessions, ExtTreeMap.getElem?_insert] at held
  split at held
  · cases held
    cases expires
  · split at held
    · cases held
      cases expires
      rfl
    · simp at held

def sent (pause : Nat) : Bytes :=
  ((timedLink expiringStrings (pausing 50 pause)).exportSnapshot 1 (.connected sessions)).getD []

theorem sent_exported (pause : Nat) :
    (timedLink expiringStrings (pausing 50 pause)).exportSnapshot 1 (.connected sessions) =
      some (sent pause) := rfl

def moved (pause : Nat) : Keyspace Bytes Bytes :=
  @importedCells expiringStrings _ (pausing 0 0) (∅ : State) (sent pause)

/-- A short pause leaves the session some of its time. -/
theorem expiry_survives_short_pause : KeepsExpiry (cells sessions) (moved 10) := by
  apply (@expiry_survives_iff expiringStrings _ (pausing 50 10) (pausing 0 0) sessions
    (∅ : State) 1 (sent 10) (sent_exported 10)).mpr
  intro key i early cell deadline held expires there
  have asked : (pausing 50 10).asked key i = 60 := rfl
  rw [sessions_deadline held expires, asked]
  exact ⟨by decide, by decide⟩

/-- The session runs out between `DUMP` and `PTTL`, or is in its last
millisecond at `PTTL`: either way it never expires where it arrives. -/
theorem expired_session_becomes_permanent :
    (timedLink expiringStrings (pausing 50 50)).exportSnapshot 1 (.connected sessions) =
        some (sent 50) ∧
      cells sessions (asBytes "session") = some ⟨asBytes "v", some 100⟩ ∧
      moved 50 (asBytes "session") = some ⟨asBytes "v", none⟩ ∧
      ¬KeepsExpiry (cells sessions) (moved 50) ∧
      moved 49 (asBytes "session") = some ⟨asBytes "v", none⟩ ∧
      ¬KeepsExpiry (cells sessions) (moved 49) := by
  have held : cells sessions (asBytes "session") = some ⟨asBytes "v", some 100⟩ := by rfl
  have gone : moved 50 (asBytes "session") = some ⟨asBytes "v", none⟩ := by rfl
  have last : moved 49 (asBytes "session") = some ⟨asBytes "v", none⟩ := by rfl
  refine ⟨sent_exported 50, held, gone, ?_, last, ?_⟩
  · intro keeps
    cases keeps _ _ _ held gone
  · intro keeps
    cases keeps _ _ _ held last

end ExpiringStrings

end TrainsValkey
