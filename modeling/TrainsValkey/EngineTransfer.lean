import TrainsValkey.EngineLink
import TrainsValkey.Library.Occurrence
import TrainsValkey.LoopbackRing
import TrainsValkey.PassiveCatchUp

/-
The snapshot of a keyspace that lives in an engine.

A scan that fails reads as the end of the scan, a dump that fails as a key that
vanished, and the replies of the import are not looked at.  So a transfer
always succeeds, and what it leaves depends on the failures.
-/

set_option autoImplicit false

namespace TrainsValkey

open Std (ExtTreeMap)
open Trains
open Library (numberedFrom numberedFrom_append mem_numberedFrom count_outcomes)

/-! ### What the export sends -/

section Export

def pageItems : Reply → List Reply
  | .array items => items
  | _ => []

def bulkKey : Reply → Option Bytes
  | .bulk key => some key
  | _ => none

theorem scanPage_pair (next : Bytes) (items : Reply) :
    scanPage (.array [.bulk next, items]) = some (next, pageItems items) := by
  cases items <;> rfl

theorem exportPage_numbered {link : EngineLink} (visited : List Bytes → link.State)
    {sent : Bytes × Nat → Option SnapshotEntry}
    (entry : ∀ dumped key, link.dumpEntry key (visited dumped) =
      (sent (key, dumped.count key), visited (key :: dumped)))
    (items : List Reply) (dumped : List Bytes) (entries : SnapshotEntries) :
    link.exportPage items (visited dumped) entries =
      (entries ++ (numberedFrom dumped (items.filterMap bulkKey)).filterMap sent,
        visited ((items.filterMap bulkKey).reverse ++ dumped)) := by
  induction items generalizing dumped entries with
  | nil => simp [EngineLink.exportPage, numberedFrom]
  | cons item rest ih =>
      cases item with
      | bulk key =>
          have keys : (Reply.bulk key :: rest).filterMap bulkKey =
              key :: rest.filterMap bulkKey := rfl
          simp only [EngineLink.exportPage, entry, ih]
          rw [keys, numberedFrom]
          refine Prod.ext ?_ ?_
          · cases outcome : sent (key, dumped.count key) with
            | none => rw [List.filterMap_cons_none outcome, Option.toList_none, List.append_nil]
            | some result =>
                rw [List.filterMap_cons_some outcome, Option.toList_some, List.append_assoc,
                  List.singleton_append]
          · simp
      | _ => exact ih dumped entries

variable (engine : DumpEngine) (faults : TransferFaults) (st : engine.State)

def DumpEngine.cursor (page : Nat) : Bytes :=
  (fun cursor => (engine.scan st cursor).1)^[page] (asBytes "0")

def pageKeys (page : Nat) : Option (List Bytes) :=
  match faults.scan page with
  | none => some (engine.scan st (engine.cursor st page)).2
  | some (.garbled items) => some ((pageItems items).filterMap bulkKey)
  | some (.refused _ _) => none

def listingFrom : Nat → Nat → List Bytes
  | 0, _ => []
  | left + 1, page =>
      match pageKeys engine faults st page with
      | some keys => keys ++ listingFrom left (page + 1)
      | none => []

/-- Every key that the export asks for, as often as the scan lists it. -/
def listing : List Bytes := listingFrom engine faults st (engine.pages st) 0

def sentTtl (key : Bytes) (i : Nat) : Int :=
  match (faults.pttl key (i + 1)).getD (engine.exec st (pttlRequest key)).1 with
  | .integer n => n
  | _ => -1

def sentEntry (numbered : Bytes × Nat) : Option SnapshotEntry :=
  match faults.dump numbered.1 numbered.2 with
  | some _ => none
  | none =>
      (engine.values st)[numbered.1]?.map (fun value =>
        (numbered.1, sentTtl engine faults st numbered.1 numbered.2, engine.dump value))

variable {engine st}

theorem dumpEntry_sent {conn : FaultyConn engine} (here : conn.engineState = st) (key : Bytes) :
    (faultyLink engine faults).dumpEntry key conn =
      (sentEntry engine faults st (key, conn.dumped.count key),
        { conn with dumped := key :: conn.dumped }) := by
  subst here
  have asked := command_dump faults conn key
  have left := command_pttl faults { conn with dumped := key :: conn.dumped } key
  rw [List.count_cons_self] at left
  unfold EngineLink.dumpEntry sentEntry sentTtl
  simp only [faultyLink, asked]
  cases failed : faults.dump key (conn.dumped.count key) with
  | some reply =>
      cases reply with
      | bulk blob => exact absurd failed (faults.dump_not_bulk key _ blob)
      | _ => rfl
  | none =>
      cases held : (engine.values conn.engineState)[key]? with
      | none => simp only [Option.getD_none, engine.dump_reply, held, dumpReply,
          Option.map_none]
      | some value =>
          simp only [Option.getD_none, engine.dump_reply, held, dumpReply, left,
            Option.map_some]
          cases (faults.pttl key (conn.dumped.count key + 1)).getD
            (engine.exec conn.engineState (pttlRequest key)).1 <;> rfl

theorem exportPage_sent (items : List Reply) (conn : FaultyConn engine)
    (here : conn.engineState = st) (entries : SnapshotEntries) :
    (faultyLink engine faults).exportPage items conn entries =
      (entries ++ (numberedFrom conn.dumped (items.filterMap bulkKey)).filterMap
          (sentEntry engine faults st),
        { conn with dumped := (items.filterMap bulkKey).reverse ++ conn.dumped }) := by
  have entry : ∀ dumped key,
      (faultyLink engine faults).dumpEntry key { conn with dumped } =
        (sentEntry engine faults st (key, dumped.count key),
          { conn with dumped := key :: dumped }) := by
    intro dumped key
    exact @dumpEntry_sent engine faults st { conn with dumped } here key
  exact @exportPage_numbered (faultyLink engine faults)
    (fun dumped => ({ conn with dumped } : FaultyConn engine)) _ entry items conn.dumped entries

theorem filterMap_bulkKey (keys : List Bytes) : (keys.map Reply.bulk).filterMap bulkKey = keys := by
  rw [List.filterMap_map]
  exact List.filterMap_some

theorem scan_answer {conn : FaultyConn engine} (here : conn.engineState = st) :
    match pageKeys engine faults st conn.scans with
    | some keys =>
        ∃ items, items.filterMap bulkKey = keys ∧
          scanPage (conn.command faults (scanRequest (engine.cursor st conn.scans))).1 =
            some (engine.cursor st (conn.scans + 1), items)
    | none => scanPage (conn.command faults (scanRequest (engine.cursor st conn.scans))).1 = none := by
  have next : (engine.scan st (engine.cursor st conn.scans)).1 =
      engine.cursor st (conn.scans + 1) :=
    (Function.iterate_succ_apply' (fun cursor => (engine.scan st cursor).1) conn.scans _).symm
  rw [command_scan, here, engine.scan_reply, next]
  unfold pageKeys
  cases faults.scan conn.scans with
  | none => exact ⟨_, filterMap_bulkKey _, scanPage_pair _ _⟩
  | some fault =>
      cases fault with
      | refused reply unread => exact unread
      | garbled items => exact ⟨_, rfl, scanPage_pair _ items⟩

theorem exportLoop_sent {left : Nat} (goesOn : 0 < left) {pages : Nat} (enough : left ≤ pages)
    (conn : FaultyConn engine) (here : conn.engineState = st)
    (whole : conn.scans + left = engine.pages st) (entries : SnapshotEntries) :
    (faultyLink engine faults).exportLoop pages conn (engine.cursor st conn.scans) entries =
      some (entries ++
        (numberedFrom conn.dumped (listingFrom engine faults st left conn.scans)).filterMap
          (sentEntry engine faults st)) := by
  induction left generalizing pages conn entries with
  | zero => cases goesOn
  | succ left ih =>
      obtain ⟨pages, rfl⟩ : ∃ more, pages = more + 1 := ⟨pages - 1, by omega⟩
      have answer := scan_answer faults here
      have asked : (conn.command faults (scanRequest (engine.cursor st conn.scans))).2 =
          { conn with scans := conn.scans + 1 } := congrArg Prod.snd (command_scan faults conn _)
      unfold listingFrom EngineLink.exportLoop
      simp only
      cases read : pageKeys engine faults st conn.scans with
      | none =>
          rw [read] at answer
          simp only [answer]
          simp [numberedFrom]
      | some keys =>
          rw [read] at answer
          obtain ⟨items, listed, page⟩ := answer
          have sent := exportPage_sent faults items
            { conn with scans := conn.scans + 1 } here entries
          simp only [page, asked, sent, listed]
          rw [numberedFrom_append, List.filterMap_append, ← List.append_assoc]
          have returns := engine.scan_returns st conn.scans (by omega)
          change engine.cursor st (conn.scans + 1) = asBytes "0" ↔ _ at returns
          by_cases last : left = 0
          · subst last
            rw [if_pos (returns.mpr whole)]
            simp [listingFrom, numberedFrom]
          · rw [if_neg (fun back => last (by have := returns.mp back; omega))]
            have wholeLeft : conn.scans + 1 + left = engine.pages st := by omega
            exact ih (Nat.pos_of_ne_zero last) (Nat.le_of_succ_le_succ enough)
              { conn with scans := conn.scans + 1, dumped := keys.reverse ++ conn.dumped } here
              wholeLeft _

def sentEntries (engine : DumpEngine) (faults : TransferFaults) (st : engine.State) :
    SnapshotEntries :=
  (numberedFrom [] (listing engine faults st)).filterMap (sentEntry engine faults st)

theorem exportLoop_connected {pages : Nat} (enough : engine.pages st ≤ pages) :
    (faultyLink engine faults).exportLoop pages (.connected st) (asBytes "0") [] =
      some (sentEntries engine faults st) :=
  exportLoop_sent faults (engine.pages_pos st) enough (.connected st) rfl (Nat.zero_add _) []

/-- An entry carries what the keyspace holds, with a deadline the engine takes. -/
def Carries (engine : DumpEngine) (st : engine.State) (entry : SnapshotEntry) : Prop :=
  inI64 entry.2.1 = true ∧
    ∃ value, (engine.values st)[entry.1]? = some value ∧ entry.2.2 = engine.dump value

theorem sentTtl_inI64 (key : Bytes) (i : Nat) : inI64 (sentTtl engine faults st key i) = true := by
  unfold sentTtl
  cases failed : faults.pttl key (i + 1) with
  | none =>
      obtain ⟨n, fits, reply⟩ := engine.pttl_reply st key
      rw [Option.getD_none, reply]
      exact fits
  | some reply =>
      cases reply with
      | integer n => exact faults.pttl_i64 key (i + 1) n failed
      | _ => rfl

theorem sentEntry_carries {numbered : Bytes × Nat} {entry : SnapshotEntry}
    (sent : sentEntry engine faults st numbered = some entry) :
    entry.1 = numbered.1 ∧ Carries engine st entry := by
  unfold sentEntry at sent
  split at sent
  · cases sent
  · obtain ⟨value, held, rfl⟩ := Option.map_eq_some_iff.mp sent
    exact ⟨rfl, sentTtl_inI64 faults _ _, value, held, rfl⟩

variable (st) in
theorem sentEntries_carry : ∀ entry ∈ sentEntries engine faults st, Carries engine st entry := by
  intro entry member
  obtain ⟨numbered, _, sent⟩ := List.mem_filterMap.mp member
  exact (sentEntry_carries faults sent).2

def timesSent (engine : DumpEngine) (faults : TransferFaults) (st : engine.State)
    (key : Bytes) : Nat :=
  (List.range ((listing engine faults st).count key)).countP
    (fun i => (faults.dump key i).isNone)

variable (st) in
theorem count_sentEntries (key : Bytes) :
    ((sentEntries engine faults st).map Prod.fst).count key =
      if (engine.values st)[key]?.isSome then timesSent engine faults st key else 0 := by
  unfold sentEntries
  rw [count_outcomes (fun numbered entry sent => (sentEntry_carries faults sent).1)]
  unfold timesSent sentEntry
  split
  · rename_i held
    refine List.countP_congr (fun i _ => ?_)
    cases faults.dump key i with
    | none => simpa using held
    | some reply => simp
  · rename_i absent
    rw [List.countP_eq_zero]
    intro i _
    cases faults.dump key i with
    | none => simpa using absent
    | some reply => simp

end Export

/-! ### What the import restores -/

section Import

variable {engine : DumpEngine} (faults : TransferFaults) {source : engine.State}

def restoredIn (numbered : List (Bytes × Nat)) (key : Bytes) : Bool :=
  numbered.any (fun sent => sent.1 == key && (faults.restore sent.1 sent.2).isNone)

theorem restoredIn_cons (sent : Bytes × Nat) (rest : List (Bytes × Nat)) (key : Bytes) :
    restoredIn faults (sent :: rest) key =
      (restoredIn faults [sent] key || restoredIn faults rest key) := by
  simp only [restoredIn, List.any_cons, List.any_nil, Bool.or_false]

theorem restore_values {entry : SnapshotEntry} (carries : Carries engine source entry)
    (conn : FaultyConn engine) (key : Bytes) :
    let done := (conn.command faults
      (restoreRequest entry.1 (if entry.2.1 < 0 then 0 else entry.2.1) entry.2.2)).2
    done.restored = entry.1 :: conn.restored ∧
      (engine.values done.engineState)[key]? =
        if restoredIn faults [(entry.1, conn.restored.count entry.1)] key then
          (engine.values source)[key]?
        else (engine.values conn.engineState)[key]? := by
  obtain ⟨fits, value, held, blob⟩ := carries
  have ttl : 0 ≤ (if entry.2.1 < 0 then 0 else entry.2.1) ∧
      inI64 (if entry.2.1 < 0 then 0 else entry.2.1) = true := by
    split
    · exact ⟨Int.le_refl 0, rfl⟩
    · rename_i positive
      exact ⟨Int.not_lt.mp positive, fits⟩
  intro done
  have result := command_restore faults conn entry.1 (if entry.2.1 < 0 then 0 else entry.2.1)
    entry.2.2
  change done = _ at result
  rw [result]
  unfold restoredIn
  cases failed : faults.restore entry.1 (conn.restored.count entry.1) with
  | some reply => simp [failed]
  | none =>
      refine ⟨rfl, ?_⟩
      simp only
      rw [blob, engine.restore_effect conn.engineState entry.1 _ value ttl.1 ttl.2]
      by_cases same : entry.1 = key
      · subst same
        simp [failed, held]
      · simp [same, ExtTreeMap.getElem?_insert]

theorem restoreEntries_values {entries : SnapshotEntries}
    (carry : ∀ entry ∈ entries, Carries engine source entry) (conn : FaultyConn engine)
    (key : Bytes) :
    (engine.values ((faultyLink engine faults).restoreEntries entries conn).engineState)[key]? =
      if restoredIn faults (numberedFrom conn.restored (entries.map Prod.fst)) key then
        (engine.values source)[key]?
      else (engine.values conn.engineState)[key]? := by
  induction entries generalizing conn with
  | nil => rfl
  | cons entry rest ih =>
      obtain ⟨restored, values⟩ :=
        restore_values faults (carry entry List.mem_cons_self) conn key
      have later := ih (fun other member => carry other (List.mem_cons_of_mem entry member))
        (conn.command faults
          (restoreRequest entry.1 (if entry.2.1 < 0 then 0 else entry.2.1) entry.2.2)).2
      refine later.trans ?_
      rw [restored, values, List.map_cons, numberedFrom,
        restoredIn_cons faults (entry.1, conn.restored.count entry.1) (numberedFrom _ _) key]
      cases restoredIn faults (numberedFrom (entry.1 :: conn.restored) (rest.map Prod.fst)) key with
      | true => rw [Bool.or_true, if_pos rfl, if_pos rfl]
      | false => rw [Bool.or_false, if_neg Bool.false_ne_true]

end Import

/-! ### The transfer -/

structure LinkedBackend (engine : DumpEngine) (faults : TransferFaults) where
  engineState : engine.State

section Transfer

variable {engine : DumpEngine} [AlwaysSerializable SnapshotEntries]

instance (faults : TransferFaults) : RedisStore (LinkedBackend engine faults) where
  apply backend cmd :=
    let (reply, engineState) := engine.exec backend.engineState cmd.argv
    (reply, { engineState })
  query backend _ cmd := (engine.exec backend.engineState cmd.argv).1
  exportSnapshot backend :=
    ((faultyLink engine faults).exportSnapshot (engine.pages backend.engineState)
      (.connected backend.engineState)).getD []
  importSnapshot backend bytes :=
    let (done, conn) :=
      (faultyLink engine faults).importSnapshot (.connected backend.engineState) bytes
    (done, { engineState := conn.engineState })

theorem exportSnapshot_ends (faults : TransferFaults) (st : engine.State) {pages : Nat}
    (enough : engine.pages st ≤ pages) :
    (faultyLink engine faults).exportSnapshot pages (.connected st) =
      some (serialize (sentEntries engine faults st)) := by
  unfold EngineLink.exportSnapshot
  rw [exportLoop_connected faults enough, Option.map_some]

theorem exportSnapshot_linked (faults : TransferFaults) (backend : LinkedBackend engine faults) :
    RedisStore.exportSnapshot backend =
      serialize (sentEntries engine faults backend.engineState) := by
  change ((faultyLink engine faults).exportSnapshot _ _).getD [] = _
  rw [exportSnapshot_ends faults _ (Nat.le_refl _), Option.getD_some]

theorem importSnapshot_linked (faults : TransferFaults) (backend : LinkedBackend engine faults)
    (entries : SnapshotEntries) :
    RedisStore.importSnapshot backend (serialize entries) =
      (.ok (),
        { engineState := ((faultyLink engine faults).restoreEntries entries
            ((FaultyConn.connected backend.engineState).command faults
              flushdbRequest).2).engineState }) := by
  change (let (done, conn) := (faultyLink engine faults).importSnapshot _ _
    (done, ({ engineState := conn.engineState } : LinkedBackend engine faults))) = _
  unfold EngineLink.importSnapshot
  rw [decode_serialize]

variable (sending taking : TransferFaults) (source : engine.State)

/-- Some `RESTORE` of the key with the survivor's value was executed. -/
def Delivered (key : Bytes) : Prop :=
  ∃ i, i < timesSent engine sending source key ∧ taking.restore key i = none

/-- Each key of the survivor is delivered, unless the rejoiner held its value
and kept it; and the rejoiner kept no key that the survivor lacks. -/
structure CarriedOver (target : engine.State) : Prop where
  delivered : ∀ key value, (engine.values source)[key]? = some value →
    Delivered sending taking source key ∨
      (taking.flushdb ≠ none ∧ (engine.values target)[key]? = some value)
  cleared : taking.flushdb = none ∨
    ∀ key : Bytes, (engine.values source)[key]? = none → (engine.values target)[key]? = none

omit [AlwaysSerializable SnapshotEntries] in
theorem restoredIn_iff (keys : List Bytes) (key : Bytes) :
    restoredIn taking (numberedFrom [] keys) key = true ↔
      ∃ i, i < keys.count key ∧ taking.restore key i = none := by
  unfold restoredIn
  rw [List.any_eq_true]
  constructor
  · rintro ⟨⟨sent, i⟩, member, here⟩
    obtain ⟨same, executed⟩ := Bool.and_eq_true_iff.mp here
    obtain rfl : sent = key := beq_iff_eq.mp same
    exact ⟨i, (mem_numberedFrom keys sent i).mp member, Option.isNone_iff_eq_none.mp executed⟩
  · rintro ⟨i, early, executed⟩
    exact ⟨(key, i), (mem_numberedFrom keys key i).mpr early, by simp [executed]⟩

def importedValues (target : engine.State) : ExtTreeMap Bytes engine.Value :=
  engine.values ((faultyLink engine taking).restoreEntries (sentEntries engine sending source)
    ((FaultyConn.connected target).command taking flushdbRequest).2).engineState

omit [AlwaysSerializable SnapshotEntries] in
theorem importedValues_getElem? (target : engine.State) (key : Bytes) :
    (importedValues sending taking source target)[key]? =
      if restoredIn taking
          (numberedFrom [] ((sentEntries engine sending source).map Prod.fst)) key then
        (engine.values source)[key]?
      else if taking.flushdb = none then none else (engine.values target)[key]? := by
  have flushed := command_flushdb taking (FaultyConn.connected target)
  have restored := restoreEntries_values taking (sentEntries_carry sending source)
    ((FaultyConn.connected target).command taking flushdbRequest).2 key
  unfold importedValues
  rw [restored, flushed]
  cases taking.flushdb with
  | some reply => rfl
  | none =>
      simp only [engine.flushdb_effect, ExtTreeMap.getElem?_empty]
      rfl

section Imported

variable {sending taking source} {key : Bytes} {value : engine.Value} (target : engine.State)

omit [AlwaysSerializable SnapshotEntries] in
theorem importedValues_delivered (held : (engine.values source)[key]? = some value)
    (delivered : Delivered sending taking source key) :
    (importedValues sending taking source target)[key]? = some value := by
  have restored := (restoredIn_iff taking ((sentEntries engine sending source).map Prod.fst) key).mpr
  rw [count_sentEntries, held, Option.isSome_some, if_pos rfl] at restored
  rw [importedValues_getElem?, if_pos (restored delivered), held]

omit [AlwaysSerializable SnapshotEntries] in
theorem importedValues_missed
    (missed : (engine.values source)[key]? = none ∨ ¬Delivered sending taking source key) :
    (importedValues sending taking source target)[key]? =
      if taking.flushdb = none then none else (engine.values target)[key]? := by
  rw [importedValues_getElem?, if_neg]
  intro restored
  obtain ⟨i, early, executed⟩ := (restoredIn_iff taking _ key).mp restored
  rw [count_sentEntries] at early
  rcases missed with absent | undelivered
  · rw [absent, Option.isSome_none, if_neg Bool.false_ne_true] at early
    exact Nat.not_lt_zero i early
  · split at early
    · exact undelivered ⟨i, early, executed⟩
    · exact Nat.not_lt_zero i early

end Imported

omit [AlwaysSerializable SnapshotEntries] in
theorem importedValues_iff (target : engine.State) :
    importedValues sending taking source target = engine.values source ↔
      CarriedOver sending taking source target := by
  constructor
  · intro same
    constructor
    · intro key value held
      by_cases delivered : Delivered sending taking source key
      · exact Or.inl delivered
      · have left := importedValues_missed target (Or.inr delivered)
        rw [same, held] at left
        split at left
        · cases left
        · rename_i kept
          exact Or.inr ⟨kept, left.symm⟩
    · by_cases flushed : taking.flushdb = none
      · exact Or.inl flushed
      · right
        intro key absent
        have left : (importedValues sending taking source target)[key]? = _ :=
          importedValues_missed target (Or.inl absent)
        rw [same, absent, if_neg flushed] at left
        exact left.symm
  · intro carried
    apply ExtTreeMap.ext_getElem?
    intro key
    cases held : (engine.values source)[key]? with
    | none =>
        rw [importedValues_missed target (Or.inl held)]
        rcases carried.cleared with flushed | lacks
        · rw [if_pos flushed]
        · rw [lacks key held, ite_self]
    | some value =>
        by_cases delivered : Delivered sending taking source key
        · exact importedValues_delivered target held delivered
        · rw [importedValues_missed target (Or.inr delivered)]
          rcases carried.delivered key value held with against | ⟨kept, same⟩
          · exact absurd against delivered
          · rw [if_neg kept, same]

omit [AlwaysSerializable SnapshotEntries] in
theorem mem_listingFrom {key : Bytes} {left page ahead : Nat} (within : ahead < left)
    (read : ∀ earlier, earlier < ahead →
      pageKeys engine sending source (page + earlier) ≠ none)
    {keys : List Bytes} (here : pageKeys engine sending source (page + ahead) = some keys)
    (member : key ∈ keys) : key ∈ listingFrom engine sending source left page := by
  induction ahead generalizing left page with
  | zero =>
      obtain ⟨left, rfl⟩ : ∃ more, left = more + 1 := ⟨left - 1, by omega⟩
      rw [Nat.add_zero] at here
      rw [listingFrom, here]
      exact List.mem_append_left _ member
  | succ ahead ih =>
      obtain ⟨left, rfl⟩ : ∃ more, left = more + 1 := ⟨left - 1, by omega⟩
      have first := read 0 (Nat.succ_pos ahead)
      rw [Nat.add_zero] at first
      obtain ⟨listed, now⟩ := Option.ne_none_iff_exists'.mp first
      rw [listingFrom, now]
      refine List.mem_append_right _ (ih (Nat.lt_of_succ_lt_succ within) ?_ ?_)
      · intro earlier bound
        rw [Nat.add_assoc, Nat.add_comm 1]
        exact read (earlier + 1) (Nat.succ_lt_succ bound)
      · rw [Nat.add_assoc, Nat.add_comm 1]
        exact here

omit [AlwaysSerializable SnapshotEntries] in
/-- A transfer in which no `SCAN`, `DUMP`, `FLUSHDB` or `RESTORE` fails carries
every key over. -/
theorem carriedOver_of_unfailing (scans : ∀ page, sending.scan page = none)
    (dumps : ∀ key i, sending.dump key i = none) (flushes : taking.flushdb = none)
    (restores : ∀ key i, taking.restore key i = none) (target : engine.State) :
    CarriedOver sending taking source target := by
  refine ⟨fun key value held => Or.inl ⟨0, ?_, restores key 0⟩, Or.inl flushes⟩
  have pages : ∀ page, pageKeys engine sending source page =
      some (engine.scan source (engine.cursor source page)).2 := by
    intro page
    unfold pageKeys
    rw [scans]
  obtain ⟨page, within, listed⟩ := engine.scan_lists source key
    (ExtTreeMap.mem_iff_isSome_getElem?.mpr (by rw [held]; rfl))
  have member : key ∈ listing engine sending source := by
    refine mem_listingFrom sending source within ?_ (pages (0 + page)) (by rwa [Nat.zero_add])
    intro earlier _
    rw [pages]
    exact Option.some_ne_none _
  unfold timesSent
  rw [List.countP_eq_length.mpr (by simp [dumps]), List.length_range]
  exact List.count_pos_iff.mpr member

variable [Trains] [AlwaysSerializable DeliveredEntry] [AlwaysSerializable ReplicaSnapshot]

/-- A full transfer between two engines always succeeds, and hands over the
survivor's record; the keyspaces agree after it exactly when each key was
carried over. -/
theorem engine_transfer_complete_iff {sending taking : TransferFaults}
    (survivor : DriverState (LinkedBackend engine sending))
    (rejoiner : Parts (LinkedBackend engine taking)) {have_ : Nat}
    (outside : ¬(0 < have_ ∧ survivor.deliveredLog.lowWaterIndex ≤ have_ ∧
      have_ ≤ survivor.deliveredLog.headIndex)) :
    let taken := applyPassiveTransfer (survivor.serveStateTransfer have_) rejoiner
    taken.1 = .ok 0 ∧ taken.2.dedup = survivor.dedup ∧
      taken.2.deliveredLog.headIndex = survivor.deliveredLog.headIndex ∧
      (engine.values taken.2.store.engineState = engine.values survivor.store.engineState ↔
        CarriedOver sending taking survivor.store.engineState rejoiner.store.engineState) := by
  have imported := importSnapshot_linked taking rejoiner.store
    (sentEntries engine sending survivor.store.engineState)
  rw [← exportSnapshot_linked] at imported
  have store : survivor.exportSnapshot.store = RedisStore.exportSnapshot survivor.store := rfl
  intro taken
  have done : taken = (.ok 0,
      { store := { engineState := ((faultyLink engine taking).restoreEntries
            (sentEntries engine sending survivor.store.engineState)
            ((FaultyConn.connected rejoiner.store.engineState).command taking
              flushdbRequest).2).engineState }
        dedup := survivor.dedup
        deliveredLog := DeliveredLog.resumedAt survivor.deliveredLog.headIndex
          rejoiner.deliveredLog.cap }) := by
    change applyPassiveTransfer _ _ = _
    rw [serveStateTransfer_full survivor outside]
    unfold applyPassiveTransfer
    simp only [isEmpty_serialize, Bool.false_eq_true, if_false, decode_serialize, store, imported,
      applyPassiveTail]
    rfl
  rw [done]
  refine ⟨rfl, rfl, rfl, ?_⟩
  exact importedValues_iff sending taking survivor.store.engineState rejoiner.store.engineState

end Transfer

/-! ### An engine of strings -/

namespace StringKeyspace

abbrev State := ExtTreeMap Bytes Bytes

def dump (value : Bytes) : Bytes := 0 :: value

def load : Bytes → Option Bytes
  | 0 :: value => some value
  | _ => none

def scan (st : State) (_ : Bytes) : Bytes × List Bytes := (asBytes "0", st.keys)

def restore (st : State) : List Bytes → Reply × State
  | [_, key, _, blob, _] =>
      match load blob with
      | some value => (.ok, st.insert key value)
      | none => (.error "ERR DUMP payload version or checksum are wrong", st)
  | _ => (wrongargs "restore", st)

def exec (st : State) (argv : List Bytes) : Reply × State :=
  match verb argv with
  | .scan => (.array [.bulk (asBytes "0"), .array (st.keys.map .bulk)], st)
  | .dump => (dumpReply dump st[requestKey argv]?, st)
  | .pttl => (.integer (if st.contains (requestKey argv) then -1 else -2), st)
  | .flushdb => (.ok, ∅)
  | .restore => restore st argv
  | .other => (.error "ERR unknown command", st)

theorem scan_returns (st : State) (page : Nat) (within : page + 1 ≤ 1) :
    (fun cursor => (scan st cursor).1)^[page + 1] (asBytes "0") = asBytes "0" ↔
      page + 1 = 1 := by
  obtain rfl : page = 0 := by omega
  exact ⟨fun _ => rfl, fun _ => rfl⟩

theorem scan_lists (st : State) (key : Bytes) (held : key ∈ st) :
    ∃ page, page < 1 ∧
      key ∈ (scan st ((fun cursor => (scan st cursor).1)^[page] (asBytes "0"))).2 :=
  ⟨0, Nat.zero_lt_one, ExtTreeMap.mem_keys.mpr held⟩

theorem pttl_reply (st : State) (key : Bytes) :
    ∃ n, inI64 n = true ∧ exec st (pttlRequest key) = (.integer n, st) := by
  refine ⟨if st.contains key then -1 else -2, ?_, rfl⟩
  split
  · rfl
  · rfl

scoped instance : AlwaysSerializable SnapshotEntries :=
  WireFormat.alwaysSerializable
    (Library.Codec.list (Library.Codec.pair WireFormat.bytes
      (Library.Codec.pair Library.Codec.int WireFormat.bytes)))
    (fun entries => List.append_ne_nil_of_left_ne_nil
      (Library.Codec.encode_nat_ne_nil entries.length) _)

end StringKeyspace

def stringKeyspace : DumpEngine where
  State := StringKeyspace.State
  Value := Bytes
  values st := st
  exec := StringKeyspace.exec
  dump := StringKeyspace.dump
  scan := StringKeyspace.scan
  pages _ := 1
  scan_reply _ _ := rfl
  pages_pos _ := Nat.zero_lt_one
  scan_returns := StringKeyspace.scan_returns
  scan_lists := StringKeyspace.scan_lists
  dump_reply _ _ := rfl
  pttl_reply := StringKeyspace.pttl_reply
  flushdb_effect _ := rfl
  restore_effect _ _ _ _ _ _ := rfl

/-! ### Transfers between two of them -/

namespace StringKeyspace

open scoped LoopbackRing

def answered : Bytes → Nat → Option Reply := fun _ _ => none

theorem answered_ne (key : Bytes) (i : Nat) (blob : Bytes) :
    answered key i ≠ some (.bulk blob) := by
  intro same
  cases same

theorem answered_i64 (key : Bytes) (i : Nat) (n : Int) (same : answered key i = some (.integer n)) :
    inI64 n = true := by
  cases same

def failing (scan : Option ScanFault) (flushdb restore : Option Reply) : TransferFaults where
  scan _ := scan
  dump := answered
  pttl := answered
  flushdb := flushdb
  restore _ _ := restore
  dump_not_bulk := answered_ne
  pttl_i64 := answered_i64

def unfailing : TransferFaults := failing none none none

def timedOut : Reply := .error "ERR backend read failed: timed out"

theorem timedOut_unread : scanPage timedOut = none := rfl

def applied : WriteOp := WriteOp.new 0 0 (LoopbackRing.set "k" "v")

def holding (faults : TransferFaults) : DriverState (LinkedBackend stringKeyspace faults) :=
  { DriverState.coldStart LoopbackRing.plainFirst
      { engineState := (∅ : StringKeyspace.State).insert (asBytes "k") (asBytes "v") } with
    dedup := (WriteDedup.new.firstSeen 0 0).2
    deliveredLog := (DeliveredLog.default.append applied).2 }

def comingBack (faults : TransferFaults) : Parts (LinkedBackend stringKeyspace faults) :=
  { store := { engineState := (∅ : StringKeyspace.State).insert (asBytes "old") (asBytes "x") }
    dedup := WriteDedup.new
    deliveredLog := DeliveredLog.default }

def pulled (sending taking : TransferFaults) :
    Except SnapshotError Nat × Parts (LinkedBackend stringKeyspace taking) :=
  applyPassiveTransfer ((holding sending).serveStateTransfer 0) (comingBack taking)

theorem engine_transfer_complete_unfailing :
    stringKeyspace.values (pulled unfailing unfailing).2.store.engineState =
      stringKeyspace.values (holding unfailing).store.engineState := by
  have complete := engine_transfer_complete_iff (holding unfailing) (comingBack unfailing)
    (fun inside : 0 < 0 ∧ _ => Nat.lt_irrefl 0 inside.1)
  refine complete.2.2.2.mpr ?_
  exact carriedOver_of_unfailing _ _ _ (fun _ => rfl) (fun _ _ => rfl) rfl (fun _ _ => rfl) _

def scanFails : TransferFaults := failing (some (.refused timedOut timedOut_unread)) none none

def flushdbFails : TransferFaults := failing none (some timedOut) none

def restoreFails : TransferFaults := failing none none (some timedOut)

/-- A failed `SCAN` and a failed `RESTORE` lose the key, a failed `FLUSHDB`
keeps one that was deleted, and each time the node is told that all is well and
takes over the survivor's index. -/
theorem partial_transfer_succeeds :
    (stringKeyspace.values (holding unfailing).store.engineState)[asBytes "k"]? =
        some (asBytes "v") ∧
      (stringKeyspace.values (holding unfailing).store.engineState)[asBytes "old"]? = none ∧
    ((pulled scanFails unfailing).1 = .ok 0 ∧
      (pulled scanFails unfailing).2.deliveredLog.headIndex = 1 ∧
      (stringKeyspace.values (pulled scanFails unfailing).2.store.engineState)[asBytes "k"]? =
        none) ∧
    ((pulled unfailing restoreFails).1 = .ok 0 ∧
      (pulled unfailing restoreFails).2.deliveredLog.headIndex = 1 ∧
      (stringKeyspace.values (pulled unfailing restoreFails).2.store.engineState)[asBytes "k"]? =
        none) ∧
    ((pulled unfailing flushdbFails).1 = .ok 0 ∧
      (pulled unfailing flushdbFails).2.deliveredLog.headIndex = 1 ∧
      (stringKeyspace.values
        (pulled unfailing flushdbFails).2.store.engineState)[asBytes "old"]? =
          some (asBytes "x")) := by
  refine ⟨by rfl, by rfl, ⟨by rfl, by rfl, by rfl⟩, ⟨by rfl, by rfl, by rfl⟩,
    ⟨by rfl, by rfl, by rfl⟩⟩

end StringKeyspace

end TrainsValkey
