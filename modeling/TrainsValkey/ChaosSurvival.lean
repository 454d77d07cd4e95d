import TrainsValkey.ChaosRun
import TrainsValkey.Commutation
import TrainsValkey.ResolutionWindow
import TrainsValkey.Sessions

/-
What the chaos run is meant to show: no acknowledged write is lost.

The load records a write only after its `+OK`; a driver says `+OK` only after
the operation ran at its place in the total order; and a survivor that has come
as far in the order has run it too.  So the verifier finds every recorded write
on every such survivor, as long as nobody else writes the keys of the load.
-/

set_option autoImplicit false

namespace TrainsValkey

open Std (ExtTreeMap)
open Trains
open Chaos
open Library (Explained Stream replay)

section Survival

variable [AlwaysSerializable MemStore]

def Parts.engine (parts : Parts MemStore) (now : SystemTime) : SurvivingEngine where
  connectAuth _ := .ok (fun cmd => RedisStore.query parts.store now cmd)

theorem query_held {store : MemStore} {now : SystemTime} {entry : Bytes × Bytes}
    (held : store.data[entry.1]? = some (.str entry.2)) :
    RedisStore.query store now (get entry.1) = .bulk entry.2 := by
  have found : store.stringCell entry.1 = some (some entry.2) := by
    rw [MemStore.stringCell, held]
  have name : q "GET" [entry.1] = get entry.1 := by
    have upper : toAsciiUppercase (fromUtf8Lossy (asBytes "GET")) = "GET" := by decide
    rw [q, upper]
    rfl
  rw [← name, query_get, found]
  rfl

/-! ### An entry in the order -/

def setArgv (entry : Bytes × Bytes) : List Bytes := [asBytes "SET", entry.1, entry.2]

/-- Nobody else writes the entry: an operation that names its key is the load's
own `SET`, and none clears the keyspace. -/
def LoadOwns (history : List WriteOp) (entry : Bytes × Bytes) : Prop :=
  ∀ op ∈ history, ∀ cmd, op.command = some cmd →
    cmd.flushes = false ∧ (entry.1 ∈ cmd.footprint → op.argv = setArgv entry)

variable {history : List WriteOp} {entry : Bytes × Bytes}

omit [AlwaysSerializable MemStore] in
theorem set_owned {op : WriteOp} {other : Bytes × Bytes} (effect : op.argv = setArgv other)
    (apart : entry.1 = other.1 → entry = other) (cmd : Command) (command : op.command = some cmd) :
    cmd.flushes = false ∧ (entry.1 ∈ cmd.footprint → op.argv = setArgv entry) := by
  have upper : toAsciiUppercase (fromUtf8Lossy (asBytes "SET")) = "SET" := by decide
  have parsed : op.command = some { name := "SET", argv := setArgv other } := by
    rw [WriteOp.command, effect, setArgv, Command.parse, upper]
  cases parsed.symm.trans command
  refine ⟨rfl, fun named => ?_⟩
  have same : entry.1 = other.1 := List.mem_singleton.mp named
  rw [effect, apart same]

theorem applyOp_set {op : WriteOp} (effect : op.argv = setArgv entry) (store : MemStore) :
    (applyOp store op).data[entry.1]? = some (.str entry.2) := by
  rw [applyOp, applyTo_set effect]
  exact ExtTreeMap.getElem?_insert_self

theorem applyOp_keeps {op : WriteOp} (owns : LoadOwns history entry) (member : op ∈ history)
    {store : MemStore} (held : store.data[entry.1]? = some (.str entry.2)) :
    (applyOp store op).data[entry.1]? = some (.str entry.2) := by
  cases command : op.command with
  | none =>
      rw [applyOp, WriteOp.applyTo, command]
      exact held
  | some cmd =>
      obtain ⟨stays, own⟩ := owns op member cmd command
      by_cases named : entry.1 ∈ cmd.footprint
      · exact applyOp_set (own named) store
      · rw [applyOp, WriteOp.applyTo, command]
        have kept := (MemStore.apply_confined cmd stays).frame store entry.1 named
        exact (Prod.mk.inj kept).1.trans held

theorem replay_holds (owns : LoadOwns history entry) (start : MemStore) {position : Nat}
    {op : WriteOp} (here : history[position]? = some op) (effect : op.argv = setArgv entry)
    {count : Nat} (behind : position + 1 ≤ count) :
    (replay applyOp start (history.take count)).data[entry.1]? = some (.str entry.2) := by
  induction count, behind using Nat.le_induction with
  | base =>
      rw [Library.take_succ_of_getElem? here, Library.replay_append]
      exact applyOp_set effect _
  | succ count behind ih =>
      cases next : history[count]? with
      | none =>
          have ended : history.length ≤ count := List.getElem?_eq_none_iff.mp next
          rw [List.take_of_length_le (Nat.le_succ_of_le ended)]
          rw [List.take_of_length_le ended] at ih
          exact ih
      | some later =>
          rw [Library.take_succ_of_getElem? next, Library.replay_append]
          exact applyOp_keeps owns (List.mem_of_getElem? next) ih

/-! ### From the load to the survivors -/

omit [AlwaysSerializable MemStore] in
theorem recorded_replied {cli : Cli} {phases : Phases} {acked : AckedWrites}
    (driven : (driveLoad cli phases).driven = .acked acked)
    (whole : ∀ attempt ∈ (driveLoad cli phases).attempts, ¬attempt.CutShort cli.abandon)
    (member : entry ∈ acked.entries) :
    ∃ index < cli.count, entry = Load.entry cli.pre index ∧
      (phases.fates index).reply.reply = .simple "OK" := by
  have complete := driveLoad_complete driven
  have entries := complete.entries
  rw [List.nil_append] at entries
  rw [entries] at member
  obtain ⟨attempt, filtered, rfl⟩ := List.mem_map.mp member
  obtain ⟨tried, recorded⟩ := List.mem_filter.mp filtered
  have inRange : attempt.index ∈ List.range cli.count := by
    rw [← complete.tried]
    exact List.mem_map_of_mem tried
  refine ⟨attempt.index, List.mem_range.mp inRange, rfl, ?_⟩
  rcases Attempt.recorded_cases (complete.aligned attempt tried) recorded with cut | ⟨replied, _⟩
  · exact absurd cut (whole attempt tried)
  · rw [← complete.fate attempt tried]
    exact replied.ok

/-- Survivors that stand in one order and give back what the load recorded pass
their verifications, and the joint one if they stand at one place. -/
theorem survivors_verify {start : MemStore} {acked : AckedWrites} {survivors : List (Parts MemStore)}
    {now : SystemTime} {password : Option String}
    (caughtUp : ∀ parts ∈ survivors, CaughtUp start history parts)
    (kept : ∀ parts ∈ survivors, ∀ entry ∈ acked.entries,
      (parts.engine now).Answers password (get entry.1) (.bulk entry.2)) :
    (∀ parts ∈ survivors, ∀ label, ∃ report,
      verifyOne (parts.engine now) password label acked = .ok report ∧ report.missingKeys = []) ∧
      ((∀ parts ∈ survivors, ∀ other ∈ survivors,
          parts.deliveredLog.headIndex = other.deliveredLog.headIndex) →
        ∃ report, verify (survivors.map (Parts.engine · now)) password acked = .ok report ∧
          report.ok = true) := by
  constructor
  · intro parts survives label
    refine ⟨_, verifyOne_ok_iff.mpr ⟨_, rfl, rfl⟩, ?_⟩
    rw [List.map_eq_nil_iff, List.filter_eq_nil_iff]
    intro entry member
    have keeps := (SurvivingEngine.keeps_iff rfl).mpr (kept parts survives entry member)
    simp [keeps]
  · intro together
    have reachable : ∀ engine ∈ survivors.map (Parts.engine · now),
        ∃ be, engine.connectAuth password = .ok be := by
      intro engine member
      obtain ⟨parts, _, rfl⟩ := List.mem_map.mp member
      exact ⟨_, rfl⟩
    obtain ⟨backends, connected⟩ := connected_of_each reachable
    refine ⟨_, verify_connected connected, (ok_iff connected).mpr ⟨?_, ?_⟩⟩
    · intro engine member
      obtain ⟨parts, survives, rfl⟩ := List.mem_map.mp member
      exact kept parts survives
    · intro be memberBe other memberOther
      obtain ⟨engine, member, connects⟩ := connected.engine memberBe
      obtain ⟨rival, rivalMember, rivalConnects⟩ := connected.engine memberOther
      obtain ⟨parts, survives, rfl⟩ := List.mem_map.mp member
      obtain ⟨twin, twinSurvives, rfl⟩ := List.mem_map.mp rivalMember
      cases connects
      cases rivalConnects
      have same := (caughtUp parts survives).agree (caughtUp twin twinSurvives)
        (together parts survives twin twinSurvives)
      have stores : parts.store = twin.store := congrArg Library.Consumer.state same
      rw [stores]

variable [Trains] [Bincode WriteOp] [FloatArith] [AlwaysSerializable DeliveredEntry]
  [AlwaysSerializable ReplicaSnapshot]

def SetAnswered (start : MemStore) (events : List Event) (entry : Bytes × Bytes) : Prop :=
  ∃ sent answered client op, op.argv = setArgv entry ∧
    (SessionCall.write sent answered client op .ok).SeenIn start events

omit [Bincode WriteOp] [FloatArith] [AlwaysSerializable DeliveredEntry]
  [AlwaysSerializable ReplicaSnapshot] in
theorem answered_held {start : MemStore} {events : List Event} {final : Nat}
    (applied : appliedOps events = history.take final)
    (explained : Explained (Justified start WriteDedup.new) events)
    (answered : SetAnswered start events entry) (owns : LoadOwns history entry)
    {parts : Parts MemStore} (caughtUp : CaughtUp start history parts)
    (reached : (appliedOps events).length ≤ parts.deliveredLog.headIndex) :
    parts.store.data[entry.1]? = some (.str entry.2) := by
  obtain ⟨sent, at_, client, op, effect, seen⟩ := answered
  obtain ⟨position, here, count, _, _⟩ := SessionCall.write_place applied explained seen
  have within : SessionCall.held events at_ ≤ (appliedOps events).length :=
    (List.IsPrefix.filterMap _ (List.take_prefix at_ events)).length_le
  rw [caughtUp.store_eq]
  exact replay_holds owns start here effect (by omega)

/-- A run of the nodes along one order, with a load on it whose keys nobody else
writes. -/
structure LoadRun {ι : Type} (nodes : ι → DriverCfg) (inputs : ι → List DriverInput)
    (start : MemStore) (history : List WriteOp) (cli : Cli) (phases : Phases)
    (acked : AckedWrites) : Prop where
  distinct : (history.map WriteOp.ident).Nodup
  admissible : ∀ i,
    Explained (Admissible (nodes i).id) (driverLoop (nodes i) start none (inputs i)).2
  delivered : ∀ i, ∃ final,
    Stream history 0 (deliveredIn (driverLoop (nodes i) start none (inputs i)).2) final
  driven : (driveLoad cli phases).driven = .acked acked
  whole : ∀ attempt ∈ (driveLoad cli phases).attempts, ¬attempt.CutShort cli.abandon
  served : ∀ index < cli.count, (phases.fates index).reply.reply = .simple "OK" →
    ∃ i, SetAnswered start (driverLoop (nodes i) start none (inputs i)).2
      (Load.entry cli.pre index)
  owned : ∀ entry ∈ acked.entries, LoadOwns history entry

namespace LoadRun

variable {ι : Type} {nodes : ι → DriverCfg} {inputs : ι → List DriverInput} {start : MemStore}
  {cli : Cli} {phases : Phases} {acked : AckedWrites}

theorem answers (run : LoadRun nodes inputs start history cli phases acked)
    {parts : Parts MemStore} (caughtUp : CaughtUp start history parts)
    (reached : ∀ i, (appliedOps (driverLoop (nodes i) start none (inputs i)).2).length ≤
      parts.deliveredLog.headIndex) (now : SystemTime) (password : Option String) :
    ∀ entry ∈ acked.entries,
      (parts.engine now).Answers password (get entry.1) (.bulk entry.2) := by
  intro entry member
  obtain ⟨index, within, rfl, replied⟩ := recorded_replied run.driven run.whole member
  obtain ⟨i, answered⟩ := run.served index within replied
  have tracked := coldStart_tracked (nodes i) start (inputs i) (run.admissible i)
  obtain ⟨final, handed⟩ := run.delivered i
  have applied := (driverLoop_onOrder run.distinct (nodes i) (inputs i) final handed).2.2
  have held := answered_held applied tracked.explained answered (run.owned _ member)
    caughtUp (reached i)
  exact ⟨_, rfl, query_held held⟩

theorem caughtUp (run : LoadRun nodes inputs start history cli phases acked) (i : ι) :
    CaughtUp start history (driverLoop (nodes i) start none (inputs i)).1.toParts ∧
      (driverLoop (nodes i) start none (inputs i)).1.deliveredLog.headIndex =
        (appliedOps (driverLoop (nodes i) start none (inputs i)).2).length := by
  obtain ⟨final, handed⟩ := run.delivered i
  obtain ⟨standing, head, applied⟩ :=
    driverLoop_onOrder run.distinct (nodes i) (inputs i) final handed
  have within : final ≤ history.length := by
    rw [← head]
    exact standing.standing.within
  refine ⟨standing, ?_⟩
  rw [head, applied, List.length_take, Nat.min_eq_left within]

/-- The nodes that are still up and have applied all that any node has pass
every verification, the joint one included. -/
theorem nodes_verify (run : LoadRun nodes inputs start history cli phases acked) (alive : List ι)
    (reached : ∀ k ∈ alive, ∀ i,
      (appliedOps (driverLoop (nodes i) start none (inputs i)).2).length ≤
        (appliedOps (driverLoop (nodes k) start none (inputs k)).2).length)
    (now : SystemTime) (password : Option String) :
    (∀ k ∈ alive, ∀ label, ∃ report,
      verifyOne ((driverLoop (nodes k) start none (inputs k)).1.toParts.engine now) password label
        acked = .ok report ∧ report.missingKeys = []) ∧
      ∃ report,
        verify (alive.map (fun k =>
          (driverLoop (nodes k) start none (inputs k)).1.toParts.engine now)) password acked =
            .ok report ∧ report.ok = true := by
  have standing : ∀ parts ∈ alive.map (fun k =>
      (driverLoop (nodes k) start none (inputs k)).1.toParts), CaughtUp start history parts := by
    intro parts member
    obtain ⟨k, _, rfl⟩ := List.mem_map.mp member
    exact (run.caughtUp k).1
  have kept : ∀ parts ∈ alive.map (fun k =>
      (driverLoop (nodes k) start none (inputs k)).1.toParts), ∀ entry ∈ acked.entries,
        (parts.engine now).Answers password (get entry.1) (.bulk entry.2) := by
    intro parts member
    obtain ⟨k, survives, rfl⟩ := List.mem_map.mp member
    refine run.answers (run.caughtUp k).1 (fun i => ?_) now password
    exact (reached k survives i).trans (Nat.le_of_eq (run.caughtUp k).2.symm)
  obtain ⟨single, joint⟩ := survivors_verify standing kept
  constructor
  · intro k survives
    exact single _ (List.mem_map_of_mem survives)
  · rw [List.map_map] at joint
    apply joint
    intro parts member other otherMember
    obtain ⟨k, survives, rfl⟩ := List.mem_map.mp member
    obtain ⟨twin, twinSurvives, rfl⟩ := List.mem_map.mp otherMember
    rw [(run.caughtUp k).2, (run.caughtUp twin).2]
    exact Nat.le_antisymm (reached twin twinSurvives k) (reached k survives twin)

end LoadRun

/-- No write that the load recorded is missing on a survivor that has come as
far as the nodes that answered, and survivors at one place pass the joint
verification. -/
theorem acked_writes_survive {ι : Type} (nodes : ι → DriverCfg) (inputs : ι → List DriverInput)
    (start : MemStore) (history : List WriteOp) (distinct : (history.map WriteOp.ident).Nodup)
    (admissible : ∀ i,
      Explained (Admissible (nodes i).id) (driverLoop (nodes i) start none (inputs i)).2)
    (delivered : ∀ i, ∃ final,
      Stream history 0 (deliveredIn (driverLoop (nodes i) start none (inputs i)).2) final)
    (cli : Cli) (phases : Phases) (acked : AckedWrites)
    (driven : (driveLoad cli phases).driven = .acked acked)
    (whole : ∀ attempt ∈ (driveLoad cli phases).attempts, ¬attempt.CutShort cli.abandon)
    (served : ∀ index < cli.count, (phases.fates index).reply.reply = .simple "OK" →
      ∃ i, SetAnswered start (driverLoop (nodes i) start none (inputs i)).2
        (Load.entry cli.pre index))
    (owned : ∀ entry ∈ acked.entries, LoadOwns history entry)
    (survivors : List (Parts MemStore))
    (caughtUp : ∀ parts ∈ survivors, CaughtUp start history parts)
    (reached : ∀ parts ∈ survivors, ∀ i,
      (appliedOps (driverLoop (nodes i) start none (inputs i)).2).length ≤
        parts.deliveredLog.headIndex)
    (now : SystemTime) (password : Option String) :
    (∀ parts ∈ survivors, ∀ label, ∃ report,
      verifyOne (parts.engine now) password label acked = .ok report ∧ report.missingKeys = []) ∧
      ((∀ parts ∈ survivors, ∀ other ∈ survivors,
          parts.deliveredLog.headIndex = other.deliveredLog.headIndex) →
        ∃ report, verify (survivors.map (Parts.engine · now)) password acked = .ok report ∧
          report.ok = true) := by
  have run : LoadRun nodes inputs start history cli phases acked :=
    ⟨distinct, admissible, delivered, driven, whole, served, owned⟩
  refine survivors_verify caughtUp (fun parts survives => ?_)
  exact run.answers (caughtUp parts survives) (reached parts survives) now password

end Survival

/-! ### Two writes through one node, and a survivor that has both -/

section Sample

open scoped LoopbackRing

def loadCli : Cli := { pre := "k", count := 2, abandonSecs := 5 }

def loadPhases : Phases :=
  { fates := fun _ => Load.okFate 1, firstConnect := none, secondConnect := none }

def loadAcked : AckedWrites := ⟨[Load.entry "k" 0, Load.entry "k" 1]⟩

def loadOp (index : Nat) : WriteOp := WriteOp.new 0 index (setArgv (Load.entry "k" index))

def loadHistory : List WriteOp := [loadOp 0, loadOp 1]

def loadInputs : List DriverInput :=
  [.request { now := ⟨0, 0⟩, argv := (loadOp 0).argv, reply := 7 },
    .train ⟨2, LoopbackRing.payloads [loadOp 0]⟩,
    .request { now := ⟨0, 0⟩, argv := (loadOp 1).argv, reply := 8 },
    .train ⟨2, LoopbackRing.payloads [loadOp 1]⟩]

theorem loadInputs_trace : (driverLoop LoopbackRing.plainFirst MemStore.new none loadInputs).2 =
    [.request 7, .broadcast (loadOp 0) 7, .delivered (loadOp 0), .applied (loadOp 0) .ok,
      .answer 7 .ok, .forward ⟨2, LoopbackRing.payloads [loadOp 0]⟩,
      .request 8, .broadcast (loadOp 1) 8, .delivered (loadOp 1), .applied (loadOp 1) .ok,
      .answer 8 .ok, .forward ⟨2, LoopbackRing.payloads [loadOp 1]⟩] := by
  rfl

def loadSurvivor : Parts MemStore := (survivorAfter loadHistory).toParts

theorem loadSurvivor_caughtUp : CaughtUp MemStore.new loadHistory loadSurvivor :=
  ((CaughtUp.initial MemStore.new loadHistory defaultCap).stream (by decide)
    (Stream.next rfl (Stream.next rfl (Stream.done 2)))).1

theorem loadOps_owned (entry : Bytes × Bytes) (member : entry ∈ loadAcked.entries) :
    LoadOwns loadHistory entry := by
  have apart : (Load.entry "k" 0).1 ≠ (Load.entry "k" 1).1 := by decide
  simp only [loadAcked, List.mem_cons, List.not_mem_nil, or_false] at member
  intro op inHistory
  simp only [loadHistory, List.mem_cons, List.not_mem_nil, or_false] at inHistory
  rcases member with rfl | rfl <;> rcases inHistory with rfl | rfl
  · exact set_owned rfl (fun _ => rfl)
  · exact set_owned rfl (fun same => absurd same apart)
  · exact set_owned rfl (fun same => absurd same.symm apart)
  · exact set_owned rfl (fun _ => rfl)

theorem acked_writes_survive_twoWrites :
    (∀ parts ∈ [loadSurvivor, loadSurvivor], ∀ label, ∃ report,
      verifyOne (parts.engine ⟨0, 0⟩) none label loadAcked = .ok report ∧
        report.missingKeys = []) ∧
      ∃ report, verify ([loadSurvivor, loadSurvivor].map (Parts.engine · ⟨0, 0⟩)) none
        loadAcked = .ok report ∧ report.ok = true := by
  have admissible : Explained (Admissible LoopbackRing.plainFirst.id)
      (driverLoop LoopbackRing.plainFirst MemStore.new none loadInputs).2 := by
    rw [loadInputs_trace]
    apply Explained.of_from Explained.nil
    simp [Library.ExplainedFrom, Admissible]
  have delivered : ∃ final, Stream loadHistory 0
      (deliveredIn (driverLoop LoopbackRing.plainFirst MemStore.new none loadInputs).2) final :=
    ⟨2, Stream.next rfl (Stream.next rfl (Stream.done 2))⟩
  have attempts : (driveLoad loadCli loadPhases).attempts =
      [⟨0, Load.fresh, Load.okFate 1⟩, ⟨1, Load.fresh, Load.okFate 1⟩] := by rfl
  have here (parts : Parts MemStore) (member : parts ∈ [loadSurvivor, loadSurvivor]) :
      parts = loadSurvivor := by
    simpa using member
  have whole : ∀ attempt ∈ (driveLoad loadCli loadPhases).attempts,
      ¬attempt.CutShort loadCli.abandon := by
    intro attempt tried cut
    have closed := cut.closed
    rw [attempts] at tried
    simp only [List.mem_cons, List.not_mem_nil, or_false] at tried
    rcases tried with rfl | rfl <;> cases closed
  have served : ∀ index < loadCli.count, (loadPhases.fates index).reply.reply = .simple "OK" →
      ∃ _ : Unit, SetAnswered MemStore.new
        (driverLoop LoopbackRing.plainFirst MemStore.new none loadInputs).2
        (Load.entry loadCli.pre index) := by
    intro index within _
    refine ⟨(), ?_⟩
    have two : index = 0 ∨ index = 1 := by
      have count : loadCli.count = 2 := rfl
      omega
    rcases two with rfl | rfl
    · exact ⟨1, 4, 7, loadOp 0, rfl, by omega, rfl, rfl⟩
    · exact ⟨7, 10, 8, loadOp 1, rfl, by omega, rfl, rfl⟩
  have caughtUp : ∀ parts ∈ [loadSurvivor, loadSurvivor],
      CaughtUp MemStore.new loadHistory parts := by
    intro parts member
    rw [here parts member]
    exact loadSurvivor_caughtUp
  have reached : ∀ parts ∈ [loadSurvivor, loadSurvivor], ∀ _ : Unit,
      (appliedOps (driverLoop LoopbackRing.plainFirst MemStore.new none loadInputs).2).length ≤
        parts.deliveredLog.headIndex := by
    intro parts member i
    rw [here parts member, loadInputs_trace]
    exact Nat.le_of_eq rfl
  have survive := acked_writes_survive (fun _ : Unit => LoopbackRing.plainFirst)
    (fun _ => loadInputs) MemStore.new loadHistory (by decide) (fun _ => admissible)
    (fun _ => delivered) loadCli loadPhases loadAcked rfl whole served loadOps_owned
    [loadSurvivor, loadSurvivor] caughtUp reached ⟨0, 0⟩ none
  refine ⟨survive.1, survive.2 ?_⟩
  intro parts member other otherMember
  rw [here parts member, here other otherMember]

end Sample

end TrainsValkey
