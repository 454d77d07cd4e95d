import TrainsValkey.FailedTransfer
import TrainsValkey.GapTransfer
import TrainsValkey.Library.Handover
import TrainsValkey.PassiveCatchUp

/-
What a passive replica holds after a transfer that failed.

A transfer may arrive damaged: its snapshot or the store inside it does not
decode, or a frame of its tail does not.  What was applied before the damage was
found is a front of what the survivor sent.  It takes the replica along the one
order as long as the replica is not behind the position that was asked for.  A
round of polls reads that position once, so a transfer that fails behind its
snapshot can leave the replica below it for the survivors that come next.
-/

set_option autoImplicit false

namespace TrainsValkey

open Trains
open Library (Stream seenBefore)

/-! ### Damage -/

section Damage

variable [AlwaysSerializable DeliveredEntry]

/-- What becomes of the frames of a tail: the first ones arrive as they were
sent, then the rest is lost, or a frame follows that does not decode and
anything after it. -/
inductive DamagedTail : List Bytes → List Bytes → Prop
  | lost (sent : List Bytes) : DamagedTail sent []
  | broken {sent after : List Bytes} {bad : Bytes} {e : String}
      (undecodable : (decodeFromSlice bad : Except String DeliveredEntry) = .error e) :
      DamagedTail sent (bad :: after)
  | intact (frame : Bytes) {sent arrived : List Bytes} (later : DamagedTail sent arrived) :
      DamagedTail (frame :: sent) (frame :: arrived)

def startsReadable : List Bytes → Bool
  | [] => false
  | frame :: _ =>
      match (decodeFromSlice frame : Except String DeliveredEntry) with
      | .ok _ => true
      | .error _ => false

/-- A transfer without a snapshot brings nothing, or the replica is not behind
the position it was built for. -/
def StateTransfer.Fits {σ : Type} (arrived : StateTransfer) (have_ : Nat) (parts : Parts σ) :
    Prop :=
  arrived.snapshot = [] → startsReadable arrived.tail = true →
    have_ ≤ parts.deliveredLog.headIndex

variable [Trains] [AlwaysSerializable MemStore] [AlwaysSerializable ReplicaSnapshot]

/-- A snapshot that cannot be installed: its bytes do not decode, or the bytes
of the store inside it do not. -/
inductive RefusedSnapshot (bytes : Bytes) : Prop
  | undecodable {e : String}
      (bad : (decodeFromSlice bytes : Except String ReplicaSnapshot) = .error e)
  | brokenStore {snap : ReplicaSnapshot} {e : String} (decodes : decodeFromSlice bytes = .ok snap)
      (bad : (decodeFromSlice snap.store : Except String MemStore) = .error e)

structure Damaged (sent arrived : StateTransfer) : Prop where
  snapshot : arrived.snapshot = sent.snapshot ∨ RefusedSnapshot arrived.snapshot
  tail : DamagedTail sent.tail arrived.tail

end Damage

/-! ### What a damaged transfer does -/

section Apply

variable [AlwaysSerializable DeliveredEntry]

theorem applyPassiveTail_damaged {σ : Type} [RedisStore σ] {entries : List DeliveredEntry}
    {arrived : List Bytes} (damaged : DamagedTail (entries.map serialize) arrived)
    (parts : Parts σ) (applied : Nat) :
    ∃ kept, kept <+: entries ∧ (kept = [] ↔ startsReadable arrived = false) ∧
      (applyPassiveTail arrived parts applied).2 =
        parts.deliverAll (kept.map DeliveredEntry.op) := by
  induction entries generalizing arrived parts applied with
  | nil =>
      refine ⟨[], List.prefix_rfl, ?_⟩
      cases damaged with
      | lost => simp [startsReadable, applyPassiveTail, Parts.deliverAll]
      | broken undecodable =>
          simp [startsReadable, applyPassiveTail, undecodable, Parts.deliverAll]
  | cons entry rest ih =>
      cases damaged with
      | lost =>
          refine ⟨[], List.nil_prefix, ?_⟩
          simp [startsReadable, applyPassiveTail, Parts.deliverAll]
      | broken undecodable =>
          refine ⟨[], List.nil_prefix, ?_⟩
          simp [startsReadable, applyPassiveTail, undecodable, Parts.deliverAll]
      | intact _ later =>
          obtain ⟨kept, front, _, state⟩ := ih later (applyDeliveredOpParts entry.op parts).2
            (if (applyDeliveredOpParts entry.op parts).1.isSome then applied + 1 else applied)
          refine ⟨entry :: kept, List.cons_prefix_cons.mpr ⟨rfl, front⟩, ?_, ?_⟩
          · simp [startsReadable, decode_serialize]
          · simp only [applyPassiveTail, decode_serialize]
            exact state

variable [Trains] [AlwaysSerializable MemStore] [AlwaysSerializable ReplicaSnapshot]

def DriverState.Retains (survivor : DriverState MemStore) (have_ : Nat) : Prop :=
  0 < have_ ∧ survivor.deliveredLog.lowWaterIndex ≤ have_ ∧
    have_ ≤ survivor.deliveredLog.headIndex

/-- What a damaged transfer makes of the pieces. -/
inductive DamagedOutcome (survivor : DriverState MemStore) (have_ : Nat)
    (arrived : StateTransfer) (parts : Parts MemStore) : Parts MemStore → Prop
  | untouched (nothing : arrived.snapshot = [] → startsReadable arrived.tail = false) :
      DamagedOutcome survivor have_ arrived parts parts
  | front (inside : survivor.Retains have_) (bare : arrived.snapshot = [])
      (readable : startsReadable arrived.tail = true) {kept : List DeliveredEntry}
      (isFront : kept <+: survivor.deliveredLog.entriesFrom have_) (handed : kept ≠ []) :
      DamagedOutcome survivor have_ arrived parts
        (parts.deliverAll (kept.map DeliveredEntry.op))
  | installed (outside : ¬survivor.Retains have_) (carried : arrived.snapshot ≠ []) :
      DamagedOutcome survivor have_ arrived parts (parts.resetTo survivor)

variable {survivor : DriverState MemStore} {have_ : Nat} {arrived : StateTransfer}

theorem applyPassiveTransfer_refusing (parts : Parts MemStore) (carried : arrived.snapshot ≠ [])
    (refusedSnapshot : RefusedSnapshot arrived.snapshot) :
    (applyPassiveTransfer arrived parts).2 = parts := by
  cases refusedSnapshot with
  | undecodable bad =>
      unfold applyPassiveTransfer
      rw [List.isEmpty_eq_false_iff.mpr carried]
      simp only [Bool.false_eq_true, if_false, bad]
  | brokenStore decodes bad =>
      have refused := MemStore.importSnapshot_undecodable parts.store bad
      rw [applyPassiveTransfer_refused refused carried decodes]

theorem applyPassiveTransfer_tail (parts : Parts MemStore) (bare : arrived.snapshot = [])
    (damaged : DamagedTail (survivor.serveStateTransfer have_).tail arrived.tail) :
    DamagedOutcome survivor have_ arrived parts (applyPassiveTransfer arrived parts).2 := by
  have only_tail : applyPassiveTransfer arrived parts = applyPassiveTail arrived.tail parts 0 := by
    unfold applyPassiveTransfer
    rw [bare]
    rfl
  rw [only_tail]
  by_cases inside : survivor.Retains have_
  · rw [serveStateTransfer_tail survivor inside] at damaged
    obtain ⟨kept, isFront, empty, state⟩ := applyPassiveTail_damaged damaged parts 0
    rw [state]
    by_cases handed : kept = []
    · rw [handed]
      exact DamagedOutcome.untouched (fun _ => empty.mp handed)
    · have readable := Bool.eq_true_of_not_eq_false (mt empty.mpr handed)
      exact DamagedOutcome.front inside bare readable isFront handed
  · rw [serveStateTransfer_full survivor inside] at damaged
    obtain ⟨kept, isFront, empty, state⟩ := @applyPassiveTail_damaged _ _ _ [] _ damaged parts 0
    have nothing := List.prefix_nil.mp isFront
    rw [nothing] at state
    rw [state]
    exact DamagedOutcome.untouched (fun _ => empty.mp nothing)

theorem applyPassiveTransfer_installs (parts : Parts MemStore)
    (sent : arrived.snapshot = serialize survivor.exportSnapshot) :
    applyPassiveTransfer arrived parts =
      applyPassiveTail arrived.tail (parts.resetTo survivor) 0 := by
  simp only [applyPassiveTransfer, sent, isEmpty_serialize, Bool.false_eq_true, if_false,
    decode_serialize]
  simp only [DriverState.exportSnapshot, LawfulRedisStore.import_export]
  rfl

theorem applyPassiveTransfer_damaged (parts : Parts MemStore)
    (damaged : Damaged (survivor.serveStateTransfer have_) arrived) :
    DamagedOutcome survivor have_ arrived parts (applyPassiveTransfer arrived parts).2 := by
  have tail := damaged.tail
  by_cases bare : arrived.snapshot = []
  · exact applyPassiveTransfer_tail parts bare tail
  · rcases damaged.snapshot with same | refused
    · by_cases inside : survivor.Retains have_
      · rw [serveStateTransfer_tail survivor inside] at same
        exact absurd same bare
      · rw [serveStateTransfer_full survivor inside] at same tail
        rw [applyPassiveTransfer_installs parts same]
        obtain ⟨kept, isFront, _, state⟩ :=
          @applyPassiveTail_damaged _ _ _ [] _ tail (parts.resetTo survivor) 0
        rw [List.prefix_nil.mp isFront] at state
        rw [state]
        exact DamagedOutcome.installed inside bare
    · rw [applyPassiveTransfer_refusing parts bare refused]
      exact DamagedOutcome.untouched (fun empty => absurd empty bare)

theorem applyPassiveTransfer_failed (parts : Parts MemStore)
    (damaged : Damaged (survivor.serveStateTransfer have_) arrived)
    (carried : arrived.snapshot ≠ []) (noTail : arrived.tail = [])
    {e : SnapshotError} (failed : (applyPassiveTransfer arrived parts).1 = .error e) :
    (applyPassiveTransfer arrived parts).2 = parts := by
  rcases damaged.snapshot with same | refused
  · by_cases inside : survivor.Retains have_
    · rw [serveStateTransfer_tail survivor inside] at same
      exact absurd same carried
    · rw [serveStateTransfer_full survivor inside] at same
      rw [applyPassiveTransfer_installs parts same, noTail] at failed
      cases failed
  · exact applyPassiveTransfer_refusing parts carried refused

end Apply

/-! ### One transfer -/

section ResultOf

variable {σ : Type} [RedisStore σ] {start : σ} {history : List WriteOp} {parts : Parts σ}

/-- The pieces are what applying some front of the order leaves. -/
def Consistent (start : σ) (history : List WriteOp) (parts : Parts σ) : Prop :=
  ∃ count, parts.ResultOf start (history.take count)

theorem Stands.consistent (here : Stands start history parts) : Consistent start history parts :=
  ⟨parts.deliveredLog.headIndex, here.applied⟩

theorem Parts.ResultOf.seen {count : Nat} (applied : parts.ResultOf start (history.take count)) :
    parts.consumer.seen = seenBefore WriteOp.ident history count := by
  ext id
  change parts.dedup.isDup id.1 id.2 = true ↔ _
  rw [applied.dedup, WriteDedup.isDup_recordAll, List.mem_map]
  rfl

end ResultOf

section Cut

variable [Trains] [AlwaysSerializable DeliveredEntry] [AlwaysSerializable MemStore]
  [AlwaysSerializable ReplicaSnapshot] {start : MemStore} {history : List WriteOp}
  {parts : Parts MemStore} {survivor : DriverState MemStore} {have_ : Nat}
  {arrived : StateTransfer}

omit [AlwaysSerializable DeliveredEntry] [AlwaysSerializable ReplicaSnapshot] in
/-- Where the replica is not behind the position asked for, what arrives of a
tail is a stream for it. -/
theorem DriverState.Retains.stream (inside : survivor.Retains have_)
    (server : Stands start history survivor.toParts) {kept : List DeliveredEntry}
    (isFront : kept <+: survivor.deliveredLog.entriesFrom have_)
    (asked : have_ ≤ parts.deliveredLog.headIndex) :
    ∃ final, Stream history parts.deliveredLog.headIndex (kept.map DeliveredEntry.op) final := by
  have sent := server.caughtUp.entriesFrom_ops inside.2.1 inside.2.2
  have whole := (Stream.between inside.2.2 server.within).ahead asked
  rw [← sent] at whole
  exact whole.cut (isFront.map DeliveredEntry.op)

omit [AlwaysSerializable ReplicaSnapshot] in
theorem DamagedOutcome.stands {reached : Parts MemStore}
    (outcome : DamagedOutcome survivor have_ arrived parts reached)
    (distinct : (history.map WriteOp.ident).Nodup) (here : Stands start history parts)
    (server : Stands start history survivor.toParts) (fits : arrived.Fits have_ parts) :
    Stands start history reached := by
  cases outcome with
  | untouched => exact here
  | @front inside bare readable kept isFront handed =>
      obtain ⟨final, given⟩ := inside.stream server isFront (fits bare readable)
      exact (here.stream distinct given).1
  | installed outside => exact server.resumed parts.deliveredLog.cap

omit [AlwaysSerializable ReplicaSnapshot] in
theorem DamagedOutcome.consistent_iff {reached : Parts MemStore}
    (outcome : DamagedOutcome survivor have_ arrived parts reached)
    (distinct : (history.map WriteOp.ident).Nodup) (here : Stands start history parts)
    (server : Stands start history survivor.toParts) :
    Consistent start history reached ↔ arrived.Fits have_ parts := by
  constructor
  · rintro ⟨count, applied⟩ bare readable
    by_contra ahead
    cases outcome with
    | untouched nothing =>
        rw [nothing bare] at readable
        cases readable
    | installed outside carried => exact carried bare
    | @front inside _ _ kept isFront handed =>
        -- the frames begin behind the operation that the replica lacks
        have beyond : ∀ op ∈ kept.map DeliveredEntry.op,
            ∃ position, have_ ≤ position ∧ history[position]? = some op := by
          intro op member
          have inTail := (isFront.map DeliveredEntry.op).subset member
          rw [server.caughtUp.entriesFrom_ops inside.2.1 inside.2.2] at inTail
          exact Library.position_of_mem_drop inTail
        have skipped := here.caughtUp.standing.skips distinct (Nat.lt_of_not_le ahead) beyond
          (mt List.map_eq_nil_iff.mp handed) count
        rw [← Parts.deliverAll_consumer] at skipped
        exact skipped applied.seen
  · exact fun fits => (outcome.stands distinct here server fits).consistent

/-- The pieces stand at a prefix of the order, and the next poll, whoever
answers it, takes them to where that survivor stands. -/
structure Recoverable (start : MemStore) (history : List WriteOp) (parts : Parts MemStore) :
    Prop where
  stands : Stands start history parts
  next : ∀ survivor : DriverState MemStore, Stands start history survivor.toParts →
    ∃ count reached,
      applyPassiveTransfer (survivor.serveStateTransfer parts.deliveredLog.headIndex) parts =
        (.ok count, reached) ∧
      Stands start history reached ∧ reached.store = survivor.store ∧
        reached.dedup = survivor.dedup ∧
        reached.deliveredLog.headIndex = survivor.deliveredLog.headIndex

omit [AlwaysSerializable DeliveredEntry] [AlwaysSerializable ReplicaSnapshot] in
theorem Stands.servedBy (distinct : (history.map WriteOp.ident).Nodup)
    (here : Stands start history parts) (server : Stands start history survivor.toParts) :
    Stands start history (parts.servedBy survivor) ∧
      (parts.servedBy survivor).deliveredLog.headIndex = survivor.deliveredLog.headIndex := by
  unfold Parts.servedBy
  split
  · rename_i inside
    obtain ⟨_, retained, behind⟩ := inside
    rw [server.caughtUp.entriesFrom_ops retained behind]
    exact here.stream distinct (Stream.between behind server.within)
  · exact ⟨server.resumed parts.deliveredLog.cap, resetTo_headIndex⟩

theorem Stands.recoverable (distinct : (history.map WriteOp.ident).Nodup)
    (here : Stands start history parts) : Recoverable start history parts := by
  refine ⟨here, ?_⟩
  intro survivor server
  obtain ⟨count, served⟩ := applyPassiveTransfer_serve parts survivor
  obtain ⟨reached, index⟩ := here.servedBy distinct server
  obtain ⟨store, dedup⟩ := reached.agree server index
  exact ⟨count, parts.servedBy survivor, served, reached, store, dedup, index⟩

/-! ### Rounds of polls -/

/-- An answer to a poll from `have_`: the transfer of some survivor, damaged. -/
def DamagedAnswer (start : MemStore) (history : List WriteOp) (have_ : Nat)
    (arrived : StateTransfer) : Prop :=
  ∃ survivor : DriverState MemStore, Stands start history survivor.toParts ∧
    Damaged (survivor.serveStateTransfer have_) arrived

/-- The pieces after each transfer that a poll applies. -/
def pollTrail : List (Option StateTransfer) → Parts MemStore → List (Parts MemStore)
  | [], _ => []
  | none :: rest, parts => pollTrail rest parts
  | some xfer :: rest, parts =>
      match applyPassiveTransfer xfer parts with
      | (.ok _, parts) => [parts]
      | (.error _, parts) => parts :: pollTrail rest parts

/-- Every transfer fits the pieces that the poll applies it to. -/
def PollFits (have_ : Nat) : List (Option StateTransfer) → Parts MemStore → Prop
  | [], _ => True
  | none :: rest, parts => PollFits have_ rest parts
  | some xfer :: rest, parts =>
      xfer.Fits have_ parts ∧
        match applyPassiveTransfer xfer parts with
        | (.ok _, _) => True
        | (.error _, parts) => PollFits have_ rest parts

/-- A poll stays on the order as far as its transfers fit. -/
theorem poll_consistent_iff (distinct : (history.map WriteOp.ident).Nodup)
    (polled : List (Option StateTransfer))
    (honest : ∀ arrived, some arrived ∈ polled → DamagedAnswer start history have_ arrived)
    (parts : Parts MemStore) (here : Stands start history parts) :
    ((∀ reached ∈ pollTrail polled parts, Consistent start history reached) ↔
        PollFits have_ polled parts) ∧
      (PollFits have_ polled parts →
        (∀ reached ∈ pollTrail polled parts, Stands start history reached) ∧
          Stands start history (pollSurvivors polled parts).2) := by
  induction polled generalizing parts with
  | nil => simp [pollTrail, PollFits, pollSurvivors, here]
  | cons answer rest ih =>
      have later := ih (fun arrived member => honest arrived (List.mem_cons_of_mem _ member))
      cases answer with
      | none => exact later parts here
      | some arrived =>
          obtain ⟨survivor, server, damaged⟩ := honest arrived List.mem_cons_self
          have outcome := applyPassiveTransfer_damaged parts damaged
          have first := outcome.consistent_iff distinct here server
          have stands := outcome.stands distinct here server
          unfold pollTrail PollFits pollSurvivors
          cases applied : applyPassiveTransfer arrived parts with
          | mk result reached =>
              rw [applied] at first stands
              cases result with
              | ok n =>
                  simp only [List.forall_mem_singleton, and_true]
                  exact ⟨first, fun fits => ⟨stands fits, stands fits⟩⟩
              | error e =>
                  simp only [List.forall_mem_cons]
                  constructor
                  · rw [first]
                    exact and_congr_right (fun fits => (later reached (stands fits)).1)
                  · rintro ⟨fits, restFits⟩
                    obtain ⟨trail, last⟩ := (later reached (stands fits)).2 restFits
                    exact ⟨⟨stands fits, trail⟩, last⟩

def runTrail : List (List (Option StateTransfer)) → Parts MemStore → List (Parts MemStore)
  | [], _ => []
  | polled :: rest, parts =>
      pollTrail polled parts ++ runTrail rest (pollSurvivors polled parts).2

/-- Every poll of the run asks from where it begins. -/
def PolledAlong (start : MemStore) (history : List WriteOp) :
    List (List (Option StateTransfer)) → Parts MemStore → Prop
  | [], _ => True
  | polled :: rest, parts =>
      (∀ arrived, some arrived ∈ polled →
        DamagedAnswer start history parts.deliveredLog.headIndex arrived) ∧
      PolledAlong start history rest (pollSurvivors polled parts).2

def RunFits : List (List (Option StateTransfer)) → Parts MemStore → Prop
  | [], _ => True
  | polled :: rest, parts =>
      PollFits parts.deliveredLog.headIndex polled parts ∧
        RunFits rest (pollSurvivors polled parts).2

theorem run_consistent_iff (distinct : (history.map WriteOp.ident).Nodup)
    (rounds : List (List (Option StateTransfer))) (parts : Parts MemStore)
    (along : PolledAlong start history rounds parts) (here : Stands start history parts) :
    ((∀ reached ∈ runTrail rounds parts, Consistent start history reached) ↔
        RunFits rounds parts) ∧
      (RunFits rounds parts →
        ∀ reached ∈ runTrail rounds parts, Stands start history reached) := by
  induction rounds generalizing parts with
  | nil => simp [runTrail, RunFits]
  | cons polled rest ih =>
      obtain ⟨honest, laterAlong⟩ := along
      obtain ⟨first, stands⟩ := poll_consistent_iff distinct polled honest parts here
      have later (fits : PollFits parts.deliveredLog.headIndex polled parts) :=
        ih (pollSurvivors polled parts).2 laterAlong (stands fits).2
      unfold runTrail RunFits
      simp only [List.forall_mem_append]
      constructor
      · rw [first]
        exact and_congr_right (fun fits => (later fits).1)
      · rintro ⟨fits, restFits⟩
        exact ⟨(stands fits).1, (later fits).2 restFits⟩

/-- A damaged transfer leaves the first operations of the order and nothing
else exactly when it fits: it brings a snapshot or nothing that can be read, or
the replica is not behind the position it was built for.  Over runs of polls the
same decides for every state in between, and from each of them the next poll
goes on. -/
theorem failed_transfer_leaves_cut_iff (start : MemStore) (history : List WriteOp)
    (distinct : (history.map WriteOp.ident).Nodup) (parts : Parts MemStore)
    (here : Stands start history parts) :
    (∀ (survivor : DriverState MemStore) (have_ : Nat) (arrived : StateTransfer),
      Stands start history survivor.toParts →
      Damaged (survivor.serveStateTransfer have_) arrived →
        (Consistent start history (applyPassiveTransfer arrived parts).2 ↔
          arrived.Fits have_ parts) ∧
        (arrived.Fits have_ parts →
          Recoverable start history (applyPassiveTransfer arrived parts).2)) ∧
    ∀ rounds : List (List (Option StateTransfer)), PolledAlong start history rounds parts →
      ((∀ reached ∈ runTrail rounds parts, Consistent start history reached) ↔
        RunFits rounds parts) ∧
      (RunFits rounds parts →
        ∀ reached ∈ runTrail rounds parts, Recoverable start history reached) := by
  constructor
  · intro survivor have_ arrived server damaged
    have outcome := applyPassiveTransfer_damaged parts damaged
    refine ⟨outcome.consistent_iff distinct here server, ?_⟩
    exact fun fits => (outcome.stands distinct here server fits).recoverable distinct
  · intro rounds along
    obtain ⟨decided, stands⟩ := run_consistent_iff distinct rounds parts along here
    exact ⟨decided, fun fits reached member => (stands fits reached member).recoverable distinct⟩

/-! ### Where nothing follows a snapshot -/

omit [AlwaysSerializable ReplicaSnapshot] in
/-- Only a snapshot takes the replica below the position that was asked for. -/
theorem DamagedOutcome.not_behind {reached : Parts MemStore}
    (outcome : DamagedOutcome survivor have_ arrived parts reached)
    (bare : arrived.snapshot = []) (distinct : (history.map WriteOp.ident).Nodup)
    (here : Stands start history parts) (server : Stands start history survivor.toParts)
    (asked : have_ ≤ parts.deliveredLog.headIndex) :
    have_ ≤ reached.deliveredLog.headIndex := by
  cases outcome with
  | untouched => exact asked
  | @front inside _ readable kept isFront handed =>
      obtain ⟨final, given⟩ := inside.stream server isFront asked
      rw [(here.stream distinct given).2]
      exact Nat.le_trans asked given.le
  | installed outside carried => exact absurd bare carried

theorem pollFits_of_bareSnapshots (distinct : (history.map WriteOp.ident).Nodup)
    (polled : List (Option StateTransfer))
    (honest : ∀ arrived, some arrived ∈ polled → DamagedAnswer start history have_ arrived)
    (noneMadeUp : ∀ arrived, some arrived ∈ polled → arrived.snapshot ≠ [] → arrived.tail = [])
    (parts : Parts MemStore) (here : Stands start history parts)
    (asked : have_ ≤ parts.deliveredLog.headIndex) : PollFits have_ polled parts := by
  induction polled generalizing parts with
  | nil => exact True.intro
  | cons answer rest ih =>
      have later := ih (fun arrived member => honest arrived (List.mem_cons_of_mem _ member))
        (fun arrived member => noneMadeUp arrived (List.mem_cons_of_mem _ member))
      cases answer with
      | none => exact later parts here asked
      | some arrived =>
          obtain ⟨survivor, server, damaged⟩ := honest arrived List.mem_cons_self
          have outcome := applyPassiveTransfer_damaged parts damaged
          have fits : arrived.Fits have_ parts := fun _ _ => asked
          have stands := outcome.stands distinct here server fits
          have kept : ∀ e, (applyPassiveTransfer arrived parts).1 = .error e →
              have_ ≤ (applyPassiveTransfer arrived parts).2.deliveredLog.headIndex := by
            intro e failed
            by_cases bare : arrived.snapshot = []
            · exact outcome.not_behind bare distinct here server asked
            · have noTail := noneMadeUp arrived List.mem_cons_self bare
              rw [applyPassiveTransfer_failed parts damaged bare noTail failed]
              exact asked
          unfold PollFits
          refine ⟨fits, ?_⟩
          cases applied : applyPassiveTransfer arrived parts with
          | mk result reached =>
              rw [applied] at stands kept
              cases result with
              | ok n => exact True.intro
              | error e => exact later reached stands (kept e rfl)

/-- A round of polls in which no frame follows a snapshot leaves a prefix of
the order, however many of its transfers fail. -/
theorem failed_round_leaves_cut (distinct : (history.map WriteOp.ident).Nodup)
    (polled : List (Option StateTransfer)) (here : Stands start history parts)
    (honest : ∀ arrived, some arrived ∈ polled →
      DamagedAnswer start history parts.deliveredLog.headIndex arrived)
    (noneMadeUp : ∀ arrived, some arrived ∈ polled → arrived.snapshot ≠ [] → arrived.tail = []) :
    Recoverable start history (pollSurvivors polled parts).2 := by
  have fits := pollFits_of_bareSnapshots distinct polled honest noneMadeUp parts here
    (Nat.le_refl _)
  exact ((poll_consistent_iff distinct polled honest parts here).2 fits).2.recoverable distinct

end Cut

/-! ### A survivor behind, asked first -/

section Sample

open scoped LoopbackRing

def fourWrites : List WriteOp :=
  twoWrites ++
    [WriteOp.new 0 2 (LoopbackRing.set "c" "3"), WriteOp.new 0 3 (LoopbackRing.set "d" "4")]

def farInFront : DriverState MemStore := survivorAfter fourWrites

theorem survivorAfter_stands (count : Nat) (known : count = 1 ∨ count = 2 ∨ count = 4) :
    Stands MemStore.new fourWrites (survivorAfter (fourWrites.take count)).toParts := by
  have initial := Stands.initial MemStore.new fourWrites defaultCap
  rcases known with rfl | rfl | rfl
  · exact (initial.stream (by decide) (Stream.next rfl (Stream.done 1))).1
  · exact (initial.stream (by decide) (Stream.next rfl (Stream.next rfl (Stream.done 2)))).1
  · exact (initial.stream (by decide) (Stream.next rfl (Stream.next rfl (Stream.next rfl
      (Stream.next rfl (Stream.done 4)))))).1

def StateTransfer.cutBehind (xfer : StateTransfer) (frames : Nat) : StateTransfer :=
  { xfer with tail := xfer.tail.take frames ++ [[]] }

def snapshotBehind : StateTransfer := (behind.serveStateTransfer 2).cutBehind 0

def tailInFront : StateTransfer := (farInFront.serveStateTransfer 2).cutBehind 1

theorem snapshotBehind_damaged :
    DamagedAnswer MemStore.new fourWrites 2 snapshotBehind :=
  ⟨behind, survivorAfter_stands 1 (Or.inl rfl), Or.inl rfl, DamagedTail.broken rfl⟩

theorem tailInFront_damaged : DamagedAnswer MemStore.new fourWrites 2 tailInFront :=
  ⟨farInFront, survivorAfter_stands 4 (Or.inr (Or.inr rfl)), Or.inl rfl,
    DamagedTail.intact _ (DamagedTail.broken rfl)⟩

/-- Both damaged transfers in one round, and the last one alone where the
replica is not behind. -/
theorem failed_transfer_leaves_cut_iff_samples :
    Recoverable MemStore.new fourWrites (applyPassiveTransfer tailInFront inFront.toParts).2 ∧
      ∀ reached ∈ runTrail [[some tailInFront, none, some snapshotBehind]] inFront.toParts,
        Recoverable MemStore.new fourWrites reached := by
  have decided := failed_transfer_leaves_cut_iff MemStore.new fourWrites (by decide)
    inFront.toParts (survivorAfter_stands 2 (Or.inr (Or.inl rfl)))
  constructor
  · obtain ⟨survivor, server, damaged⟩ := tailInFront_damaged
    exact (decided.1 survivor 2 tailInFront server damaged).2 (fun _ _ => Nat.le_refl 2)
  · have along : PolledAlong MemStore.new fourWrites
        [[some tailInFront, none, some snapshotBehind]] inFront.toParts := by
      refine ⟨?_, True.intro⟩
      intro arrived member
      simp only [List.mem_cons, Option.some.injEq, reduceCtorEq, List.not_mem_nil, or_false,
        false_or] at member
      rcases member with rfl | rfl
      · exact tailInFront_damaged
      · exact snapshotBehind_damaged
    apply (decided.2 _ along).2
    exact ⟨⟨fun _ _ => Nat.le_refl 2, fun bare => absurd bare (by decide), True.intro⟩,
      True.intro⟩

def getC : Command := { name := "GET", argv := [asBytes "GET", asBytes "c"] }

def Parts.shown (parts : Parts MemStore) : Nat × Reply × Reply :=
  (parts.deliveredLog.headIndex, parts.store.query ⟨0, 0⟩ getB, parts.store.query ⟨0, 0⟩ getC)

/-- The first transfer of the round takes the replica from two operations back
to one, and the second one, built for two, adds the third: the replica counts
two and has lost the second.  The next poll goes on from there. -/
theorem stale_position_leaves_gap :
    Stands MemStore.new fourWrites inFront.toParts ∧
      DamagedAnswer MemStore.new fourWrites inFront.deliveredLog.headIndex snapshotBehind ∧
      DamagedAnswer MemStore.new fourWrites inFront.deliveredLog.headIndex tailInFront ∧
      inFront.toParts.shown = (2, .bulk (asBytes "2"), .nil) ∧
      (pollTrail [some snapshotBehind, some tailInFront] inFront.toParts).map Parts.shown =
        [(1, .nil, .nil), (2, .nil, .bulk (asBytes "3"))] ∧
      (applyPassiveTransfer tailInFront (applyPassiveTransfer snapshotBehind inFront.toParts).2).1 =
        .error { decode := "UnexpectedEnd" } ∧
      ¬Consistent MemStore.new fourWrites
        (pollSurvivors [some snapshotBehind, some tailInFront] inFront.toParts).2 ∧
      (pollSurvivors [some (farInFront.serveStateTransfer 2)]
        (pollSurvivors [some snapshotBehind, some tailInFront] inFront.toParts).2).2.shown =
          (3, .nil, .bulk (asBytes "3")) := by
  refine ⟨survivorAfter_stands 2 (Or.inr (Or.inl rfl)), snapshotBehind_damaged,
    tailInFront_damaged, by rfl, by rfl, by rfl, ?_, by rfl⟩
  rintro ⟨count, applied⟩
  have second : ¬fourWrites[1].ident ∈ (fourWrites.take count).map WriteOp.ident := by
    rw [← applied.isDup_iff]
    decide
  have third : fourWrites[2].ident ∈ (fourWrites.take count).map WriteOp.ident := by
    rw [← applied.isDup_iff]
    decide
  by_cases short : count < 3
  · have shorter : fourWrites.take count <+: fourWrites.take 2 :=
      List.take_prefix_take_left (by omega)
    exact absurd ((shorter.map WriteOp.ident).subset third) (by decide)
  · have longer : fourWrites.take 3 <+: fourWrites.take count :=
      List.take_prefix_take_left (by omega)
    exact second ((longer.map WriteOp.ident).subset (by decide))

end Sample

end TrainsValkey
