import TrainsValkey.LoopbackRing

/-
State transfers that cannot be installed.

A replica installs a snapshot piece by piece, and one piece can fail: the bytes
of the store may not decode.  The replica has replaced its core by then.  The
passive half of a rejoin, which keeps no core, stays as it was.
-/

set_option autoImplicit false

namespace TrainsValkey

open Trains

section Failed

variable [Trains] {σ : Type}

def FailsWhole {α : Type} (r : Replica σ) (result : Except SnapshotError α × Replica σ) : Prop :=
  (∃ e, result.1 = .error e) ∧ result.2 = r

theorem failsWhole_core_iff {α : Type} (r : Replica σ) (e : SnapshotError) (core : Core) :
    FailsWhole r ((.error e : Except SnapshotError α), { r with core }) ↔ core = r.core := by
  constructor
  · intro fails
    exact congrArg Replica.core fails.2
  · rintro rfl
    exact ⟨⟨e, rfl⟩, rfl⟩

section Store

variable [RedisStore σ]

theorem importSnapshot_refused {r : Replica σ} {snap : ReplicaSnapshot} {e : SnapshotError}
    (refused : RedisStore.importSnapshot r.store snap.store = (.error e, r.store)) :
    r.importSnapshot snap = (.error e, { r with core := importState r.core snap.protocol }) := by
  unfold Replica.importSnapshot
  simp only [refused]

variable [AlwaysSerializable DeliveredEntry] [AlwaysSerializable ReplicaSnapshot]

theorem applyStateTransfer_refused {r : Replica σ} {snap : ReplicaSnapshot} {e : SnapshotError}
    (refused : RedisStore.importSnapshot r.store snap.store = (.error e, r.store))
    {xfer : StateTransfer} (carried : xfer.snapshot ≠ [])
    (decodes : decodeFromSlice xfer.snapshot = .ok snap) :
    r.applyStateTransfer xfer =
      (.error e, { r with core := importState r.core snap.protocol }) := by
  unfold Replica.applyStateTransfer
  rw [List.isEmpty_eq_false_iff.mpr carried]
  simp only [Bool.false_eq_true, if_false, decodes, importSnapshot_refused refused]

theorem applyPassiveTransfer_refused {parts : Parts σ} {snap : ReplicaSnapshot}
    {e : SnapshotError}
    (refused : RedisStore.importSnapshot parts.store snap.store = (.error e, parts.store))
    {xfer : StateTransfer} (carried : xfer.snapshot ≠ [])
    (decodes : decodeFromSlice xfer.snapshot = .ok snap) :
    applyPassiveTransfer xfer parts = (.error e, parts) := by
  unfold applyPassiveTransfer
  rw [List.isEmpty_eq_false_iff.mpr carried]
  simp only [Bool.false_eq_true, if_false, decodes, refused]

end Store

variable [AlwaysSerializable MemStore]

omit [Trains] in
theorem MemStore.importSnapshot_undecodable (store : MemStore) {bytes : Bytes} {e : String}
    (undecodable : (decodeFromSlice bytes : Except String MemStore) = .error e) :
    RedisStore.importSnapshot store bytes = (.error { decode := e }, store) := by
  change MemStore.importSnapshot store bytes = _
  unfold MemStore.importSnapshot
  rw [undecodable]

variable [AlwaysSerializable DeliveredEntry] [AlwaysSerializable ReplicaSnapshot]

/-- A snapshot whose store does not decode leaves the replica as it was exactly
when importing its protocol state would not change the core. -/
theorem import_all_or_nothing_iff (r : Replica MemStore) (snap : ReplicaSnapshot) {e : String}
    (undecodable : (decodeFromSlice snap.store : Except String MemStore) = .error e) :
    (FailsWhole r (r.importSnapshot snap) ↔ importState r.core snap.protocol = r.core) ∧
    ∀ xfer : StateTransfer, xfer.snapshot ≠ [] → decodeFromSlice xfer.snapshot = .ok snap →
      (FailsWhole r (r.applyStateTransfer xfer) ↔
        importState r.core snap.protocol = r.core) := by
  have refused := MemStore.importSnapshot_undecodable r.store undecodable
  constructor
  · rw [importSnapshot_refused refused]
    exact failsWhole_core_iff r _ _
  · intro xfer carried decodes
    rw [applyStateTransfer_refused refused carried decodes]
    exact failsWhole_core_iff r _ _

end Failed

/-! ### A snapshot with a broken store -/

section Sample

open scoped LoopbackRing

def freshReplica : Replica MemStore := Replica.new 1 .totalOrder MemStore.new

def brokenSnapshot (clock : Nat) : ReplicaSnapshot where
  version := snapshotVersion
  protocol := clock
  store := []
  dedup := WriteDedup.new
  deliveredIndex := clock
  view := none

def brokenTransfer (clock : Nat) : StateTransfer where
  snapshot := serialize (brokenSnapshot clock)
  tail := []

theorem broken_undecodable (clock : Nat) :
    (decodeFromSlice (brokenSnapshot clock).store : Except String MemStore) =
      .error "UnexpectedEnd" := rfl

/-- A snapshot of a core that has seen nothing fails whole. -/
theorem import_all_or_nothing_idle :
    FailsWhole freshReplica (freshReplica.importSnapshot (brokenSnapshot 0)) ∧
      FailsWhole freshReplica (freshReplica.applyStateTransfer (brokenTransfer 0)) := by
  have whole := import_all_or_nothing_iff freshReplica (brokenSnapshot 0) (broken_undecodable 0)
  refine ⟨whole.1.mpr rfl, (whole.2 (brokenTransfer 0) ?_ (decode_serialize _)).mpr rfl⟩
  exact AlwaysSerializable.serialize_ne_nil (brokenSnapshot 0)

/-- The replica is told that the transfer failed and keeps the survivor's
core beside its own empty store. -/
theorem failed_import_keeps_core :
    (freshReplica.importSnapshot (brokenSnapshot 7)).1 = .error { decode := "UnexpectedEnd" } ∧
      (freshReplica.importSnapshot (brokenSnapshot 7)).2.core.clock = 7 ∧ freshReplica.core.clock = 0 ∧
      (freshReplica.importSnapshot (brokenSnapshot 7)).2.deliveredIndex = 0 ∧
      ¬FailsWhole freshReplica (freshReplica.importSnapshot (brokenSnapshot 7)) ∧
      ¬FailsWhole freshReplica (freshReplica.applyStateTransfer (brokenTransfer 7)) := by
  have refused : ∀ store : MemStore, RedisStore.importSnapshot store (brokenSnapshot 7).store =
      (.error { decode := "UnexpectedEnd" }, store) :=
    fun store => MemStore.importSnapshot_undecodable store (broken_undecodable 7)
  have changed : ¬importState freshReplica.core (brokenSnapshot 7).protocol = freshReplica.core := by
    intro same
    exact absurd (congrArg LoopbackRing.Node.clock same) (by decide)
  refine ⟨rfl, rfl, rfl, rfl, ?_, ?_⟩
  · rw [importSnapshot_refused (refused _), failsWhole_core_iff]
    exact changed
  · rw [applyStateTransfer_refused (refused _)
      (AlwaysSerializable.serialize_ne_nil (brokenSnapshot 7)) (decode_serialize _),
      failsWhole_core_iff]
    exact changed

end Sample

end TrainsValkey
