import TrainsValkey.FailedTransfer
import TrainsValkey.TotalOrder

/-
Three ways to install one transfer.

A replica, a passive replica and a passive replica about to be promoted import
the snapshot and replay the tail behind it, each in a loop of its own.  The
first two stop at a frame that does not decode.  The third skips it, and wants
a snapshot that carries a view.
-/

set_option autoImplicit false

namespace TrainsValkey

open Trains

/-! ### The tail, up to its first bad frame -/

section Tail

variable [AlwaysSerializable DeliveredEntry]

/-- The entries of a tail before the first frame that does not decode, and what
that frame says. -/
def readTail : List Bytes → List DeliveredEntry × Option String
  | [] => ([], none)
  | frame :: rest =>
      match (decodeFromSlice frame : Except String DeliveredEntry) with
      | .error e => ([], some e)
      | .ok entry => (entry :: (readTail rest).1, (readTail rest).2)

variable {σ : Type} [RedisStore σ]

def Parts.replayTail (parts : Parts σ) (frames : List Bytes) : Parts σ :=
  parts.deliverAll ((readTail frames).1.map DeliveredEntry.op)

theorem Parts.replayTail_error {frame : Bytes} {e : String}
    (bad : (decodeFromSlice frame : Except String DeliveredEntry) = .error e)
    (rest : List Bytes) (parts : Parts σ) : parts.replayTail (frame :: rest) = parts := by
  unfold Parts.replayTail readTail
  rw [bad]
  rfl

theorem Parts.replayTail_ok {frame : Bytes} {entry : DeliveredEntry}
    (decodes : decodeFromSlice frame = .ok entry) (rest : List Bytes) (parts : Parts σ) :
    parts.replayTail (frame :: rest) = (parts.deliver entry.op).replayTail rest := by
  unfold Parts.replayTail
  rw [readTail, decodes]
  rfl

theorem applyPassiveTail_reads (frames : List Bytes) (parts : Parts σ) (applied : Nat) :
    (applyPassiveTail frames parts applied).1.isOk = (readTail frames).2.isNone ∧
      (applyPassiveTail frames parts applied).2 = parts.replayTail frames := by
  induction frames generalizing parts applied with
  | nil => exact ⟨rfl, rfl⟩
  | cons frame rest ih =>
      cases read : (decodeFromSlice frame : Except String DeliveredEntry) with
      | error e =>
          rw [Parts.replayTail_error read, readTail, read, applyPassiveTail, read]
          exact ⟨rfl, rfl⟩
      | ok entry =>
          rw [Parts.replayTail_ok read, readTail, read, applyPassiveTail, read]
          exact ih _ _

theorem applyFinalTail_reads {frames : List Bytes} (whole : (readTail frames).2 = none)
    (parts : Parts σ) : applyFinalTail frames parts = parts.replayTail frames := by
  induction frames generalizing parts with
  | nil => rfl
  | cons frame rest ih =>
      cases read : (decodeFromSlice frame : Except String DeliveredEntry) with
      | error e =>
          rw [readTail, read] at whole
          cases whole
      | ok entry =>
          rw [readTail, read] at whole
          rw [Parts.replayTail_ok read, applyFinalTail, read]
          exact ih whole _

variable [Trains]

theorem applyTail_reads (frames : List Bytes) (r : Replica σ) (applied : Nat) :
    (Replica.applyTail frames r applied).1.isOk = (readTail frames).2.isNone ∧
      (Replica.applyTail frames r applied).2.toParts = r.toParts.replayTail frames := by
  induction frames generalizing r applied with
  | nil => exact ⟨rfl, rfl⟩
  | cons frame rest ih =>
      cases read : (decodeFromSlice frame : Except String DeliveredEntry) with
      | error e =>
          rw [Parts.replayTail_error read, readTail, read, Replica.applyTail, read]
          exact ⟨rfl, rfl⟩
      | ok entry =>
          rw [Parts.replayTail_ok read, readTail, read, Replica.applyTail, read]
          exact ih _ _

end Tail

/-! ### The outcome of an installation -/

section Install

variable [Trains] {σ : Type} [RedisStore σ] [AlwaysSerializable DeliveredEntry]
  [AlwaysSerializable ReplicaSnapshot]

structure Outcome (σ : Type) where
  installed : Bool
  parts : Parts σ

def Replica.outcome (r : Replica σ) (xfer : StateTransfer) : Outcome σ :=
  { installed := (r.applyStateTransfer xfer).1.isOk
    parts := (r.applyStateTransfer xfer).2.toParts }

def Parts.passiveOutcome (parts : Parts σ) (xfer : StateTransfer) : Outcome σ :=
  { installed := (applyPassiveTransfer xfer parts).1.isOk
    parts := (applyPassiveTransfer xfer parts).2 }

/-- A transfer is installed for a promotion when it yields the seed. -/
def Parts.promotionOutcome (parts : Parts σ) (xfer : StateTransfer) : Outcome σ :=
  { installed := (finalSnapshotForPromotion [some xfer] parts).1.isSome
    parts := (finalSnapshotForPromotion [some xfer] parts).2 }

structure InstallsAgree (r : Replica σ) (xfer : StateTransfer) : Prop where
  passive : r.toParts.passiveOutcome xfer = r.outcome xfer
  promotion : r.toParts.promotionOutcome xfer = r.outcome xfer

def Parts.imported (parts : Parts σ) (store : σ) (snap : ReplicaSnapshot) : Parts σ :=
  { store
    dedup := snap.dedup
    deliveredLog := DeliveredLog.resumedAt snap.deliveredIndex parts.deliveredLog.cap }

variable {r : Replica σ} {parts : Parts σ} {xfer : StateTransfer} {snap : ReplicaSnapshot}
  {view : ViewInfo} {store : σ} {e : SnapshotError}

section Outcomes

variable (carried : xfer.snapshot.isEmpty = false)

include carried

/-! The snapshot does not decode. -/

theorem Replica.outcome_undecodable {e : String}
    (bad : (decodeFromSlice xfer.snapshot : Except String ReplicaSnapshot) = .error e) :
    r.outcome xfer = ⟨false, r.toParts⟩ := by
  unfold Replica.outcome Replica.applyStateTransfer
  simp only [carried, Bool.false_eq_true, if_false, bad]
  rfl

theorem Parts.passiveOutcome_undecodable {e : String}
    (bad : (decodeFromSlice xfer.snapshot : Except String ReplicaSnapshot) = .error e) :
    parts.passiveOutcome xfer = ⟨false, parts⟩ := by
  unfold Parts.passiveOutcome applyPassiveTransfer
  simp only [carried, Bool.false_eq_true, if_false, bad]
  rfl

theorem Parts.promotionOutcome_undecodable {e : String}
    (bad : (decodeFromSlice xfer.snapshot : Except String ReplicaSnapshot) = .error e) :
    parts.promotionOutcome xfer = ⟨false, parts⟩ := by
  unfold Parts.promotionOutcome finalSnapshotForPromotion
  simp only [carried, Bool.false_eq_true, if_false, bad]
  rfl

variable (decodes : decodeFromSlice xfer.snapshot = .ok snap)

include decodes

theorem Parts.promotionOutcome_unviewed (unviewed : snap.view = none) :
    parts.promotionOutcome xfer = ⟨false, parts⟩ := by
  unfold Parts.promotionOutcome finalSnapshotForPromotion
  simp only [carried, Bool.false_eq_true, if_false, decodes, unviewed]
  rfl

/-! The store inside it does not import. -/

theorem Replica.outcome_refused
    (refuses : RedisStore.importSnapshot r.store snap.store = (.error e, store)) :
    r.outcome xfer = ⟨false, { r.toParts with store }⟩ := by
  unfold Replica.outcome Replica.applyStateTransfer
  simp only [carried, Bool.false_eq_true, if_false, decodes, Replica.importSnapshot, refuses]
  rfl

theorem Parts.passiveOutcome_refused
    (refuses : RedisStore.importSnapshot parts.store snap.store = (.error e, store)) :
    parts.passiveOutcome xfer = ⟨false, { parts with store }⟩ := by
  unfold Parts.passiveOutcome applyPassiveTransfer
  simp only [carried, Bool.false_eq_true, if_false, decodes, refuses]
  rfl

theorem Parts.promotionOutcome_refused (viewed : snap.view = some view)
    (refuses : RedisStore.importSnapshot parts.store snap.store = (.error e, store)) :
    parts.promotionOutcome xfer = ⟨false, { parts with store }⟩ := by
  unfold Parts.promotionOutcome finalSnapshotForPromotion
  simp only [carried, Bool.false_eq_true, if_false, decodes, viewed, refuses]
  rfl

/-! The store is imported. -/

theorem Replica.outcome_imported
    (imports : RedisStore.importSnapshot r.store snap.store = (.ok (), store)) :
    r.outcome xfer =
      ⟨(readTail xfer.tail).2.isNone, (r.toParts.imported store snap).replayTail xfer.tail⟩ := by
  unfold Replica.outcome Replica.applyStateTransfer
  simp only [carried, Bool.false_eq_true, if_false, decodes, Replica.importSnapshot, imports]
  rw [(applyTail_reads xfer.tail _ 0).1, (applyTail_reads xfer.tail _ 0).2]
  rfl

theorem Parts.passiveOutcome_imported
    (imports : RedisStore.importSnapshot parts.store snap.store = (.ok (), store)) :
    parts.passiveOutcome xfer =
      ⟨(readTail xfer.tail).2.isNone, (parts.imported store snap).replayTail xfer.tail⟩ := by
  unfold Parts.passiveOutcome applyPassiveTransfer
  simp only [carried, Bool.false_eq_true, if_false, decodes, imports]
  rw [(applyPassiveTail_reads xfer.tail _ 0).1, (applyPassiveTail_reads xfer.tail _ 0).2]
  rfl

theorem Parts.promotionOutcome_imported (viewed : snap.view = some view)
    (imports : RedisStore.importSnapshot parts.store snap.store = (.ok (), store)) :
    parts.promotionOutcome xfer =
      ⟨true, applyFinalTail xfer.tail (parts.imported store snap)⟩ := by
  unfold Parts.promotionOutcome finalSnapshotForPromotion
  simp only [carried, Bool.false_eq_true, if_false, decodes, viewed, imports]
  rfl

end Outcomes

/-! ### When the outcomes are the same -/

/-- A transfer that fails and leaves the pieces where they were. -/
inductive FailsInPlace (parts : Parts σ) (xfer : StateTransfer) (snap : ReplicaSnapshot) : Prop
  | store {e : SnapshotError}
      (refuses : RedisStore.importSnapshot parts.store snap.store = (.error e, parts.store))
  | frame {store : σ} {e : String}
      (imports : RedisStore.importSnapshot parts.store snap.store = (.ok (), store))
      (broken : (readTail xfer.tail).2 = some e)
      (same : (parts.imported store snap).replayTail xfer.tail = parts)

inductive InstallsAlike (parts : Parts σ) (xfer : StateTransfer) : Prop
  | undecodable {e : String}
      (bad : (decodeFromSlice xfer.snapshot : Except String ReplicaSnapshot) = .error e)
  | refused {snap : ReplicaSnapshot} {view : ViewInfo} {e : SnapshotError} {store : σ}
      (decodes : decodeFromSlice xfer.snapshot = .ok snap) (viewed : snap.view = some view)
      (refuses : RedisStore.importSnapshot parts.store snap.store = (.error e, store))
  | whole {snap : ReplicaSnapshot} {view : ViewInfo}
      (decodes : decodeFromSlice xfer.snapshot = .ok snap) (viewed : snap.view = some view)
      (whole : (readTail xfer.tail).2 = none)
  | unviewed {snap : ReplicaSnapshot} (decodes : decodeFromSlice xfer.snapshot = .ok snap)
      (unviewed : snap.view = none) (fails : FailsInPlace parts xfer snap)

/-- A replica and a passive replica always install alike. -/
theorem passiveOutcome_eq (r : Replica σ) (carried : xfer.snapshot.isEmpty = false) :
    r.toParts.passiveOutcome xfer = r.outcome xfer := by
  cases read : (decodeFromSlice xfer.snapshot : Except String ReplicaSnapshot) with
  | error e =>
      rw [Parts.passiveOutcome_undecodable carried read, Replica.outcome_undecodable carried read]
  | ok snap =>
      rcases result : RedisStore.importSnapshot r.store snap.store with ⟨done, store⟩
      cases done with
      | error e =>
          rw [Parts.passiveOutcome_refused carried read result,
            Replica.outcome_refused carried read result]
      | ok done =>
          rw [Parts.passiveOutcome_imported carried read result,
            Replica.outcome_imported carried read result]

theorem InstallsAlike.agree (carried : xfer.snapshot.isEmpty = false)
    (alike : InstallsAlike r.toParts xfer) : r.toParts.promotionOutcome xfer = r.outcome xfer := by
  cases alike with
  | undecodable bad =>
      rw [Parts.promotionOutcome_undecodable carried bad, Replica.outcome_undecodable carried bad]
  | refused decodes viewed refuses =>
      rw [Parts.promotionOutcome_refused carried decodes viewed refuses,
        Replica.outcome_refused carried decodes refuses]
  | @whole snap view decodes viewed whole =>
      rcases result : RedisStore.importSnapshot r.store snap.store with ⟨done, store⟩
      cases done with
      | error e =>
          rw [Parts.promotionOutcome_refused carried decodes viewed result,
            Replica.outcome_refused carried decodes result]
      | ok done =>
          rw [Parts.promotionOutcome_imported carried decodes viewed result,
            Replica.outcome_imported carried decodes result, applyFinalTail_reads whole, whole]
          rfl
  | unviewed decodes unviewed fails =>
      rw [Parts.promotionOutcome_unviewed carried decodes unviewed]
      cases fails with
      | store refuses => rw [Replica.outcome_refused carried decodes refuses]
      | frame imports broken same =>
          rw [Replica.outcome_imported carried decodes imports, same, broken]
          rfl

theorem installsAlike_of_agree (carried : xfer.snapshot.isEmpty = false)
    (agree : r.toParts.promotionOutcome xfer = r.outcome xfer) :
    InstallsAlike r.toParts xfer := by
  cases read : (decodeFromSlice xfer.snapshot : Except String ReplicaSnapshot) with
  | error e => exact .undecodable read
  | ok snap =>
      rcases result : RedisStore.importSnapshot r.store snap.store with ⟨done, store⟩
      cases viewed : snap.view with
      | some view =>
          cases done with
          | error e => exact .refused read viewed result
          | ok done =>
              rw [Parts.promotionOutcome_imported carried read viewed result,
                Replica.outcome_imported carried read result] at agree
              have whole := congrArg Outcome.installed agree
              exact .whole read viewed (Option.isNone_iff_eq_none.mp whole.symm)
      | none =>
          rw [Parts.promotionOutcome_unviewed carried read viewed] at agree
          refine .unviewed read viewed ?_
          cases done with
          | error e =>
              rw [Replica.outcome_refused carried read result] at agree
              have same := congrArg (fun outcome => outcome.parts.store) agree
              refine .store (e := e) ?_
              rw [result]
              exact congrArg (Prod.mk _) same.symm
          | ok done =>
              rw [Replica.outcome_imported carried read result] at agree
              have failed := congrArg Outcome.installed agree
              have same := congrArg Outcome.parts agree
              cases broken : (readTail xfer.tail).2 with
              | none =>
                  rw [broken] at failed
                  cases failed
              | some e => exact .frame result broken same.symm

/-- The three ways of installing a transfer agree exactly when its snapshot is
not taken in by any of them, when it carries a view and every frame of the tail
decodes, or when it carries none and the other two fail in place. -/
theorem three_installs_agree_iff (r : Replica σ) (xfer : StateTransfer)
    (carried : xfer.snapshot ≠ []) : InstallsAgree r xfer ↔ InstallsAlike r.toParts xfer := by
  have present := List.isEmpty_eq_false_iff.mpr carried
  constructor
  · intro agree
    exact installsAlike_of_agree present agree.promotion
  · intro alike
    exact ⟨passiveOutcome_eq r present, alike.agree present⟩

end Install

/-! ### A frame that one of the three skips -/

section Sample

open scoped LoopbackRing

def survivorOfOne : DriverState MemStore :=
  (driverLoop LoopbackRing.ringFirst MemStore.new none
    [.train ⟨0, LoopbackRing.payloads [WriteOp.new 0 0 (LoopbackRing.set "k" "v")]⟩]).1

def nextEntry : DeliveredEntry where
  index := 1
  op := WriteOp.new 0 1 (LoopbackRing.set "k" "w")

def transferWith (tail : List Bytes) : StateTransfer where
  snapshot := serialize survivorOfOne.exportSnapshot
  tail := tail

theorem three_installs_agree_whole :
    InstallsAgree freshReplica (transferWith [serialize nextEntry]) := by
  have whole : (readTail [serialize nextEntry]).2 = none := by
    rw [readTail, decode_serialize]
    rfl
  exact (three_installs_agree_iff freshReplica (transferWith [serialize nextEntry])
    (AlwaysSerializable.serialize_ne_nil survivorOfOne.exportSnapshot)).mpr
      (.whole (decode_serialize _) rfl whole)

/-- An empty frame comes before the write.  Two of the loops fail behind the
snapshot; the promotion takes the write for the one after it and yields a
seed. -/
theorem promotion_skips_frame :
    (freshReplica.outcome (transferWith [[], serialize nextEntry])).installed = false ∧
      (freshReplica.outcome
        (transferWith [[], serialize nextEntry])).parts.deliveredLog.headIndex = 1 ∧
      (freshReplica.toParts.promotionOutcome
        (transferWith [[], serialize nextEntry])).installed = true ∧
      (freshReplica.toParts.promotionOutcome
        (transferWith [[], serialize nextEntry])).parts.deliveredLog.headIndex = 2 ∧
      ¬InstallsAgree freshReplica (transferWith [[], serialize nextEntry]) := by
  refine ⟨by rfl, by rfl, by rfl, by rfl, ?_⟩
  intro agree
  have installed := congrArg Outcome.installed agree.promotion
  revert installed
  exact Bool.noConfusion

end Sample

end TrainsValkey
