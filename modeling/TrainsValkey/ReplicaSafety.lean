import Mathlib.Logic.Relation
import TrainsValkey.LoopbackRing
import TrainsValkey.TotalOrder

/-
State-machine-replication safety of a set of replicas: live delivery and state
transfer, interleaved in any way, keep every replica at a prefix of the one
total order.
-/

set_option autoImplicit false

namespace TrainsValkey

open Trains
open Library (Stream)

section Safety

variable [Trains] {σ : Type} [RedisStore σ]

def decodedOps [Bincode WriteOp] (payloads : List Payload) : List WriteOp :=
  payloads.filterMap (fun payload =>
    match (decodeFromSlice payload.data : Except String WriteOp) with
    | .ok op => some op
    | .error _ => none)

def deliveredOps [Bincode WriteOp] (outs : List NodeOutput) : List WriteOp :=
  decodedOps (deliveredPayloads outs)

theorem deliveredOps_deliver [Bincode WriteOp] (payloads : List Payload)
    (rest : List NodeOutput) :
    deliveredOps (.deliver payloads :: rest) = decodedOps payloads ++ deliveredOps rest := by
  simp only [deliveredOps, deliveredPayloads, decodedOps, List.flatMap_cons,
    List.filterMap_append]

def Replica.withParts (r : Replica σ) (parts : Parts σ) : Replica σ :=
  { r with toParts := parts }

/-! ### Live delivery -/

section Live

variable [Bincode WriteOp]

theorem absorbPayloads_state (payloads : List Payload) (r : Replica σ) (stepped : Stepped) :
    (Replica.absorbPayloads payloads r stepped).2 =
      r.withParts (r.toParts.deliverAll (decodedOps payloads)) := by
  induction payloads generalizing r stepped with
  | nil => rfl
  | cons payload rest ih =>
      cases decoded : (decodeFromSlice payload.data : Except String WriteOp) with
      | error e =>
          simp only [Replica.absorbPayloads, decodedOps, List.filterMap_cons, decoded]
          exact ih r stepped
      | ok op =>
          simp only [Replica.absorbPayloads, decodedOps, List.filterMap_cons, decoded]
          rw [ih]
          rfl

theorem absorbFrom_state (outs : List NodeOutput) (r : Replica σ) (stepped : Stepped) :
    (Replica.absorbFrom outs r stepped).2 =
      r.withParts (r.toParts.deliverAll (deliveredOps outs)) := by
  induction outs generalizing r stepped with
  | nil => rfl
  | cons out rest ih =>
      cases out with
      | forwardTrain train => exact ih r _
      | declareCrash victim => exact ih r stepped
      | deliver payloads =>
          rw [Replica.absorbFrom, ih, absorbPayloads_state, deliveredOps_deliver]
          simp only [Parts.deliverAll, List.foldl_append]
          rfl

theorem absorb_state (r : Replica σ) (outs : List NodeOutput) :
    (r.absorb outs).2 = r.withParts (r.toParts.deliverAll (deliveredOps outs)) :=
  absorbFrom_state outs r Stepped.empty

end Live

/-! ### State transfer -/

section Transfer

variable [AlwaysSerializable DeliveredEntry]

theorem applyTail_entries (entries : List DeliveredEntry) (r : Replica σ) (applied : Nat) :
    ∃ count, Replica.applyTail (entries.map serialize) r applied =
      (.ok count,
        r.withParts (r.toParts.deliverAll (entries.map DeliveredEntry.op))) := by
  induction entries generalizing r applied with
  | nil => exact ⟨applied, rfl⟩
  | cons entry rest ih =>
      simp only [List.map_cons, Replica.applyTail, decode_serialize]
      obtain ⟨count, done⟩ := ih (r.applyDeliveredOp entry.op).2
        (if (r.applyDeliveredOp entry.op).1.isSome then applied + 1 else applied)
      exact ⟨count, done⟩

/-- What importing the snapshot of `s` makes of `r`. -/
def Replica.resetTo (r s : Replica σ) : Replica σ :=
  { r with
    core := importState r.core (exportState s.core)
    store := s.store
    dedup := s.dedup
    deliveredLog := DeliveredLog.resumedAt s.deliveredLog.headIndex r.deliveredLog.cap }

section Kinds

variable [AlwaysSerializable ReplicaSnapshot]

theorem buildStateTransfer_tail (s : Replica σ) {have_ : Nat}
    (inside : 0 < have_ ∧ s.deliveredLog.lowWaterIndex ≤ have_ ∧
      have_ ≤ s.deliveredLog.headIndex) :
    s.buildStateTransfer have_ =
      { snapshot := [], tail := (s.deliveredLog.entriesFrom have_).map serialize } :=
  buildStateTransferLazy_tail _ inside

theorem buildStateTransfer_full (s : Replica σ) {have_ : Nat}
    (outside : ¬(0 < have_ ∧ s.deliveredLog.lowWaterIndex ≤ have_ ∧
      have_ ≤ s.deliveredLog.headIndex)) :
    s.buildStateTransfer have_ = { snapshot := serialize s.exportSnapshot, tail := [] } :=
  buildStateTransferLazy_full rfl outside

end Kinds

variable [LawfulRedisStore σ]

omit [AlwaysSerializable DeliveredEntry] in
theorem importSnapshot_export (r s : Replica σ) :
    r.importSnapshot s.exportSnapshot = (.ok (), r.resetTo s) := by
  simp only [Replica.importSnapshot, Replica.exportSnapshot, LawfulRedisStore.import_export]
  rfl

variable [AlwaysSerializable ReplicaSnapshot]

theorem applyStateTransfer_full (r s : Replica σ) :
    r.applyStateTransfer { snapshot := serialize s.exportSnapshot, tail := [] } =
      (.ok 0, r.resetTo s) := by
  simp only [Replica.applyStateTransfer, isEmpty_serialize, Bool.false_eq_true, if_false,
    decode_serialize, importSnapshot_export, Replica.applyTail]

/-- A requester inside the survivor's retained log gets the missing tail; any
other requester gets a snapshot at the survivor's head. -/
theorem applyStateTransfer_build (r s : Replica σ) (have_ : Nat) :
    ∃ count, r.applyStateTransfer (s.buildStateTransfer have_) =
      (.ok count,
        if 0 < have_ ∧ s.deliveredLog.lowWaterIndex ≤ have_ ∧
            have_ ≤ s.deliveredLog.headIndex then
          r.withParts (r.toParts.deliverAll
            ((s.deliveredLog.entriesFrom have_).map DeliveredEntry.op))
        else r.resetTo s) := by
  split
  · rename_i inside
    rw [buildStateTransfer_tail s inside]
    exact applyTail_entries _ r 0
  · rename_i outside
    rw [buildStateTransfer_full s outside]
    exact ⟨0, applyStateTransfer_full r s⟩

theorem applyStateTransfer_caughtUp {start : σ} {history : List WriteOp}
    (distinct : (history.map WriteOp.ident).Nodup) {r s : Replica σ}
    (receiver : CaughtUp start history r.toParts)
    (survivor : CaughtUp start history s.toParts) :
    CaughtUp start history
        (r.applyStateTransfer (s.buildStateTransfer r.deliveredIndex)).2.toParts ∧
      (r.applyStateTransfer (s.buildStateTransfer r.deliveredIndex)).2.deliveredIndex =
        s.deliveredIndex := by
  obtain ⟨count, done⟩ := applyStateTransfer_build r s r.deliveredIndex
  rw [done]
  split
  · rename_i inside
    obtain ⟨_, retained, behind⟩ := inside
    have tail := survivor.entriesFrom_ops retained behind
    have within := survivor.standing.within
    have handed := Stream.between behind within
    rw [← tail] at handed
    exact receiver.stream distinct handed
  · refine ⟨⟨survivor.standing, ?_⟩, rfl⟩
    intro entry member
    cases member

end Transfer

/-! ### Any number of replicas -/

section Cluster

variable [Bincode WriteOp] [AlwaysSerializable DeliveredEntry]
  [AlwaysSerializable ReplicaSnapshot]

/-- One step of a cluster of replicas over a total order: a replica absorbs
outputs whose deliveries mix operations it has applied with its next ones, or
applies a state transfer another replica builds for it. -/
inductive ClusterStep {ι : Type} [DecidableEq ι] (history : List WriteOp) :
    (ι → Replica σ) → (ι → Replica σ) → Prop
  | absorb (cluster : ι → Replica σ) (i : ι) (outs : List NodeOutput) (final : Nat)
      (handed : Stream history (cluster i).deliveredIndex (deliveredOps outs) final) :
      ClusterStep history cluster
        (Function.update cluster i ((cluster i).absorb outs).2)
  | transfer (cluster : ι → Replica σ) (i j : ι) :
      ClusterStep history cluster
        (Function.update cluster i
          ((cluster i).applyStateTransfer
            ((cluster j).buildStateTransfer (cluster i).deliveredIndex)).2)

theorem ClusterStep.preserves [LawfulRedisStore σ] {ι : Type} [DecidableEq ι]
    {start : σ} {history : List WriteOp} (distinct : (history.map WriteOp.ident).Nodup)
    {before after : ι → Replica σ} (step : ClusterStep history before after)
    (all : ∀ i, CaughtUp start history (before i).toParts) :
    ∀ i, CaughtUp start history (after i).toParts := by
  intro k
  cases step with
  | absorb i outs final handed =>
      by_cases here : k = i
      · subst here
        rw [Function.update_self, absorb_state]
        exact ((all k).stream distinct handed).1
      · rw [Function.update_of_ne here]
        exact all k
  | transfer i j =>
      by_cases here : k = i
      · subst here
        rw [Function.update_self]
        exact (applyStateTransfer_caughtUp distinct (all k) (all j)).1
      · rw [Function.update_of_ne here]
        exact all k

/-- What a replica holds after the first `applied` operations of the history
and no others. -/
structure Replica.HoldsPrefix (start : σ) (history : List WriteOp) (applied : Nat)
    (r : Replica σ) : Prop where
  within : applied ≤ history.length
  store : r.store = (history.take applied).foldl applyOp start
  dedup : ∀ origin requestId, r.dedup.isDup origin requestId = true ↔
    ∃ op ∈ history.take applied, op.ident = (origin, requestId)
  index : r.deliveredIndex = applied
  log : ∃ low ≤ applied,
    r.deliveredLog.entries.map DeliveredEntry.op = (history.take applied).drop low ∧
      r.deliveredLog.entries.map DeliveredEntry.index = List.range' low (applied - low)

omit [Bincode WriteOp] [AlwaysSerializable DeliveredEntry]
  [AlwaysSerializable ReplicaSnapshot] in
theorem CaughtUp.holdsPrefix {start : σ} {history : List WriteOp} {r : Replica σ}
    (caughtUp : CaughtUp start history r.toParts) :
    r.HoldsPrefix start history r.deliveredIndex := by
  have low := r.deliveredLog.lowWaterIndex_eq
  have fits := r.deliveredLog.numbered.fits
  have numbered := r.deliveredLog.numbered.numbered
  have below : r.deliveredLog.lowWaterIndex ≤ r.deliveredLog.headIndex := by omega
  have retained : r.deliveredLog.entriesFrom r.deliveredLog.lowWaterIndex =
      r.deliveredLog.entries := by
    rw [DeliveredLog.entriesFrom_eq, Nat.sub_self, List.drop_zero]
  have tail := caughtUp.entriesFrom_ops (Nat.le_refl _) below
  rw [retained] at tail
  refine ⟨caughtUp.standing.within, caughtUp.store_eq, caughtUp.isDup_iff, rfl,
    r.deliveredLog.lowWaterIndex, below, tail, ?_⟩
  rw [numbered, ← low]
  congr 1
  change _ = r.deliveredLog.headIndex - r.deliveredLog.lowWaterIndex
  omega

theorem cluster_caughtUp [LawfulRedisStore σ] {ι : Type} [DecidableEq ι] (ids : ι → ProcId)
    (mode : DeliveryMode) {start : σ} {history : List WriteOp}
    (distinct : (history.map WriteOp.ident).Nodup) {cluster : ι → Replica σ}
    (run : Relation.ReflTransGen (ClusterStep history)
      (fun i => Replica.new (ids i) mode start) cluster) :
    ∀ i, CaughtUp start history (cluster i).toParts := by
  induction run with
  | refl => exact fun i => CaughtUp.initial start history _
  | tail earlier step ih => exact step.preserves distinct ih

/-- Whatever a cluster of replicas that start empty does, every replica holds
a prefix of the total order, and two replicas that retain an entry at one index
retain the same operation there. -/
theorem cluster_safety [AlwaysSerializable MemStore] {ι : Type} [DecidableEq ι]
    (ids : ι → ProcId) (mode : DeliveryMode) (history : List WriteOp)
    (distinct : (history.map WriteOp.ident).Nodup) (cluster : ι → Replica MemStore)
    (run : Relation.ReflTransGen (ClusterStep history)
      (fun i => Replica.new (ids i) mode MemStore.new) cluster) :
    (∀ i, ∃ applied, (cluster i).HoldsPrefix MemStore.new history applied) ∧
      ∀ i j, ∀ entry ∈ (cluster i).deliveredLog.entries,
        ∀ other ∈ (cluster j).deliveredLog.entries,
          entry.index = other.index → entry = other := by
  have all := cluster_caughtUp ids mode distinct run
  refine ⟨fun i => ⟨_, (all i).holdsPrefix⟩, ?_⟩
  intro i j entry member other otherMember sameIndex
  have here := (all i).logged entry member
  have there := (all j).logged other otherMember
  rw [← sameIndex, here] at there
  cases entry
  cases other
  simp only at sameIndex
  simp only [Option.some.injEq] at there
  rw [sameIndex, there]

end Cluster

end Safety

/-! ### Two replicas, one of them caught up by transfer -/

section Sample

open scoped LoopbackRing

def sampleHistory : List WriteOp :=
  [WriteOp.new 1 0 (LoopbackRing.set "k" "v"),
    WriteOp.new 1 1 [asBytes "DEL", asBytes "k"]]

def sampleStart (i : Bool) : Replica MemStore := Replica.new i.toNat .totalOrder MemStore.new

def sampleOuts : List NodeOutput :=
  [.deliver (LoopbackRing.payloads (sampleHistory ++ sampleHistory))]

def sampleDelivered : Bool → Replica MemStore :=
  Function.update sampleStart false ((sampleStart false).absorb sampleOuts).2

def sampleCluster : Bool → Replica MemStore :=
  Function.update sampleDelivered true
    ((sampleDelivered true).applyStateTransfer
      ((sampleDelivered false).buildStateTransfer (sampleDelivered true).deliveredIndex)).2

theorem cluster_safety_sample :
    (∀ i, ∃ applied, (sampleCluster i).HoldsPrefix MemStore.new sampleHistory applied) ∧
      ∀ i j, ∀ entry ∈ (sampleCluster i).deliveredLog.entries,
        ∀ other ∈ (sampleCluster j).deliveredLog.entries,
          entry.index = other.index → entry = other := by
  have handed : deliveredOps sampleOuts = sampleHistory ++ sampleHistory := by decide
  have delivery : ClusterStep sampleHistory sampleStart sampleDelivered := by
    apply ClusterStep.absorb sampleStart false sampleOuts 2
    rw [handed]
    apply Stream.next rfl
    apply Stream.next rfl
    apply Stream.again (by decide)
    apply Stream.again (by decide)
    exact Stream.done 2
  have transfer : ClusterStep sampleHistory sampleDelivered sampleCluster :=
    ClusterStep.transfer sampleDelivered true false
  exact cluster_safety Bool.toNat .totalOrder sampleHistory (by decide) sampleCluster
    ((Relation.ReflTransGen.single delivery).tail transfer)

end Sample

end TrainsValkey
