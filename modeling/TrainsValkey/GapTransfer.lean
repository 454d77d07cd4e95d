import TrainsValkey.ReplicaSafety

/-
One state transfer closes the gap.

A survivor decides between the missing tail and a snapshot by where the
requester stands in its bounded log.  Either way the requester ends with the
survivor's store, deduplication state and index, and applying the transfer
again finds nothing to apply.
-/

set_option autoImplicit false

namespace TrainsValkey

open Trains
open Library (Stream replay)

/-! ### The effects a replica has applied -/

namespace WriteDedup

def recordAll (ops : List WriteOp) : WriteDedup :=
  ops.foldl (fun dedup op => (dedup.firstSeen op.origin op.requestId).2) WriteDedup.new

theorem recordAll_snoc (ops : List WriteOp) (op : WriteOp) :
    recordAll (ops ++ [op]) = ((recordAll ops).firstSeen op.origin op.requestId).2 := by
  rw [recordAll, List.foldl_append]
  rfl

theorem isDup_recordAll (ops : List WriteOp) (origin : ProcId) (requestId : Nat) :
    (recordAll ops).isDup origin requestId = true ↔
      (origin, requestId) ∈ ops.map WriteOp.ident := by
  induction ops using List.reverseRecOn with
  | nil => simp [recordAll]
  | append_singleton earlier op ih =>
      rw [recordAll_snoc, isDup_firstSeen, ih, List.map_append, List.mem_append,
        List.map_singleton, List.mem_singleton]
      exact or_comm

end WriteDedup

section ResultOf

variable {σ : Type} [RedisStore σ]

/-- The store, the deduplication state and the index are what applying `past`
to an empty replica leaves. -/
structure Parts.ResultOf (start : σ) (past : List WriteOp) (parts : Parts σ) : Prop where
  store : parts.store = replay applyOp start past
  dedup : parts.dedup = WriteDedup.recordAll past
  index : parts.deliveredLog.headIndex = past.length

namespace Parts.ResultOf

variable {start : σ} {past : List WriteOp} {parts : Parts σ} {op : WriteOp}

theorem isDup_iff (applied : parts.ResultOf start past) :
    parts.dedup.isDup op.origin op.requestId = true ↔ op.ident ∈ past.map WriteOp.ident := by
  rw [applied.dedup, WriteDedup.isDup_recordAll]
  rfl

theorem known (applied : parts.ResultOf start past) (repeated : op.ident ∈ past.map WriteOp.ident) :
    applyDeliveredOpParts op parts = (none, parts) :=
  applyDeliveredOpParts_dup (applied.isDup_iff.mpr repeated)

theorem fresh (applied : parts.ResultOf start past) (unseen : op.ident ∉ past.map WriteOp.ident) :
    parts.dedup.isDup op.origin op.requestId = false := by
  rw [Bool.eq_false_iff]
  intro dup
  exact unseen (applied.isDup_iff.mp dup)

theorem next (applied : parts.ResultOf start past) (unseen : op.ident ∉ past.map WriteOp.ident) :
    (parts.deliver op).ResultOf start (past ++ [op]) := by
  rw [Parts.deliver_fresh (applied.fresh unseen)]
  constructor
  · rw [Library.replay_append, ← applied.store]
    rfl
  · rw [WriteDedup.recordAll_snoc, ← applied.dedup]
  · rw [DeliveredLog.append_headIndex, applied.index, List.length_append, List.length_singleton]

theorem stream {history : List WriteOp} (distinct : (history.map WriteOp.ident).Nodup)
    {count final : Nat} {ops : List WriteOp} (handed : Stream history count ops final)
    (applied : parts.ResultOf start (history.take count)) :
    (parts.deliverAll ops).ResultOf start (history.take final) := by
  have again : ∀ reached count op, Parts.ResultOf start (history.take count) reached →
      op ∈ history.take count → (reached.deliver op).ResultOf start (history.take count) := by
    intro reached count op standing delivered
    have same := standing.known (List.mem_map_of_mem delivered)
    rw [Parts.deliver, same]
    exact standing
  have next : ∀ reached count op, Parts.ResultOf start (history.take count) reached →
      history[count]? = some op →
        (reached.deliver op).ResultOf start (history.take (count + 1)) := by
    intro reached count op standing at_count
    have unseen : op.ident ∉ (history.take count).map WriteOp.ident := by
      intro repeated
      obtain ⟨earlier, member, same⟩ := List.mem_map.mp repeated
      exact Library.not_seenBefore distinct at_count ⟨earlier, member, same⟩
    rw [Library.take_succ_of_getElem? at_count]
    exact standing.next unseen
  exact Stream.foldl again next handed applied

end Parts.ResultOf

/-- The pieces of a replica that has applied exactly its prefix of the history
and retains the end of that prefix. -/
structure Stands (start : σ) (history : List WriteOp) (parts : Parts σ) : Prop where
  caughtUp : CaughtUp start history parts
  applied : parts.ResultOf start (history.take parts.deliveredLog.headIndex)

section Stands

variable {start : σ} {history : List WriteOp} {parts : Parts σ}

theorem Stands.initial (start : σ) (history : List WriteOp) (cap : Nat) :
    Stands start history ⟨start, WriteDedup.new, DeliveredLog.new cap⟩ :=
  ⟨CaughtUp.initial start history cap, rfl, rfl, rfl⟩

theorem Stands.within (stands : Stands start history parts) :
    parts.deliveredLog.headIndex ≤ history.length :=
  stands.caughtUp.standing.within

theorem Stands.stream (distinct : (history.map WriteOp.ident).Nodup)
    (stands : Stands start history parts) {ops : List WriteOp} {final : Nat}
    (handed : Stream history parts.deliveredLog.headIndex ops final) :
    Stands start history (parts.deliverAll ops) ∧
      (parts.deliverAll ops).deliveredLog.headIndex = final := by
  obtain ⟨reached, index⟩ := stands.caughtUp.stream distinct handed
  have moved := stands.applied.stream distinct handed
  rw [← index] at moved
  exact ⟨⟨reached, moved⟩, index⟩

theorem Stands.agree {other : Parts σ} (stands : Stands start history parts)
    (otherStands : Stands start history other)
    (sameIndex : parts.deliveredLog.headIndex = other.deliveredLog.headIndex) :
    parts.store = other.store ∧ parts.dedup = other.dedup := by
  have applied := stands.applied
  rw [sameIndex] at applied
  exact ⟨applied.store.trans otherStands.applied.store.symm,
    applied.dedup.trans otherStands.applied.dedup.symm⟩

theorem Stands.resumed (stands : Stands start history parts) (cap : Nat) :
    Stands start history
      { parts with
        deliveredLog := DeliveredLog.resumedAt parts.deliveredLog.headIndex cap } := by
  constructor
  · refine ⟨stands.caughtUp.standing, ?_⟩
    intro entry member
    cases member
  · exact ⟨stands.applied.store, stands.applied.dedup, stands.applied.index⟩

end Stands

end ResultOf

/-! ### Replaying a tail -/

section Tail

variable [Trains] {σ : Type} [RedisStore σ] [AlwaysSerializable DeliveredEntry]
  {start : σ}

theorem applyTail_new (entries : List DeliveredEntry) {past : List WriteOp} {r : Replica σ}
    (applied : r.toParts.ResultOf start past)
    (distinct : ((past ++ entries.map DeliveredEntry.op).map WriteOp.ident).Nodup) (count : Nat) :
    (Replica.applyTail (entries.map serialize) r count).1 = .ok (count + entries.length) ∧
      (Replica.applyTail (entries.map serialize) r count).2.toParts.ResultOf start
        (past ++ entries.map DeliveredEntry.op) := by
  induction entries generalizing past r count with
  | nil =>
      refine ⟨rfl, ?_⟩
      rw [List.map_nil, List.append_nil]
      exact applied
  | cons entry rest ih =>
      have unseen : entry.op.ident ∉ past.map WriteOp.ident := by
        intro repeated
        rw [List.map_append, List.nodup_append] at distinct
        exact distinct.2.2 _ repeated _ List.mem_cons_self rfl
      have isApplied : (r.applyDeliveredOp entry.op).1.isSome = true := by
        simp only [Replica.applyDeliveredOp, applyDeliveredOpParts_fresh (applied.fresh unseen),
          Option.map_some, Option.isSome_some]
      have moved : past ++ (entry :: rest).map DeliveredEntry.op =
          past ++ [entry.op] ++ rest.map DeliveredEntry.op := by
        rw [List.map_cons, List.append_cons]
      rw [moved] at distinct ⊢
      have later := @ih _ (r.applyDeliveredOp entry.op).2 (applied.next unseen) distinct (count + 1)
      simp only [List.map_cons, Replica.applyTail, decode_serialize, isApplied, if_true,
        List.length_cons]
      rw [← Nat.add_assoc, Nat.add_right_comm]
      exact later

theorem applyTail_known (entries : List DeliveredEntry) {past : List WriteOp} {r : Replica σ}
    (applied : r.toParts.ResultOf start past) (known : ∀ entry ∈ entries, entry.op ∈ past)
    (count : Nat) :
    Replica.applyTail (entries.map serialize) r count = (.ok count, r) := by
  induction entries with
  | nil => rfl
  | cons entry rest ih =>
      have skipped : r.applyDeliveredOp entry.op = (none, r) := by
        have repeated := List.mem_map_of_mem (f := WriteOp.ident) (known entry List.mem_cons_self)
        simp only [Replica.applyDeliveredOp, applied.known repeated, Option.map_none]
      simp only [List.map_cons, Replica.applyTail, decode_serialize, skipped, Option.isSome_none,
        Bool.false_eq_true, if_false]
      exact ih (fun later member => known later (List.mem_cons_of_mem _ member))

end Tail

section Again

variable [Trains] {σ : Type}

theorem resetTo_again (r s : Replica σ) :
    (r.resetTo s).resetTo s =
      { r.resetTo s with
        core := importState (importState r.core (exportState s.core)) (exportState s.core) } := by
  have cap : max (max r.deliveredLog.cap 1) 1 = max r.deliveredLog.cap 1 := by omega
  simp only [Replica.resetTo, DeliveredLog.resumedAt, cap]

end Again

/-! ### Replicas with logs of any capacity -/

section Cluster

variable [Trains]

def Replica.newBounded {σ : Type} (id : ProcId) (mode : DeliveryMode) (store : σ) (cap : Nat) :
    Replica σ :=
  { Replica.new id mode store with deliveredLog := DeliveredLog.new cap }

variable {σ : Type} [RedisStore σ] [Bincode WriteOp] [AlwaysSerializable DeliveredEntry]
  [AlwaysSerializable ReplicaSnapshot] [LawfulRedisStore σ] {start : σ} {history : List WriteOp}

omit [Bincode WriteOp] in
theorem Stands.transfer (distinct : (history.map WriteOp.ident).Nodup) {r s : Replica σ}
    (receiver : Stands start history r.toParts) (survivor : Stands start history s.toParts) :
    Stands start history
      (r.applyStateTransfer (s.buildStateTransfer r.deliveredIndex)).2.toParts := by
  obtain ⟨count, done⟩ := applyStateTransfer_build r s r.deliveredIndex
  rw [done]
  split
  · rename_i inside
    obtain ⟨_, retained, behind⟩ := inside
    rw [survivor.caughtUp.entriesFrom_ops retained behind]
    exact (receiver.stream distinct (Stream.between behind survivor.within)).1
  · exact survivor.resumed r.deliveredLog.cap

/-- One step of a group of replicas over a total order: a replica broadcasts a
write, receives a train or ticks, and its core delivers operations the replica
has applied mixed with its next ones; or it applies a state transfer another
replica builds for it. -/
inductive GroupStep {ι : Type} [DecidableEq ι] (history : List WriteOp) :
    (ι → Replica σ) → (ι → Replica σ) → Prop
  | write (group : ι → Replica σ) (i : ι) (argv : List Bytes) (clientReply : Option Reply)
      (handed : ∀ bytes, ∃ final, Stream history (group i).deliveredIndex
        (deliveredOps (step (group i).core (.localBroadcast bytes)).2) final) :
      GroupStep history group
        (Function.update group i ((group i).broadcastWrite argv clientReply).2)
  | train (group : ι → Replica σ) (i : ι) (t : Train) (final : Nat)
      (handed : Stream history (group i).deliveredIndex
        (deliveredOps (step (group i).core (.trainReceived t)).2) final) :
      GroupStep history group (Function.update group i ((group i).onTrain t).2)
  | tick (group : ι → Replica σ) (i : ι) (final : Nat)
      (handed : Stream history (group i).deliveredIndex
        (deliveredOps (step (group i).core .tick).2) final) :
      GroupStep history group (Function.update group i (group i).tick.2)
  | transfer (group : ι → Replica σ) (i j : ι) :
      GroupStep history group
        (Function.update group i
          ((group i).applyStateTransfer
            ((group j).buildStateTransfer (group i).deliveredIndex)).2)

omit [AlwaysSerializable DeliveredEntry] [AlwaysSerializable ReplicaSnapshot]
  [LawfulRedisStore σ] in
theorem Stands.absorb (distinct : (history.map WriteOp.ident).Nodup) {r : Replica σ}
    (stands : Stands start history r.toParts) (core : Core) (nextRid : Nat) {outs : List NodeOutput}
    {final : Nat} (handed : Stream history r.deliveredIndex (deliveredOps outs) final) :
    Stands start history (Replica.absorb { r with core, nextRid } outs).2.toParts := by
  rw [absorb_state]
  exact (stands.stream distinct handed).1

variable {ι : Type} [DecidableEq ι]

omit [Bincode WriteOp] [AlwaysSerializable DeliveredEntry] [AlwaysSerializable ReplicaSnapshot]
  [LawfulRedisStore σ] in
theorem stands_update {group : ι → Replica σ} (all : ∀ i, Stands start history (group i).toParts)
    {i : ι} {r : Replica σ} (stands : Stands start history r.toParts) :
    ∀ k, Stands start history (Function.update group i r k).toParts := by
  intro k
  by_cases here : k = i
  · subst here
    rw [Function.update_self]
    exact stands
  · rw [Function.update_of_ne here]
    exact all k

theorem GroupStep.keeps_standing (distinct : (history.map WriteOp.ident).Nodup)
    {before after : ι → Replica σ} (step : GroupStep history before after)
    (all : ∀ i, Stands start history (before i).toParts) :
    ∀ i, Stands start history (after i).toParts := by
  cases step with
  | write i argv clientReply handed =>
      apply stands_update all
      cases encoded : Bincode.encodeToVec
          (WriteOp.forRequest (before i).id (before i).nextRid argv clientReply) with
      | error e =>
          simp only [Replica.broadcastWrite, encoded]
          exact all i
      | ok bytes =>
          obtain ⟨final, delivers⟩ := handed bytes
          simp only [Replica.broadcastWrite, encoded]
          exact (all i).absorb distinct _ _ delivers
  | train i t final handed => exact stands_update all ((all i).absorb distinct _ _ handed)
  | tick i final handed => exact stands_update all ((all i).absorb distinct _ _ handed)
  | transfer i j => exact stands_update all ((all i).transfer distinct (all j))

theorem group_stands (ids : ι → ProcId) (mode : DeliveryMode) (caps : ι → Nat)
    (distinct : (history.map WriteOp.ident).Nodup) {group : ι → Replica σ}
    (run : Relation.ReflTransGen (GroupStep history)
      (fun i => Replica.newBounded (ids i) mode start (caps i)) group) :
    ∀ i, Stands start history (group i).toParts := by
  induction run with
  | refl => exact fun i => Stands.initial start history (caps i)
  | tail earlier step ih => exact step.keeps_standing distinct ih

/-! ### Closing the gap -/

/-- Importing a protocol state twice is importing it once. -/
def ImportsOnce : Prop :=
  ∀ (core : Core) (state : StateSnapshot),
    importState (importState core state) state = importState core state

def Replica.catchUpFrom (r s : Replica σ) : Except SnapshotError Nat × Replica σ :=
  r.applyStateTransfer (s.buildStateTransfer r.deliveredIndex)

def Replica.catchUpAgain (r s : Replica σ) : Except SnapshotError Nat × Replica σ :=
  (r.catchUpFrom s).2.applyStateTransfer (s.buildStateTransfer r.deliveredIndex)

/-- The transfer takes `r` to where `s` stands and says how far that was.
Applied once more it touches nothing but the core, and the core only where the
kernel tells two imports of a state from one. -/
structure ClosesGap (r s : Replica σ) : Prop where
  store : (r.catchUpFrom s).2.store = s.store
  dedup : (r.catchUpFrom s).2.dedup = s.dedup
  index : (r.catchUpFrom s).2.deliveredIndex = s.deliveredIndex
  answered : ∃ count, (r.catchUpFrom s).1 = .ok count
  counted : (s.buildStateTransfer r.deliveredIndex).snapshot = [] →
    (r.catchUpFrom s).1 = .ok (s.deliveredIndex - r.deliveredIndex)
  again : ∃ core, r.catchUpAgain s = (.ok 0, { (r.catchUpFrom s).2 with core })
  unchanged : (s.buildStateTransfer r.deliveredIndex).snapshot = [] ∨ ImportsOnce →
    r.catchUpAgain s = (.ok 0, (r.catchUpFrom s).2)

section Gap

variable {r s : Replica σ}

omit [Bincode WriteOp] in
theorem closesGap_full
    (outside : ¬(0 < r.deliveredIndex ∧ s.deliveredLog.lowWaterIndex ≤ r.deliveredIndex ∧
      r.deliveredIndex ≤ s.deliveredLog.headIndex)) :
    ClosesGap r s := by
  have built := buildStateTransfer_full s outside
  have carried : (s.buildStateTransfer r.deliveredIndex).snapshot ≠ [] := by
    rw [built]
    exact AlwaysSerializable.serialize_ne_nil s.exportSnapshot
  have once : r.catchUpFrom s = (.ok 0, r.resetTo s) := by
    rw [Replica.catchUpFrom, built, applyStateTransfer_full]
  have twice : r.catchUpAgain s = (.ok 0, (r.resetTo s).resetTo s) := by
    rw [Replica.catchUpAgain, once, built, applyStateTransfer_full]
  constructor
  · rw [once]; rfl
  · rw [once]; rfl
  · rw [once]; rfl
  · exact ⟨0, by rw [once]⟩
  · exact fun empty => absurd empty carried
  · rw [twice, resetTo_again, once]
    exact ⟨_, rfl⟩
  · intro settled
    have imports := settled.resolve_left carried
    rw [twice, resetTo_again, once, imports]
    rfl

omit [Bincode WriteOp] [LawfulRedisStore σ] in
/-- The incremental path, for a requester that has applied a prefix of what the
survivor has. -/
theorem closesGap_tail (distinct : (history.map WriteOp.ident).Nodup)
    (inside : 0 < r.deliveredIndex ∧ s.deliveredLog.lowWaterIndex ≤ r.deliveredIndex ∧
      r.deliveredIndex ≤ s.deliveredLog.headIndex)
    (survivor : Stands start history s.toParts)
    (applied : r.toParts.ResultOf start (history.take r.deliveredIndex)) :
    ClosesGap r s := by
  have built := buildStateTransfer_tail s inside
  obtain ⟨_, retained, behind⟩ := inside
  have ordered : r.deliveredIndex ≤ s.deliveredIndex := behind
  have within : s.deliveredIndex ≤ history.length := survivor.within
  let missing := s.deliveredLog.entriesFrom r.deliveredIndex
  have tail : missing.map DeliveredEntry.op =
      (history.take s.deliveredIndex).drop r.deliveredIndex :=
    survivor.caughtUp.entriesFrom_ops retained behind
  have whole : history.take r.deliveredIndex ++ missing.map DeliveredEntry.op =
      history.take s.deliveredIndex := by
    have kept : (history.take s.deliveredIndex).take r.deliveredIndex =
        history.take r.deliveredIndex := by
      rw [List.take_take, Nat.min_eq_left ordered]
    rw [tail, ← kept, List.take_append_drop]
  have missingDistinct :
      ((history.take r.deliveredIndex ++ missing.map DeliveredEntry.op).map
        WriteOp.ident).Nodup := by
    rw [whole]
    exact distinct.sublist ((List.take_sublist _ history).map WriteOp.ident)
  have gap : missing.length = s.deliveredIndex - r.deliveredIndex := by
    rw [← List.length_map DeliveredEntry.op, tail, List.length_drop, List.length_take_of_le within]
  have once : r.catchUpFrom s = Replica.applyTail (missing.map serialize) r 0 := by
    rw [Replica.catchUpFrom, built]
    rfl
  obtain ⟨count, reached⟩ := applyTail_new missing applied missingDistinct 0
  rw [whole] at reached
  rw [← once] at count reached
  have known : ∀ entry ∈ missing, entry.op ∈ history.take s.deliveredIndex := by
    intro entry member
    have inTail := List.mem_map_of_mem (f := DeliveredEntry.op) member
    rw [tail] at inTail
    exact List.mem_of_mem_drop inTail
  have twice : r.catchUpAgain s = (.ok 0, (r.catchUpFrom s).2) := by
    rw [Replica.catchUpAgain, built]
    exact applyTail_known missing reached known 0
  rw [Nat.zero_add, gap] at count
  constructor
  · exact reached.store.trans survivor.applied.store.symm
  · exact reached.dedup.trans survivor.applied.dedup.symm
  · exact reached.index.trans survivor.applied.index.symm
  · exact ⟨_, count⟩
  · exact fun _ => count
  · exact ⟨_, twice⟩
  · exact fun _ => twice

end Gap

/-- In a group of replicas with logs of any capacity, a transfer from any
replica closes the gap of a requester that has applied a prefix of what that
replica has applied, and of a requester that says it has applied nothing,
whatever it holds. -/
theorem state_transfer_closes_gap [AlwaysSerializable MemStore] (ids : ι → ProcId)
    (mode : DeliveryMode) (caps : ι → Nat) (start : MemStore) (history : List WriteOp)
    (distinct : (history.map WriteOp.ident).Nodup) (group : ι → Replica MemStore)
    (run : Relation.ReflTransGen (GroupStep history)
      (fun i => Replica.newBounded (ids i) mode start (caps i)) group)
    (survivor : ι) (r : Replica MemStore)
    (requester : r.deliveredIndex = 0 ∨
      ∃ past, past <+: history.take (group survivor).deliveredIndex ∧
        r.toParts.ResultOf start past) :
    ClosesGap r (group survivor) := by
  have stands := group_stands ids mode caps distinct run survivor
  by_cases inside : 0 < r.deliveredIndex ∧
      (group survivor).deliveredLog.lowWaterIndex ≤ r.deliveredIndex ∧
      r.deliveredIndex ≤ (group survivor).deliveredLog.headIndex
  · apply closesGap_tail distinct inside stands
    rcases requester with untouched | ⟨past, isPrefix, applied⟩
    · omega
    · have index : r.deliveredIndex = past.length := applied.index
      have same : past = history.take r.deliveredIndex := by
        rw [index]
        exact List.prefix_iff_eq_take.mp (isPrefix.trans (List.take_prefix _ history))
      rw [← same]
      exact applied
  · exact closesGap_full inside

end Cluster

/-! ### A survivor that retains one effect -/

section Sample

open scoped LoopbackRing

def threeWrites : List WriteOp :=
  [WriteOp.new 1 0 (LoopbackRing.set "a" "1"), WriteOp.new 1 1 (LoopbackRing.set "b" "2"),
    WriteOp.new 2 0 [asBytes "DEL", asBytes "a"]]

def evictingStart (i : Bool) : Replica MemStore :=
  Replica.newBounded i.toNat .totalOrder MemStore.new 1

def loaded (ops : List WriteOp) : Train := { issuer := 0, payloads := LoopbackRing.payloads ops }

def evicted : Bool → Replica MemStore :=
  Function.update evictingStart false ((evictingStart false).onTrain (loaded threeWrites)).2

def oneBehind : Replica MemStore :=
  ((evictingStart true).onTrain (loaded (threeWrites.take 2))).2

def stale : Replica MemStore :=
  { evictingStart true with
    store := (RedisStore.apply MemStore.new
      { name := "SET", argv := LoopbackRing.set "stale" "ZOMBIE" }).2 }

theorem evicted_reachable :
    Relation.ReflTransGen (GroupStep threeWrites) evictingStart evicted := by
  apply Relation.ReflTransGen.single
  apply GroupStep.train evictingStart false (loaded threeWrites) 3
  exact Stream.next rfl (Stream.next rfl (Stream.next rfl (Stream.done 3)))

theorem oneBehind_applied :
    oneBehind.toParts.ResultOf MemStore.new (threeWrites.take 2) := by
  have empty : (evictingStart true).toParts.ResultOf MemStore.new (threeWrites.take 0) :=
    ⟨rfl, rfl, rfl⟩
  have handed : Stream threeWrites 0 (threeWrites.take 2) 2 :=
    Stream.next rfl (Stream.next rfl (Stream.done 2))
  rw [oneBehind, Replica.onTrain, absorb_state]
  exact empty.stream (by decide) handed

/-- The survivor has evicted two of its three effects.  It serves the last one
to a requester that lacks only that, and everything to one that starts. -/
theorem state_transfer_closes_gap_evicted :
    ClosesGap oneBehind (evicted false) ∧ ClosesGap stale (evicted false) ∧
      (oneBehind.catchUpFrom (evicted false)).1 = .ok 1 := by
  have behind : ClosesGap oneBehind (evicted false) :=
    state_transfer_closes_gap Bool.toNat .totalOrder (fun _ => 1) MemStore.new threeWrites
      (by decide) evicted evicted_reachable false oneBehind
      (Or.inr ⟨threeWrites.take 2, by decide, oneBehind_applied⟩)
  have fresh : ClosesGap stale (evicted false) :=
    state_transfer_closes_gap Bool.toNat .totalOrder (fun _ => 1) MemStore.new threeWrites
      (by decide) evicted evicted_reachable false stale (Or.inl rfl)
  exact ⟨behind, fresh, behind.counted rfl⟩

end Sample

end TrainsValkey
