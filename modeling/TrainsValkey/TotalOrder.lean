import TrainsValkey.Library.ReplayLog
import TrainsValkey.Replica

/-
The three pieces of a replica against one total order of operations.

`applyDeliveredOpParts` refines the at-least-once consumer of the library:
the store is the state, the deduplication answers are the identities seen, and
the head of the delivered log is the count.  `CaughtUp` adds what the log
retains.  Live delivery and tail replay both fold `applyDeliveredOpParts` over
the operations they decode, so one lemma serves both.
-/

set_option autoImplicit false

namespace TrainsValkey

open Library (Consumer AtPrefix Stream replay seenBefore)

variable {σ : Type} [RedisStore σ]

/-- One operation of the total order as a state transformer. -/
def applyOp (store : σ) (op : WriteOp) : σ := (op.applyTo store).2

def Parts.deliver (parts : Parts σ) (op : WriteOp) : Parts σ :=
  (applyDeliveredOpParts op parts).2

def Parts.deliverAll (parts : Parts σ) (ops : List WriteOp) : Parts σ :=
  ops.foldl Parts.deliver parts

/-! ### What one delivery does -/

section Delivery

variable {parts : Parts σ} {op : WriteOp}

theorem applyDeliveredOpParts_dup
    (dup : parts.dedup.isDup op.origin op.requestId = true) :
    applyDeliveredOpParts op parts = (none, parts) := by
  unfold applyDeliveredOpParts
  rw [WriteDedup.firstSeen_dup dup]
  rfl

theorem applyDeliveredOpParts_fresh
    (fresh : parts.dedup.isDup op.origin op.requestId = false) :
    applyDeliveredOpParts op parts =
      (some (op.clientReply.getD (op.applyTo parts.store).1),
        { store := applyOp parts.store op
          dedup := (parts.dedup.firstSeen op.origin op.requestId).2
          deliveredLog := (parts.deliveredLog.append op).2 }) := by
  have first : (parts.dedup.firstSeen op.origin op.requestId).1 = true := by
    rw [WriteDedup.firstSeen_fst, fresh]
    rfl
  simp only [applyDeliveredOpParts, first, Bool.not_true, Bool.false_eq_true, if_false]
  rfl

theorem Parts.deliver_dup (dup : parts.dedup.isDup op.origin op.requestId = true) :
    parts.deliver op = parts := by
  rw [Parts.deliver, applyDeliveredOpParts_dup dup]

theorem Parts.deliver_fresh (fresh : parts.dedup.isDup op.origin op.requestId = false) :
    parts.deliver op =
      { store := applyOp parts.store op
        dedup := (parts.dedup.firstSeen op.origin op.requestId).2
        deliveredLog := (parts.deliveredLog.append op).2 } := by
  rw [Parts.deliver, applyDeliveredOpParts_fresh fresh]

theorem Parts.deliver_isDup (parts : Parts σ) (op : WriteOp) (origin : ProcId)
    (requestId : Nat) :
    (parts.deliver op).dedup.isDup origin requestId = true ↔
      (origin, requestId) = op.ident ∨ parts.dedup.isDup origin requestId = true := by
  have recorded := parts.dedup.isDup_firstSeen op.origin origin op.requestId requestId
  cases dup : parts.dedup.isDup op.origin op.requestId with
  | true =>
      rw [WriteDedup.firstSeen_dup dup] at recorded
      rw [Parts.deliver_dup dup]
      exact recorded
  | false =>
      rw [Parts.deliver_fresh dup]
      exact recorded

end Delivery

/-! ### Refinement of the at-least-once consumer -/

/-- The abstract view of the three pieces. -/
def Parts.consumer (parts : Parts σ) : Consumer σ (ProcId × Nat) :=
  { state := parts.store
    seen := {id | parts.dedup.isDup id.1 id.2 = true}
    count := parts.deliveredLog.headIndex }

omit [RedisStore σ] in
theorem Parts.mem_seen (parts : Parts σ) (op : WriteOp) :
    op.ident ∈ parts.consumer.seen ↔ parts.dedup.isDup op.origin op.requestId = true :=
  Iff.rfl

theorem Parts.deliver_consumer (parts : Parts σ) (op : WriteOp) :
    (parts.deliver op).consumer = parts.consumer.deliver WriteOp.ident applyOp op := by
  cases dup : parts.dedup.isDup op.origin op.requestId with
  | true =>
      rw [Parts.deliver_dup dup, Consumer.deliver_seen _ _ _ _ dup]
  | false =>
      have fresh : op.ident ∉ parts.consumer.seen := by
        rw [Parts.mem_seen, dup]
        exact Bool.false_ne_true
      rw [Consumer.deliver_fresh _ _ _ _ fresh]
      have seen : (parts.deliver op).consumer.seen =
          insert op.ident parts.consumer.seen := by
        ext id
        exact parts.deliver_isDup op id.1 id.2
      rw [← seen]
      simp only [Parts.consumer, Parts.deliver_fresh dup, DeliveredLog.append_headIndex]

theorem Parts.deliverAll_append (parts : Parts σ) (first second : List WriteOp) :
    parts.deliverAll (first ++ second) = (parts.deliverAll first).deliverAll second :=
  List.foldl_append

theorem Parts.deliverAll_consumer (parts : Parts σ) (ops : List WriteOp) :
    (parts.deliverAll ops).consumer =
      ops.foldl (Consumer.deliver WriteOp.ident applyOp) parts.consumer := by
  induction ops generalizing parts with
  | nil => rfl
  | cons op rest ih =>
      rw [List.foldl_cons, ← Parts.deliver_consumer, ← ih]
      rfl

/-! ### Standing at a prefix of the total order -/

/-- The pieces are the result of applying the first `headIndex` operations of
the history, and the log's entry at index k is the history's k-th operation. -/
structure CaughtUp (start : σ) (history : List WriteOp) (parts : Parts σ) : Prop where
  standing : AtPrefix WriteOp.ident applyOp start history parts.consumer
  logged : ∀ entry ∈ parts.deliveredLog.entries, history[entry.index]? = some entry.op

namespace CaughtUp

variable {start : σ} {history : List WriteOp} {parts : Parts σ}

theorem store_eq (caughtUp : CaughtUp start history parts) :
    parts.store = replay applyOp start (history.take parts.deliveredLog.headIndex) :=
  caughtUp.standing.state

theorem isDup_iff (caughtUp : CaughtUp start history parts) (origin : ProcId)
    (requestId : Nat) :
    parts.dedup.isDup origin requestId = true ↔
      ∃ op ∈ history.take parts.deliveredLog.headIndex, op.ident = (origin, requestId) := by
  have same : ((origin, requestId) ∈ parts.consumer.seen) ↔
      (origin, requestId) ∈ seenBefore WriteOp.ident history parts.consumer.count := by
    rw [caughtUp.standing.seen]
  exact same

theorem initial (start : σ) (history : List WriteOp) (cap : Nat) :
    CaughtUp start history ⟨start, WriteDedup.new, DeliveredLog.new cap⟩ := by
  constructor
  · constructor
    · exact Nat.zero_le _
    · rfl
    · ext id
      simp [Parts.consumer, seenBefore, DeliveredLog.new]
  · intro entry member
    cases member

theorem deliver_again (caughtUp : CaughtUp start history parts) {op : WriteOp}
    (delivered : op ∈ history.take parts.deliveredLog.headIndex) :
    parts.deliver op = parts := by
  apply Parts.deliver_dup
  rw [caughtUp.isDup_iff]
  exact ⟨op, delivered, rfl⟩

theorem deliver_next (distinct : (history.map WriteOp.ident).Nodup)
    (caughtUp : CaughtUp start history parts) {op : WriteOp}
    (at_head : history[parts.deliveredLog.headIndex]? = some op) :
    CaughtUp start history (parts.deliver op) ∧
      (parts.deliver op).deliveredLog = (parts.deliveredLog.append op).2 := by
  have moved := caughtUp.standing.deliver_next distinct at_head
  rw [← Parts.deliver_consumer] at moved
  have fresh : parts.dedup.isDup op.origin op.requestId = false := by
    have unseen := Library.not_seenBefore distinct at_head
    rw [Bool.eq_false_iff]
    intro dup
    exact unseen ((caughtUp.isDup_iff op.origin op.requestId).mp dup)
  have sameLog : (parts.deliver op).deliveredLog = (parts.deliveredLog.append op).2 := by
    rw [Parts.deliver_fresh fresh]
  refine ⟨⟨moved.1, ?_⟩, sameLog⟩
  intro entry member
  rw [sameLog] at member
  rcases DeliveredLog.mem_append member with retained | rfl
  · exact caughtUp.logged entry retained
  · exact at_head

theorem stream (distinct : (history.map WriteOp.ident).Nodup)
    (caughtUp : CaughtUp start history parts) {ops : List WriteOp} {final : Nat}
    (handed : Stream history parts.deliveredLog.headIndex ops final) :
    CaughtUp start history (parts.deliverAll ops) ∧
      (parts.deliverAll ops).deliveredLog.headIndex = final := by
  let Standing (reached : Parts σ) (count : Nat) : Prop :=
    CaughtUp start history reached ∧ reached.deliveredLog.headIndex = count
  have again : ∀ reached count op, Standing reached count → op ∈ history.take count →
      Standing (reached.deliver op) count := by
    rintro reached count op ⟨standing, rfl⟩ delivered
    rw [standing.deliver_again delivered]
    exact ⟨standing, rfl⟩
  have next : ∀ reached count op, Standing reached count → history[count]? = some op →
      Standing (reached.deliver op) (count + 1) := by
    rintro reached count op ⟨standing, rfl⟩ at_count
    obtain ⟨moved, sameLog⟩ := standing.deliver_next distinct at_count
    exact ⟨moved, by rw [sameLog, DeliveredLog.append_headIndex]⟩
  exact Stream.foldl again next handed ⟨caughtUp, rfl⟩

/-- Two replicas at the same index hold the same store and answer every
deduplication question alike. -/
theorem agree {other : Parts σ} (caughtUp : CaughtUp start history parts)
    (otherCaughtUp : CaughtUp start history other)
    (sameIndex : parts.deliveredLog.headIndex = other.deliveredLog.headIndex) :
    parts.consumer = other.consumer :=
  caughtUp.standing.unique otherCaughtUp.standing sameIndex

/-- A survivor's retained tail from `first` is the history between `first` and
its own head. -/
theorem entriesFrom_ops (caughtUp : CaughtUp start history parts) {first : Nat}
    (retained : parts.deliveredLog.lowWaterIndex ≤ first)
    (behind : first ≤ parts.deliveredLog.headIndex) :
    (parts.deliveredLog.entriesFrom first).map DeliveredEntry.op =
      (history.take parts.deliveredLog.headIndex).drop first := by
  have within := caughtUp.standing.within
  have low := parts.deliveredLog.lowWaterIndex_eq
  have fits := parts.deliveredLog.numbered.fits
  change parts.deliveredLog.headIndex ≤ history.length at within
  rw [DeliveredLog.entriesFrom_eq]
  apply List.ext_getElem
  · simp only [List.length_map, List.length_drop, List.length_take]
    omega
  · intro position leftBound rightBound
    simp only [List.length_map, List.length_drop] at leftBound
    simp only [List.getElem_map, List.getElem_drop, List.getElem_take]
    have bound : first - parts.deliveredLog.lowWaterIndex + position <
        parts.deliveredLog.entries.length := by omega
    have numbered := parts.deliveredLog.numbered.index_getElem bound
    have logged := caughtUp.logged _ (List.getElem_mem bound)
    rw [numbered, List.getElem?_eq_some_iff] at logged
    obtain ⟨_, found⟩ := logged
    rw [← found]
    congr 1
    omega

end CaughtUp

end TrainsValkey
