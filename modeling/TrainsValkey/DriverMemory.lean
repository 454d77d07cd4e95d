import TrainsValkey.DedupSet
import TrainsValkey.Sessions

/-
What a driver keeps in memory.

A driver gives out request ids without a gap, even when an operation does not
encode.  On a ring that hands on the operations of each node in the order in
which it broadcast them, no two operations share an id, and every replica keeps
a watermark for each node and no window: what it keeps does not grow with what
it has applied.
-/

set_option autoImplicit false

namespace TrainsValkey

open Std (ExtTreeMap ExtTreeSet)
open Trains
open Library (Explained Stream Watermarked)
open Library.Action (Keeps)

section Memory

variable [Trains] {σ : Type} [RedisStore σ]

/-! ### Ids without a gap -/

def broadcastsIn (trace : List Event) : List WriteOp :=
  trace.filterMap (fun event =>
    match event with
    | .broadcast op _ => some op
    | _ => none)

theorem broadcastsIn_append (first second : List Event) :
    broadcastsIn (first ++ second) = broadcastsIn first ++ broadcastsIn second :=
  List.filterMap_append

/-- What the turns of a driver keep: its broadcasts are numbered from 0 on, the
deduplication state is in its one form, and the log has the default capacity. -/
structure Bookkeeping (id : ProcId) (st : DriverState σ) (trace : List Event) : Prop where
  numbered : (broadcastsIn trace).map WriteOp.ident = (List.range st.nextRid).map (Prod.mk id)
  canonical : st.dedup.Canonical
  cap : st.deliveredLog.cap = defaultCap

namespace Bookkeeping

variable {id : ProcId}

omit [RedisStore σ] in
theorem unmoved {before after : DriverState σ} {trace events : List Event}
    (kept : Bookkeeping id before trace) (parts : after.toParts = before.toParts)
    (nextRid : after.nextRid = before.nextRid) (none_ : broadcastsIn events = []) :
    Bookkeeping id after (trace ++ events) := by
  constructor
  · rw [broadcastsIn_append, none_, List.append_nil, nextRid]
    exact kept.numbered
  · rw [parts]
    exact kept.canonical
  · rw [parts]
    exact kept.cap

theorem deliver {st : DriverState σ} {trace : List Event} (kept : Bookkeeping id st trace)
    (op : WriteOp) (fresh : st.dedup.isDup op.origin op.requestId = false)
    {after : DriverState σ} {events : List Event}
    (parts : after.toParts = st.toParts.deliver op) (nextRid : after.nextRid = st.nextRid)
    (none_ : broadcastsIn events = []) : Bookkeeping id after (trace ++ events) := by
  rw [Parts.deliver_fresh fresh] at parts
  constructor
  · rw [broadcastsIn_append, none_, List.append_nil, nextRid]
    exact kept.numbered
  · rw [parts]
    exact kept.canonical.firstSeen op.origin op.requestId
  · rw [parts]
    exact kept.cap

omit [RedisStore σ] in
theorem sent {st : DriverState σ} {trace : List Event} (kept : Bookkeeping id st trace)
    (client : Sender) (argv : List Bytes) (clientReply : Option Reply)
    (pending : ExtTreeMap Nat Sender) :
    Bookkeeping id { st with nextRid := st.nextRid + 1, pending }
      (trace ++ [.request client,
        .broadcast (.forRequest id st.nextRid argv clientReply) client]) := by
  refine ⟨?_, kept.canonical, kept.cap⟩
  have numbered : (WriteOp.forRequest id st.nextRid argv clientReply).ident = (id, st.nextRid) := by
    cases clientReply <;> rfl
  rw [broadcastsIn_append, List.map_append, kept.numbered, List.range_succ, List.map_append]
  exact congrArg (_ ++ [·]) numbered

end Bookkeeping

theorem bookkeepingProperty (id : ProcId) : ClientProperty id (Bookkeeping (σ := σ) id) where
  deliver op := by
    intro st trace kept
    cases dup : st.dedup.isDup op.origin op.requestId with
    | true =>
        rw [deliverOp_dup dup]
        exact kept.unmoved rfl rfl rfl
    | false =>
        rw [deliverOp_fresh dup]
        cases st.waitingClient id op with
        | none => exact kept.deliver op dup rfl rfl rfl
        | some client => exact kept.deliver op dup rfl rfl rfl
  silent kept same := by
    have moved := kept.unmoved same.parts same.nextRid (rfl : broadcastsIn [] = [])
    rw [List.append_nil] at moved
    exact moved
  quietEvent event kept isQuiet := by
    apply kept.unmoved rfl rfl
    cases event <;> first | rfl | cases isQuiet

section Run

variable [Bincode WriteOp] [FloatArith] [AlwaysSerializable DeliveredEntry]
  [AlwaysSerializable ReplicaSnapshot]

theorem driverLoop_bookkeeping (cfg : DriverCfg) (start : σ) (inputs : List DriverInput) :
    Bookkeeping cfg.id (driverLoop cfg start none inputs).1 (driverLoop cfg start none inputs).2 := by
  apply (bookkeepingProperty cfg.id).driverLoop
  · intro req
    apply (bookkeepingProperty cfg.id).writeRequest
    · intro st trace reply kept
      exact kept.unmoved rfl rfl rfl
    · intro st trace argv clientReply kept
      exact kept.sent req.reply argv clientReply _
  · exact ⟨rfl, WriteDedup.canonical_new, rfl⟩

end Run

/-! ### A ring that keeps each node's order -/

/-- The operations of the order are those of the nodes, each node's in the
order in which it broadcast them. -/
structure Fifo {ι : Type} (nodes : ι → DriverCfg) (traces : ι → List Event)
    (history : List WriteOp) : Prop where
  known : ∀ op ∈ history, ∃ i, op.origin = (nodes i).id
  inOrder : ∀ i, history.filter (fun op => op.origin = (nodes i).id) <+: broadcastsIn (traces i)

def countFrom (history : List WriteOp) (count : Nat) (origin : ProcId) : Nat :=
  ((history.take count).filter (fun op => op.origin = origin)).length

omit [Trains] in
theorem numbered_front {ops all : List WriteOp} {id next : Nat} (front : ops <+: all)
    (numbered : all.map WriteOp.ident = (List.range next).map (Prod.mk id)) :
    ops.map WriteOp.ident = (List.range ops.length).map (Prod.mk id) := by
  have within := front.map WriteOp.ident
  rw [numbered] at within
  have shorter := within.length_le
  rw [List.length_map, List.length_map, List.length_range] at shorter
  rw [List.prefix_iff_eq_take.mp within, List.length_map, ← List.map_take, List.take_range,
    Nat.min_eq_left shorter]

section Ids

variable {ι : Type} {nodes : ι → DriverCfg} {traces : ι → List Event} {history : List WriteOp}
  {next : ι → Nat}

omit [RedisStore σ] in
theorem Fifo.front_numbered (fifo : Fifo nodes traces history)
    (numbered : ∀ i, (broadcastsIn (traces i)).map WriteOp.ident =
      (List.range (next i)).map (Prod.mk (nodes i).id)) (count : Nat) (i : ι) :
    ((history.take count).filter (fun op => op.origin = (nodes i).id)).map WriteOp.ident =
      (List.range (countFrom history count (nodes i).id)).map (Prod.mk (nodes i).id) := by
  have front : (history.take count).filter (fun op => op.origin = (nodes i).id) <+:
      history.filter (fun op => op.origin = (nodes i).id) :=
    (List.take_prefix count history).filter _
  exact numbered_front (front.trans (fifo.inOrder i)) (numbered i)

theorem Fifo.applied_iff (fifo : Fifo nodes traces history)
    (numbered : ∀ i, (broadcastsIn (traces i)).map WriteOp.ident =
      (List.range (next i)).map (Prod.mk (nodes i).id)) (count : Nat) (origin : ProcId)
    (requestId : Nat) :
    (∃ op ∈ history.take count, op.ident = (origin, requestId)) ↔
      requestId < countFrom history count origin := by
  constructor
  · intro ⟨op, member, ident⟩
    obtain ⟨i, own⟩ := fifo.known op (List.mem_of_mem_take member)
    have origin_ : op.origin = origin := congrArg Prod.fst ident
    subst origin_
    rw [own] at ident ⊢
    have inFilter : op ∈ (history.take count).filter (fun op => op.origin = (nodes i).id) := by
      simpa [own] using member
    have listed := List.mem_map_of_mem (f := WriteOp.ident) inFilter
    rw [fifo.front_numbered numbered count i, ident] at listed
    obtain ⟨id, within, same⟩ := List.mem_map.mp listed
    cases same
    exact List.mem_range.mp within
  · intro within
    have some_ : 0 < countFrom history count origin := Nat.zero_lt_of_lt within
    obtain ⟨first, memberFirst⟩ := List.exists_mem_of_length_pos some_
    have fromOrigin : first.origin = origin := by simpa using (List.mem_filter.mp memberFirst).2
    obtain ⟨i, own⟩ := fifo.known first
      (List.mem_of_mem_take (List.mem_filter.mp memberFirst).1)
    rw [own] at fromOrigin
    subst fromOrigin
    have listed : ((nodes i).id, requestId) ∈
        (List.range (countFrom history count (nodes i).id)).map (Prod.mk (nodes i).id) :=
      List.mem_map_of_mem (List.mem_range.mpr within)
    rw [← fifo.front_numbered numbered count i] at listed
    obtain ⟨op, member, ident⟩ := List.mem_map.mp listed
    exact ⟨op, (List.mem_filter.mp member).1, ident⟩

theorem Fifo.distinct (fifo : Fifo nodes traces history)
    (numbered : ∀ i, (broadcastsIn (traces i)).map WriteOp.ident =
      (List.range (next i)).map (Prod.mk (nodes i).id)) :
    (history.map WriteOp.ident).Nodup := by
  rw [List.nodup_iff_count_le_one]
  intro ident
  by_cases occurs : ident ∈ history.map WriteOp.ident
  · obtain ⟨op, member, rfl⟩ := List.mem_map.mp occurs
    obtain ⟨i, own⟩ := fifo.known op member
    have whole := fifo.front_numbered numbered history.length i
    rw [List.take_length] at whole
    have once : ((history.filter (fun op => op.origin = (nodes i).id)).map
        WriteOp.ident).Nodup := by
      rw [whole]
      exact List.nodup_range.map (fun _ _ same => (Prod.mk.inj same).2)
    have same : (history.map WriteOp.ident).count op.ident =
        ((history.filter (fun op => op.origin = (nodes i).id)).map WriteOp.ident).count
          op.ident := by
      rw [List.count_eq_countP, List.count_eq_countP, List.countP_map, List.countP_map,
        List.countP_filter]
      apply List.countP_congr
      intro other _
      simp only [Function.comp_apply, beq_iff_eq, Bool.and_eq_true, decide_eq_true_eq]
      constructor
      · intro equal
        exact ⟨equal, (congrArg Prod.fst equal).trans own⟩
      · exact And.left
    rw [same]
    exact List.nodup_iff_count_le_one.mp once _
  · rw [List.count_eq_zero.mpr occurs]
    exact Nat.zero_le 1

end Ids

/-! ### What a driver holds -/

section Bounded

/-- What a replica that has applied `count` operations of the order keeps. -/
structure Bounded (history : List WriteOp) (id : ProcId) (st : DriverState σ) (count : Nat) :
    Prop where
  dedup : ∀ origin od, st.dedup.origin origin = some od →
    od = ⟨countFrom history count origin, ∅⟩ ∧ 0 < countFrom history count origin
  log : st.deliveredLog.entries.length ≤ defaultCap
  pending : ∀ requestId, requestId ∈ st.pending ↔
    countFrom history count id ≤ requestId ∧ requestId < st.nextRid

variable [Bincode WriteOp] [FloatArith] [AlwaysSerializable DeliveredEntry]
  [AlwaysSerializable ReplicaSnapshot]

/-- On a ring that keeps each node's order, no two operations share an id, and
what a driver keeps is a watermark for each node, a capped log and its clients
that wait. -/
theorem driver_memory_bounded {ι : Type} (nodes : ι → DriverCfg)
    (inputs : ι → List DriverInput) (start : σ) (history : List WriteOp)
    (admissible : ∀ i,
      Explained (Admissible (nodes i).id) (driverLoop (nodes i) start none (inputs i)).2)
    (fifo : Fifo nodes (fun i => (driverLoop (nodes i) start none (inputs i)).2) history)
    (delivered : ∀ i, ∃ final,
      Stream history 0 (deliveredIn (driverLoop (nodes i) start none (inputs i)).2) final) :
    (history.map WriteOp.ident).Nodup ∧ ∀ i,
      Bounded history (nodes i).id (driverLoop (nodes i) start none (inputs i)).1
        (driverLoop (nodes i) start none (inputs i)).1.deliveredLog.headIndex := by
  have kept (i : ι) := driverLoop_bookkeeping (nodes i) start (inputs i)
  have numbered (i : ι) := (kept i).numbered
  have distinct := fifo.distinct numbered
  refine ⟨distinct, fun i => ?_⟩
  obtain ⟨final, handed⟩ := delivered i
  have caughtUp := (driverLoop_onOrder distinct (nodes i) (inputs i) final handed).1
  have applied (origin : ProcId) (requestId : Nat) :=
    (caughtUp.isDup_iff origin requestId).trans (fifo.applied_iff numbered _ origin requestId)
  constructor
  · intro origin od found
    have seen (requestId : Nat) : od.isDup requestId = true ↔ requestId <
        countFrom history (driverLoop (nodes i) start none (inputs i)).1.deliveredLog.headIndex
          origin := by
      rw [WriteDedup.isDup_of_origin found]
      exact applied origin requestId
    have canonical := (kept i).canonical
    constructor
    · apply (canonical.origins origin od found).ext
      · intro id member
        exact absurd member ExtTreeSet.not_mem_empty
      · intro requestId
        rw [seen, OriginDedup.isDup_iff]
        simp
    · obtain ⟨requestId, dup⟩ := canonical.inhabited origin od found
      exact Nat.zero_lt_of_lt ((seen requestId).mp dup)
  · rw [← (kept i).cap]
    exact (driverLoop (nodes i) start none (inputs i)).1.deliveredLog.bounded
  · intro requestId
    have waiting := (coldStart_tracked (nodes i) start (inputs i) (admissible i)).waiting requestId
    have notYet : (driverLoop (nodes i) start none (inputs i)).1.dedup.isDup (nodes i).id
        requestId = false ↔ countFrom history
          (driverLoop (nodes i) start none (inputs i)).1.deliveredLog.headIndex (nodes i).id ≤
            requestId := by
      rw [← Bool.not_eq_true, applied, Nat.not_lt]
    rw [ExtTreeMap.mem_iff_isSome_getElem?, Option.isSome_iff_exists, waiting, notYet, and_comm]

end Bounded

end Memory

/-! ### Two nodes and one write that has come round -/

section Sample

open scoped LoopbackRing

theorem shared_memory_bounded :
    ([ownSet].map WriteOp.ident).Nodup ∧ ∀ i,
      Bounded [ownSet] (sharedNodes i).id
        (driverLoop (sharedNodes i) MemStore.new none (sharedInputs i)).1
        (driverLoop (sharedNodes i) MemStore.new none (sharedInputs i)).1.deliveredLog.headIndex := by
  have fifo : Fifo sharedNodes sharedTrace [ownSet] := by
    constructor
    · intro op member
      cases List.mem_singleton.mp member
      exact ⟨false, rfl⟩
    · intro i
      cases i with
      | false =>
          rw [sharedTrace_first]
          exact List.prefix_rfl
      | true => exact List.nil_prefix
  exact driver_memory_bounded sharedNodes sharedInputs MemStore.new [ownSet]
    sharedTrace_admissible fifo sharedTrace_delivered

end Sample

end TrainsValkey
