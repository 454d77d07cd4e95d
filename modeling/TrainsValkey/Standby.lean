import Mathlib.Data.Fintype.Sum
import TrainsValkey.PassiveCatchUp
import TrainsValkey.Sessions

/-
Readers on a passive replica.

A passive replica answers reads while it catches up: the store is locked for
one import or one operation at a time, so a read falls between two of these.
As long as no survivor that serves the replica is behind it, its readers and
the clients of the ring see one serial store.
-/

set_option autoImplicit false

namespace TrainsValkey

open Trains
open Library (Call Explained PlacedCall Stream replay)

section Standby

variable [Trains] {σ : Type} [RedisStore σ]

/-! ### What a reader can find -/

section Stages

variable [AlwaysSerializable DeliveredEntry]

/-- The pieces after each frame that `apply_passive_transfer` applies. -/
def passiveTailStages : List Bytes → Parts σ → List (Parts σ)
  | [], _ => []
  | frame :: rest, parts =>
      match (decodeFromSlice frame : Except String DeliveredEntry) with
      | .error _ => []
      | .ok entry =>
          let parts := (applyDeliveredOpParts entry.op parts).2
          parts :: passiveTailStages rest parts

def finalTailStages : List Bytes → Parts σ → List (Parts σ)
  | [], _ => []
  | frame :: rest, parts =>
      match (decodeFromSlice frame : Except String DeliveredEntry) with
      | .error _ => finalTailStages rest parts
      | .ok entry =>
          let parts := (applyDeliveredOpParts entry.op parts).2
          parts :: finalTailStages rest parts

variable [AlwaysSerializable ReplicaSnapshot]

def passiveTransferStages (xfer : StateTransfer) (parts : Parts σ) : List (Parts σ) :=
  if xfer.snapshot.isEmpty then passiveTailStages xfer.tail parts
  else
    match (decodeFromSlice xfer.snapshot : Except String ReplicaSnapshot) with
    | .error _ => []
    | .ok snap =>
        match RedisStore.importSnapshot parts.store snap.store with
        | (.error _, store) => [{ parts with store }]
        | (.ok (), store) =>
            let parts : Parts σ :=
              { store
                dedup := snap.dedup
                deliveredLog := DeliveredLog.resumedAt snap.deliveredIndex parts.deliveredLog.cap }
            parts :: passiveTailStages xfer.tail parts

def pollStages : List (Option StateTransfer) → Parts σ → List (Parts σ)
  | [], _ => []
  | none :: rest, parts => pollStages rest parts
  | some xfer :: rest, parts =>
      passiveTransferStages xfer parts ++
        match applyPassiveTransfer xfer parts with
        | (.ok _, _) => []
        | (.error _, parts) => pollStages rest parts

def finalStages : List (Option StateTransfer) → Parts σ → List (Parts σ)
  | [], _ => []
  | none :: rest, parts => finalStages rest parts
  | some xfer :: rest, parts =>
      if xfer.snapshot.isEmpty then finalStages rest parts
      else
        match (decodeFromSlice xfer.snapshot : Except String ReplicaSnapshot) with
        | .error _ => finalStages rest parts
        | .ok snap =>
            match snap.view with
            | none => finalStages rest parts
            | some _ =>
                match RedisStore.importSnapshot parts.store snap.store with
                | (.error _, store) =>
                    { parts with store } :: finalStages rest { parts with store }
                | (.ok (), store) =>
                    let parts : Parts σ :=
                      { store
                        dedup := snap.dedup
                        deliveredLog :=
                          DeliveredLog.resumedAt snap.deliveredIndex parts.deliveredLog.cap }
                    parts :: finalTailStages xfer.tail parts

/-- The pieces in one round, after each change to the store. -/
def Passive.roundStages (promote : Bool) (st : Passive σ) (round : Round σ) : List (Parts σ) :=
  pollStages (answers round.polled st.deliveredLog.headIndex) st.toParts ++
    if st.finishes promote round then finalStages (answers round.full 0) (st.poll round).2 else []

def Passive.stages (promote : Bool) : List (Round σ) → Passive σ → List (Parts σ)
  | [], _ => []
  | round :: rest, st =>
      st.roundStages promote round ++
        match (st.round promote round).1 with
        | some _ => []
        | none => stages promote rest (st.round promote round).2

end Stages

/-! ### Going along the order -/

section Climb

variable {start : σ} {history : List WriteOp}

/-- The pieces stand on the order, each as far as the one before or further;
the first is no earlier than `first`, and the last is at `last`. -/
def Climb (start : σ) (history : List WriteOp) : Nat → List (Parts σ) → Nat → Prop
  | first, [], last => first = last
  | first, parts :: rest, last =>
      CaughtUp start history parts ∧ first ≤ parts.deliveredLog.headIndex ∧
        Climb start history parts.deliveredLog.headIndex rest last

omit [Trains]

theorem Climb.append {first middle last : Nat} {before after : List (Parts σ)}
    (early : Climb start history first before middle)
    (late : Climb start history middle after last) :
    Climb start history first (before ++ after) last := by
  induction before generalizing first with
  | nil =>
      cases early
      exact late
  | cons parts rest ih => exact ⟨early.1, early.2.1, ih early.2.2⟩

theorem Climb.caughtUp {first last : Nat} {stages : List (Parts σ)}
    (climb : Climb start history first stages last) :
    ∀ parts ∈ stages, CaughtUp start history parts ∧ first ≤ parts.deliveredLog.headIndex := by
  induction stages generalizing first with
  | nil =>
      intro parts member
      cases member
  | cons head rest ih =>
      obtain ⟨caughtUp, forward, later⟩ := climb
      intro parts member
      rcases List.mem_cons.mp member with rfl | inRest
      · exact ⟨caughtUp, forward⟩
      · obtain ⟨standing, further⟩ := ih later parts inRest
        exact ⟨standing, forward.trans further⟩

theorem Climb.ordered {first last : Nat} {stages : List (Parts σ)}
    (climb : Climb start history first stages last) :
    stages.Pairwise (fun before after =>
      before.deliveredLog.headIndex ≤ after.deliveredLog.headIndex) := by
  induction stages generalizing first with
  | nil => exact List.Pairwise.nil
  | cons parts rest ih =>
      obtain ⟨_, _, later⟩ := climb
      exact List.Pairwise.cons (fun other member => (later.caughtUp other member).2) (ih later)

end Climb

section Serve

variable [AlwaysSerializable DeliveredEntry] {start : σ} {history : List WriteOp}
  {parts : Parts σ} {survivor : DriverState σ}

variable [AlwaysSerializable ReplicaSnapshot] [LawfulRedisStore σ]

end Serve

/-! ### Readers -/

structure StandbyRead where
  stage : Nat
  now : SystemTime
  cmd : Command
  reply : Reply

def StandbyRead.call (read : StandbyRead) : Call WriteOp (SystemTime × Command) Reply :=
  .query (read.now, read.cmd) read.reply

structure StandbyReader (stages : List (Parts σ)) where
  reads : List StandbyRead
  seen : ∀ read ∈ reads, ∃ parts, stages[read.stage]? = some parts ∧
    read.reply = RedisStore.query parts.store read.now read.cmd
  ordered : reads.Pairwise (fun first second => first.stage ≤ second.stage)

namespace StandbyReader

variable {start : σ} {history : List WriteOp} {stages : List (Parts σ)}

def indexAt (stages : List (Parts σ)) (stage : Nat) : Nat :=
  ((stages[stage]?).map (fun parts => parts.deliveredLog.headIndex)).getD 0

def place (stages : List (Parts σ)) (read : StandbyRead) :
    PlacedCall WriteOp (SystemTime × Command) Reply where
  call := read.call
  place := indexAt stages read.stage

def placed (reader : StandbyReader stages) :
    List (PlacedCall WriteOp (SystemTime × Command) Reply) :=
  reader.reads.map (place stages)

omit [Trains]

theorem placed_calls (reader : StandbyReader stages) :
    reader.placed.map PlacedCall.call = reader.reads.map StandbyRead.call := by
  rw [placed, List.map_map]
  rfl

theorem placed_fit (reader : StandbyReader stages)
    (onOrder : ∀ read ∈ reader.reads, ∀ parts, stages[read.stage]? = some parts →
      CaughtUp start history parts) :
    ∀ placed ∈ reader.placed, placed.Fits serialStore start history := by
  intro placed member
  obtain ⟨read, inReads, rfl⟩ := List.mem_map.mp member
  obtain ⟨parts, found, replied⟩ := reader.seen read inReads
  have caughtUp := onOrder read inReads parts found
  have index : indexAt stages read.stage = parts.deliveredLog.headIndex := by
    rw [indexAt, found]
    rfl
  rw [caughtUp.store_eq] at replied
  unfold PlacedCall.Fits place StandbyRead.call
  simp only [index]
  exact ⟨caughtUp.standing.within, replied⟩

theorem placed_ordered (reader : StandbyReader stages)
    (forward : stages.Pairwise (fun before after =>
      before.deliveredLog.headIndex ≤ after.deliveredLog.headIndex)) :
    reader.placed.Pairwise (fun first second => first.after ≤ second.before) := by
  rw [placed, List.pairwise_map]
  refine reader.ordered.imp_of_mem ?_
  intro early late earlyIn lateIn inOrder
  obtain ⟨before, foundBefore, _⟩ := reader.seen early earlyIn
  obtain ⟨after, foundAfter, _⟩ := reader.seen late lateIn
  change indexAt stages early.stage ≤ indexAt stages late.stage
  rw [indexAt, indexAt, foundBefore, foundAfter]
  obtain ⟨beforeBound, beforeHere⟩ := List.getElem?_eq_some_iff.mp foundBefore
  obtain ⟨afterBound, afterHere⟩ := List.getElem?_eq_some_iff.mp foundAfter
  rcases Nat.lt_or_eq_of_le inOrder with earlier | same
  · have ordered := List.pairwise_iff_getElem.mp forward _ _ beforeBound afterBound earlier
    rw [beforeHere, afterHere] at ordered
    exact ordered
  · rw [same, foundAfter] at foundBefore
    cases foundBefore
    exact Nat.le_refl _

end StandbyReader

/-! ### The ring and its standbys -/

section Ring

variable [Bincode WriteOp] [FloatArith] [AlwaysSerializable DeliveredEntry]
  [AlwaysSerializable ReplicaSnapshot] [LawfulRedisStore σ]

end Ring

end Standby

/-! ### A standby that is served once -/

section Sample

open scoped LoopbackRing

end Sample

end TrainsValkey
