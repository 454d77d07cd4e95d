import TrainsValkey.Replica

/-
The off-ring half of a rejoin: a passive replica pulls state transfers from
survivors, round after round, and at the end takes the full transfer that seeds
the driver it promotes itself to.

A survivor is tried in the order of the configured addresses.  What a fetch
from an address returns is an input of the model: `none` is a failed fetch.
-/

set_option autoImplicit false

namespace TrainsValkey

open Trains

variable [Trains] {σ : Type} [RedisStore σ]

/-! ### Applying a fetched transfer -/

section Apply

variable [AlwaysSerializable DeliveredEntry]

def applyPassiveTail : List Bytes → Parts σ → Nat → Except SnapshotError Nat × Parts σ
  | [], parts, applied => (.ok applied, parts)
  | frame :: rest, parts, applied =>
      match (decodeFromSlice frame : Except String DeliveredEntry) with
      | .error e => (.error { decode := e }, parts)
      | .ok entry =>
          let (done, parts) := applyDeliveredOpParts entry.op parts
          applyPassiveTail rest parts (if done.isSome then applied + 1 else applied)

variable [AlwaysSerializable ReplicaSnapshot]

def applyPassiveTransfer (xfer : StateTransfer) (parts : Parts σ) :
    Except SnapshotError Nat × Parts σ :=
  if xfer.snapshot.isEmpty then applyPassiveTail xfer.tail parts 0
  else
    match (decodeFromSlice xfer.snapshot : Except String ReplicaSnapshot) with
    | .error e => (.error { decode := e }, parts)
    | .ok snap =>
        match RedisStore.importSnapshot parts.store snap.store with
        | (.error e, store) => (.error e, { parts with store })
        | (.ok (), store) =>
            applyPassiveTail xfer.tail
              { store
                dedup := snap.dedup
                deliveredLog := DeliveredLog.resumedAt snap.deliveredIndex parts.deliveredLog.cap }
              0

end Apply

/-! ### The promotion seed -/

structure PromoteSeed where
  dedup : WriteDedup
  deliveredLog : DeliveredLog
  protocol : StateSnapshot
  view : ViewInfo

section Promotion

variable [AlwaysSerializable DeliveredEntry]

/-- The tail loop of `final_snapshot_for_promotion`, which skips a frame that
does not decode. -/
def applyFinalTail : List Bytes → Parts σ → Parts σ
  | [], parts => parts
  | frame :: rest, parts =>
      match (decodeFromSlice frame : Except String DeliveredEntry) with
      | .error _ => applyFinalTail rest parts
      | .ok entry => applyFinalTail rest (applyDeliveredOpParts entry.op parts).2

variable [AlwaysSerializable ReplicaSnapshot]

def finalSnapshotForPromotion :
    List (Option StateTransfer) → Parts σ → Option PromoteSeed × Parts σ
  | [], parts => (none, parts)
  | none :: rest, parts => finalSnapshotForPromotion rest parts
  | some xfer :: rest, parts =>
      if xfer.snapshot.isEmpty then finalSnapshotForPromotion rest parts
      else
        match (decodeFromSlice xfer.snapshot : Except String ReplicaSnapshot) with
        | .error _ => finalSnapshotForPromotion rest parts
        | .ok snap =>
            match snap.view with
            | none => finalSnapshotForPromotion rest parts
            | some view =>
                match RedisStore.importSnapshot parts.store snap.store with
                | (.error _, store) => finalSnapshotForPromotion rest { parts with store }
                | (.ok (), store) =>
                    let parts := applyFinalTail xfer.tail
                      { store
                        dedup := snap.dedup
                        deliveredLog :=
                          DeliveredLog.resumedAt snap.deliveredIndex parts.deliveredLog.cap }
                    (some
                      { dedup := parts.dedup
                        deliveredLog := parts.deliveredLog
                        protocol := snap.protocol
                        view },
                      parts)

end Promotion

/-! ### The polling loop -/

section Polling

variable [AlwaysSerializable DeliveredEntry] [AlwaysSerializable ReplicaSnapshot]

def promoteIdleRounds : Nat := 2

structure Passive (σ : Type) extends Parts σ where
  idle : Nat

def Passive.new (store : σ) : Passive σ :=
  { store, dedup := WriteDedup.new, deliveredLog := DeliveredLog.default, idle := 0 }

/-- Whether a round was served, and whether it brought anything. -/
structure Polled where
  served : Bool
  progress : Bool

def pollSurvivors : List (Option StateTransfer) → Parts σ → Polled × Parts σ
  | [], parts => ({ served := false, progress := false }, parts)
  | none :: rest, parts => pollSurvivors rest parts
  | some xfer :: rest, parts =>
      match applyPassiveTransfer xfer parts with
      | (.ok n, parts) =>
          ({ served := true, progress := 0 < n || !xfer.snapshot.isEmpty }, parts)
      | (.error _, parts) => pollSurvivors rest parts

/-- One tick: `polled` is what the survivors answer to the replica's own index,
`full` what they answer to the final fetch from 0. -/
def Passive.tick (promote : Bool) (polled full : List (Option StateTransfer))
    (st : Passive σ) : Option PromoteSeed × Passive σ :=
  let (round, parts) := pollSurvivors polled st.toParts
  if promote && round.served && !round.progress && 0 < parts.deliveredLog.headIndex then
    if promoteIdleRounds ≤ st.idle + 1 then
      let (seed, parts) := finalSnapshotForPromotion full parts
      match seed with
      | some seed => (some seed, { toParts := parts, idle := st.idle + 1 })
      | none => (none, { toParts := parts, idle := 0 })
    else (none, { toParts := parts, idle := st.idle + 1 })
  else (none, { toParts := parts, idle := if round.progress then 0 else st.idle })

end Polling

end TrainsValkey
