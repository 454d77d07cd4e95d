import TrainsValkey.Library.Codec
import TrainsValkey.Replica

/-
A serializer in the layout the program configures: fields in order, lengths
and enumeration tags as variable-width integers, signed integers zigzag, an
option behind a tag byte.

The model takes the serializer as a parameter.  The instances of this module
are definitions that a closed statement selects by name, so that nothing else
depends on them.
-/

set_option autoImplicit false

namespace TrainsValkey

open Library (Codec)

namespace WireFormat

/-! ### Replies -/

mutual

def encodeReply : Reply → Bytes
  | .simple text => 0 :: Codec.string.encode text
  | .error text => 1 :: Codec.string.encode text
  | .integer value => 2 :: Codec.int.encode value
  | .bulk bytes => 3 :: (Codec.list Codec.byte).encode bytes
  | .nil => [4]
  | .nilArray => [5]
  | .array items => 6 :: (Codec.nat.encode items.length ++ encodeReplies items)

def encodeReplies : List Reply → Bytes
  | [] => []
  | item :: items => encodeReply item ++ encodeReplies items

end

/-- The fuel bounds the nesting of arrays. -/
def decodeReply : Nat → Bytes → Option (Reply × Bytes)
  | 0, _ => none
  | _, [] => none
  | depth + 1, tag :: rest =>
      if tag = 0 then (Codec.string.decode rest).map (Prod.map .simple id)
      else if tag = 1 then (Codec.string.decode rest).map (Prod.map .error id)
      else if tag = 2 then (Codec.int.decode rest).map (Prod.map .integer id)
      else if tag = 3 then ((Codec.list Codec.byte).decode rest).map (Prod.map .bulk id)
      else if tag = 4 then some (.nil, rest)
      else if tag = 5 then some (.nilArray, rest)
      else
        match Codec.nat.decode rest with
        | none => none
        | some (count, rest) =>
            (Codec.decodeMany (decodeReply depth) count rest).map (Prod.map .array id)

theorem encodeReplies_eq (items : List Reply) :
    encodeReplies items = items.flatMap encodeReply := by
  induction items with
  | nil => rfl
  | cons item items ih => rw [encodeReplies, ih, List.flatMap_cons]

theorem length_le_encodeReplies {items : List Reply} {item : Reply} (member : item ∈ items) :
    (encodeReply item).length ≤ (encodeReplies items).length := by
  obtain ⟨before, after, rfl⟩ := List.append_of_mem member
  simp only [encodeReplies_eq, List.flatMap_append, List.flatMap_cons, List.length_append]
  omega

theorem decodeReply_encodeReply (reply : Reply) (depth : Nat)
    (deep : (encodeReply reply).length ≤ depth) (rest : Bytes) :
    decodeReply depth (encodeReply reply ++ rest) = some (reply, rest) := by
  induction depth generalizing reply rest with
  | zero =>
      cases reply <;> simp [encodeReply] at deep
  | succ depth ih =>
      cases reply with
      | simple text =>
          exact congrArg (Option.map _) (Codec.string.decode_encode text rest)
      | error text =>
          exact congrArg (Option.map _) (Codec.string.decode_encode text rest)
      | integer value =>
          exact congrArg (Option.map _) (Codec.int.decode_encode value rest)
      | bulk bytes =>
          exact congrArg (Option.map _) ((Codec.list Codec.byte).decode_encode bytes rest)
      | nil => rfl
      | nilArray => rfl
      | array items =>
          have each : ∀ item ∈ items, ∀ rest,
              decodeReply depth (encodeReply item ++ rest) = some (item, rest) := by
            intro item member rest
            have short := length_le_encodeReplies member
            simp only [encodeReply, List.length_cons, List.length_append] at deep
            exact ih item (by omega) rest
          have counted := Codec.nat.decode_encode items.length (encodeReplies items ++ rest)
          have all := Codec.decodeMany_flatMap items each rest
          rw [← encodeReplies_eq] at all
          simp only [encodeReply, List.cons_append, List.append_assoc, decodeReply, counted, all]
          rfl

def reply : Codec Reply where
  encode := encodeReply
  decode bytes := decodeReply bytes.length bytes
  decode_encode value rest := by
    apply decodeReply_encodeReply
    simp only [List.length_append]
    omega

/-! ### Records -/

def bytes : Codec Bytes := Codec.list Codec.byte

def writeOp : Codec WriteOp :=
  (Codec.pair Codec.nat (Codec.pair Codec.nat
    (Codec.pair (Codec.list bytes) (Codec.option reply)))).through
    (fun op => (op.origin, op.requestId, op.argv, op.clientReply))
    (fun (origin, requestId, argv, clientReply) =>
      some { origin, requestId, argv, clientReply })
    (fun _ => rfl)

def value : Codec Value where
  encode
    | .str s => 0 :: bytes.encode s
    | .hash h => 1 :: (Codec.map bytes bytes).encode h
    | .set s => 2 :: (Codec.set bytes).encode s
  decode
    | [] => none
    | tag :: rest =>
        if tag = 0 then (bytes.decode rest).map (Prod.map .str id)
        else if tag = 1 then ((Codec.map bytes bytes).decode rest).map (Prod.map .hash id)
        else ((Codec.set bytes).decode rest).map (Prod.map .set id)
  decode_encode value rest := by
    cases value with
    | str s => exact congrArg (Option.map _) (bytes.decode_encode s rest)
    | hash h => exact congrArg (Option.map _) ((Codec.map bytes bytes).decode_encode h rest)
    | set s => exact congrArg (Option.map _) ((Codec.set bytes).decode_encode s rest)

def memStore : Codec MemStore :=
  (Codec.pair (Codec.map bytes value) (Codec.map bytes Codec.int)).through
    (fun store => (store.data, store.ttl))
    (fun (data, ttl) => some { data, ttl })
    (fun _ => rfl)

def deliveredEntry : Codec DeliveredEntry :=
  (Codec.pair Codec.nat writeOp).through
    (fun entry => (entry.index, entry.op))
    (fun (index, op) => some { index, op })
    (fun _ => rfl)

def originDedup : Codec OriginDedup :=
  (Codec.pair Codec.nat (Codec.set Codec.nat)).through
    (fun od => (od.watermark, od.recent))
    (fun (watermark, recent) => some { watermark, recent })
    (fun _ => rfl)

def writeDedup : Codec WriteDedup :=
  (Codec.map Codec.nat originDedup).through WriteDedup.origins
    (fun origins => some { origins })
    (fun _ => rfl)

section Snapshot

variable [Trains]

def viewInfo : Codec ViewInfo :=
  (Codec.pair Codec.nat (Codec.list Codec.nat)).through
    (fun view => (view.installedView, view.dead))
    (fun (installedView, dead) => some { installedView, dead })
    (fun _ => rfl)

def replicaSnapshot (protocol : Codec Trains.StateSnapshot) : Codec ReplicaSnapshot :=
  (Codec.pair Codec.nat (Codec.pair protocol (Codec.pair bytes (Codec.pair writeDedup
    (Codec.pair Codec.nat (Codec.option viewInfo)))))).through
    (fun snap =>
      (snap.version, snap.protocol, snap.store, snap.dedup, snap.deliveredIndex, snap.view))
    (fun (version, protocol, store, dedup, deliveredIndex, view) =>
      some { version, protocol, store, dedup, deliveredIndex, view })
    (fun _ => rfl)

end Snapshot

/-! ### Serializer instances -/

section Instances

variable {α : Type} (codec : Codec α)

def decodeFromSlice (bytes : Bytes) : Except String α :=
  match codec.decode bytes with
  | some (value, _) => .ok value
  | none => .error "UnexpectedEnd"

theorem decodeFromSlice_encode (value : α) :
    decodeFromSlice codec (codec.encode value) = .ok value := by
  have decoded := codec.decode_encode value []
  rw [List.append_nil] at decoded
  rw [decodeFromSlice, decoded]

abbrev bincode : Bincode α where
  encodeToVec value := .ok (codec.encode value)
  decodeFromSlice := decodeFromSlice codec
  decode_encode value bytes encoded := by
    cases encoded
    exact decodeFromSlice_encode codec value

abbrev alwaysSerializable (nonempty : ∀ value, codec.encode value ≠ []) :
    AlwaysSerializable α where
  toBincode := bincode codec
  serialize := codec.encode
  encodeToVec_eq _ := rfl
  serialize_ne_nil := nonempty

end Instances

abbrev bincodeWriteOp : Bincode WriteOp := bincode writeOp

abbrev serializableMemStore : AlwaysSerializable MemStore :=
  alwaysSerializable memStore (fun _ =>
    List.append_ne_nil_of_left_ne_nil
      (List.append_ne_nil_of_left_ne_nil (Codec.encode_nat_ne_nil _) _) _)

abbrev serializableDeliveredEntry : AlwaysSerializable DeliveredEntry :=
  alwaysSerializable deliveredEntry (fun entry =>
    List.append_ne_nil_of_left_ne_nil (Codec.encode_nat_ne_nil entry.index) _)

abbrev serializableReplicaSnapshot [Trains] (protocol : Codec Trains.StateSnapshot) :
    AlwaysSerializable ReplicaSnapshot :=
  alwaysSerializable (replicaSnapshot protocol) (fun snap =>
    List.append_ne_nil_of_left_ne_nil (Codec.encode_nat_ne_nil snap.version) _)

end WireFormat

end TrainsValkey
