import TrainsValkey.Text

/-
What the program uses of its serializer: `bincode::serde` with the standard
configuration, one instance for each type that crosses the wire.  The
serializer is a dependency, so its functions are parameters; that decoding
inverts encoding is a field.
-/

set_option autoImplicit false

namespace TrainsValkey

class Bincode (α : Type) where
  encodeToVec : α → Except String Bytes
  decodeFromSlice : Bytes → Except String α
  decode_encode : ∀ value bytes,
    encodeToVec value = .ok bytes → decodeFromSlice bytes = .ok value

/-- The types whose encoding the code unwraps as "always serializable".  They
are records that start with an integer or a length, so no encoding is empty. -/
class AlwaysSerializable (α : Type) extends Bincode α where
  serialize : α → Bytes
  encodeToVec_eq : ∀ value, encodeToVec value = .ok (serialize value)
  serialize_ne_nil : ∀ value, serialize value ≠ []

export Bincode (decodeFromSlice)
export AlwaysSerializable (serialize)

theorem decode_serialize {α : Type} [AlwaysSerializable α] (value : α) :
    decodeFromSlice (serialize value) = .ok value :=
  Bincode.decode_encode value (serialize value) (AlwaysSerializable.encodeToVec_eq value)

theorem isEmpty_serialize {α : Type} [AlwaysSerializable α] (value : α) :
    (serialize value).isEmpty = false :=
  List.isEmpty_eq_false_iff.mpr (AlwaysSerializable.serialize_ne_nil value)

end TrainsValkey
