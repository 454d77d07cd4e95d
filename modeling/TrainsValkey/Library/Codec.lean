import Mathlib.Algebra.Group.Nat.Defs
import Mathlib.Data.List.Basic

/-
Prefix codecs over byte strings.

A codec's decoder reads back what its encoder wrote and hands on the bytes
that follow, so codecs compose by concatenation.  Naturals have a variable
width: one byte up to 250, and above it a marker byte and two, four or eight
little-endian bytes.  A natural that needs more than eight bytes is written in
unary behind a marker of its own, so that the codec is total.
-/

set_option autoImplicit false

namespace TrainsValkey.Library

universe u v

structure Codec (α : Type u) where
  encode : α → List UInt8
  decode : List UInt8 → Option (α × List UInt8)
  decode_encode : ∀ value rest, decode (encode value ++ rest) = some (value, rest)

namespace Codec

variable {α : Type u} {β : Type v}

def byte : Codec UInt8 where
  encode value := [value]
  decode
    | [] => none
    | first :: rest => some (first, rest)
  decode_encode _ _ := rfl

def through (codec : Codec α) (into : β → α) (back : α → Option β)
    (inverse : ∀ value, back (into value) = some value) : Codec β where
  encode value := codec.encode (into value)
  decode bytes :=
    match codec.decode bytes with
    | none => none
    | some (value, rest) => (back value).map (fun value => (value, rest))
  decode_encode value rest := by
    simp only [codec.decode_encode, inverse, Option.map_some]

def pair (left : Codec α) (right : Codec β) : Codec (α × β) where
  encode value := left.encode value.1 ++ right.encode value.2
  decode bytes :=
    match left.decode bytes with
    | none => none
    | some (first, rest) =>
        match right.decode rest with
        | none => none
        | some (second, rest) => some ((first, second), rest)
  decode_encode value rest := by
    simp only [List.append_assoc, left.decode_encode, right.decode_encode]

/-! ### Naturals and integers -/

def littleEndian : Nat → Nat → List UInt8
  | 0, _ => []
  | width + 1, value => UInt8.ofNat (value % 256) :: littleEndian width (value / 256)

def fromLittleEndian : Nat → List UInt8 → Option (Nat × List UInt8)
  | 0, bytes => some (0, bytes)
  | _ + 1, [] => none
  | width + 1, first :: rest =>
      match fromLittleEndian width rest with
      | none => none
      | some (high, rest) => some (first.toNat + 256 * high, rest)

theorem fromLittleEndian_littleEndian (width value : Nat) (fits : value < 256 ^ width)
    (rest : List UInt8) :
    fromLittleEndian width (littleEndian width value ++ rest) = some (value, rest) := by
  induction width generalizing value with
  | zero =>
      have zero : value = 0 := by simpa using fits
      rw [zero]
      rfl
  | succ width ih =>
      have high : value / 256 < 256 ^ width := by
        rw [Nat.pow_succ] at fits
        exact Nat.div_lt_of_lt_mul (by omega)
      have low : (UInt8.ofNat (value % 256)).toNat = value % 256 := by
        rw [UInt8.toNat_ofNat']
        omega
      have whole : value % 256 + 256 * (value / 256) = value := Nat.mod_add_div value 256
      simp only [littleEndian, List.cons_append, fromLittleEndian, ih _ high, low, whole]

def unary : Nat → List UInt8
  | 0 => [0]
  | value + 1 => 1 :: unary value

def fromUnary : List UInt8 → Option (Nat × List UInt8)
  | [] => none
  | first :: rest =>
      if first = 0 then some (0, rest)
      else
        match fromUnary rest with
        | none => none
        | some (value, rest) => some (value + 1, rest)

theorem fromUnary_unary (value : Nat) (rest : List UInt8) :
    fromUnary (unary value ++ rest) = some (value, rest) := by
  induction value with
  | zero => rfl
  | succ value ih =>
      rw [unary, List.cons_append, fromUnary, ih]
      rfl

def encodeNat (value : Nat) : List UInt8 :=
  if value < 251 then [UInt8.ofNat value]
  else if value < 256 ^ 2 then 251 :: littleEndian 2 value
  else if value < 256 ^ 4 then 252 :: littleEndian 4 value
  else if value < 256 ^ 8 then 253 :: littleEndian 8 value
  else 255 :: unary value

def decodeNat : List UInt8 → Option (Nat × List UInt8)
  | [] => none
  | marker :: rest =>
      if marker = 251 then fromLittleEndian 2 rest
      else if marker = 252 then fromLittleEndian 4 rest
      else if marker = 253 then fromLittleEndian 8 rest
      else if marker = 254 then none
      else if marker = 255 then fromUnary rest
      else some (marker.toNat, rest)

theorem decodeNat_encodeNat (value : Nat) (rest : List UInt8) :
    decodeNat (encodeNat value ++ rest) = some (value, rest) := by
  unfold encodeNat
  split
  · rename_i small
    have same : (UInt8.ofNat value).toNat = value := by
      rw [UInt8.toNat_ofNat']
      omega
    have unmarked (marker : UInt8) (large : 251 ≤ marker.toNat) :
        UInt8.ofNat value ≠ marker := by
      intro equal
      rw [← equal, same] at large
      omega
    rw [List.singleton_append, decodeNat, if_neg (unmarked 251 (by decide)),
      if_neg (unmarked 252 (by decide)), if_neg (unmarked 253 (by decide)),
      if_neg (unmarked 254 (by decide)), if_neg (unmarked 255 (by decide)), same]
  · split
    · rename_i fits
      exact fromLittleEndian_littleEndian 2 value fits rest
    · split
      · rename_i fits
        exact fromLittleEndian_littleEndian 4 value fits rest
      · split
        · rename_i fits
          exact fromLittleEndian_littleEndian 8 value fits rest
        · exact fromUnary_unary value rest

def nat : Codec Nat where
  encode := encodeNat
  decode := decodeNat
  decode_encode := decodeNat_encodeNat

theorem encode_nat_ne_nil (value : Nat) : nat.encode value ≠ [] := by
  change encodeNat value ≠ []
  unfold encodeNat
  repeat' split
  all_goals exact List.cons_ne_nil _ _

def zigzag : Int → Nat
  | .ofNat value => 2 * value
  | .negSucc value => 2 * value + 1

def unzigzag (value : Nat) : Int :=
  if value % 2 = 0 then .ofNat (value / 2) else .negSucc (value / 2)

theorem unzigzag_zigzag (value : Int) : unzigzag (zigzag value) = value := by
  cases value with
  | ofNat value =>
      have half : 2 * value / 2 = value := by omega
      rw [zigzag, unzigzag, if_pos (by omega), half]
  | negSucc value =>
      have half : (2 * value + 1) / 2 = value := by omega
      rw [zigzag, unzigzag, if_neg (by omega), half]

def int : Codec Int :=
  nat.through zigzag (fun value => some (unzigzag value))
    (fun value => congrArg some (unzigzag_zigzag value))

/-! ### Options and sequences -/

def option (codec : Codec α) : Codec (Option α) where
  encode
    | none => [0]
    | some value => 1 :: codec.encode value
  decode
    | [] => none
    | tag :: rest =>
        if tag = 0 then some (none, rest)
        else
          match codec.decode rest with
          | none => none
          | some (value, rest) => some (some value, rest)
  decode_encode value rest := by
    cases value with
    | none => rfl
    | some value =>
        have decoded := codec.decode_encode value rest
        simp only [List.cons_append, decoded]
        rfl

def decodeMany (decodeOne : List UInt8 → Option (α × List UInt8)) :
    Nat → List UInt8 → Option (List α × List UInt8)
  | 0, bytes => some ([], bytes)
  | count + 1, bytes =>
      match decodeOne bytes with
      | none => none
      | some (item, rest) =>
          match decodeMany decodeOne count rest with
          | none => none
          | some (items, rest) => some (item :: items, rest)

theorem decodeMany_flatMap {encodeOne : α → List UInt8}
    {decodeOne : List UInt8 → Option (α × List UInt8)} (items : List α)
    (inverse : ∀ item ∈ items, ∀ rest,
      decodeOne (encodeOne item ++ rest) = some (item, rest))
    (rest : List UInt8) :
    decodeMany decodeOne items.length (items.flatMap encodeOne ++ rest) =
      some (items, rest) := by
  induction items with
  | nil => rfl
  | cons item items ih =>
      have tail := ih (fun other member => inverse other (List.mem_cons_of_mem item member))
      rw [List.length_cons, List.flatMap_cons, List.append_assoc, decodeMany,
        inverse item List.mem_cons_self]
      simp only [tail]

def list (codec : Codec α) : Codec (List α) where
  encode items := nat.encode items.length ++ items.flatMap codec.encode
  decode bytes :=
    match nat.decode bytes with
    | none => none
    | some (count, rest) => decodeMany codec.decode count rest
  decode_encode items rest := by
    rw [List.append_assoc]
    simp only [nat.decode_encode]
    exact decodeMany_flatMap items (fun item _ => codec.decode_encode item) rest

/-! ### Text and ordered collections -/

def utf8Bytes (text : String) : List UInt8 := text.toUTF8.data.toList

def utf8Text (bytes : List UInt8) : Option String := String.fromUTF8? ⟨bytes.toArray⟩

theorem utf8Text_utf8Bytes (text : String) : utf8Text (utf8Bytes text) = some text := by
  unfold utf8Text utf8Bytes String.fromUTF8?
  rw [Array.toArray_toList]
  exact dif_pos text.isValidUTF8

def string : Codec String := (list byte).through utf8Bytes utf8Text utf8Text_utf8Bytes

section Ordered

open Std (ExtTreeMap ExtTreeSet)

variable {Key : Type u} {Item : Type v} [Ord Key] [Std.TransOrd Key] [Std.LawfulEqOrd Key]
  [BEq Key] [Std.LawfulBEqOrd Key]

theorem ofList_toList_map (entries : ExtTreeMap Key Item) :
    ExtTreeMap.ofList entries.toList = entries := by
  apply ExtTreeMap.ext_getElem?
  intro key
  cases found : entries[key]? with
  | some item =>
      exact ExtTreeMap.getElem?_ofList_of_mem Std.ReflCmp.compare_self
        ExtTreeMap.distinct_keys_toList
        (ExtTreeMap.mem_toList_iff_getElem?_eq_some.mpr found)
  | none =>
      apply ExtTreeMap.getElem?_ofList_of_contains_eq_false
      rw [ExtTreeMap.map_fst_toList_eq_keys, ExtTreeMap.contains_keys,
        ExtTreeMap.contains_eq_isSome_getElem?, found]
      rfl

theorem ofList_toList_set (members : ExtTreeSet Key) :
    ExtTreeSet.ofList members.toList = members := by
  apply ExtTreeSet.ext_mem
  intro key
  rw [ExtTreeSet.mem_ofList, ExtTreeSet.contains_toList, ExtTreeSet.contains_iff_mem]

def map (key : Codec Key) (item : Codec Item) : Codec (ExtTreeMap Key Item) :=
  (list (pair key item)).through ExtTreeMap.toList
    (fun entries => some (ExtTreeMap.ofList entries))
    (fun entries => congrArg some (ofList_toList_map entries))

def set (key : Codec Key) : Codec (ExtTreeSet Key) :=
  (list key).through ExtTreeSet.toList (fun members => some (ExtTreeSet.ofList members))
    (fun members => congrArg some (ofList_toList_set members))

end Ordered

end Codec

end TrainsValkey.Library
