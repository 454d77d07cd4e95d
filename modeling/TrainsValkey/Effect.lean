import TrainsValkey.Store

/-
Resolving a non-deterministic mutation to a deterministic effect at the node
that received it: `SPOP` to `SREM`, `INCRBYFLOAT` to `SET`, `HINCRBYFLOAT` to
`HSET`.  The effect is computed from the store at resolution and applied,
later, wherever the total order puts it.

Float parsing, addition and formatting are opaque.
-/

set_option autoImplicit false

namespace TrainsValkey

class FloatArith where
  F64 : Type
  parse : List Char → Option F64
  isFinite : F64 → Bool
  zero : F64
  add : F64 → F64 → F64
  format : F64 → String

inductive Resolution where
  | immediate (reply : Reply)
  | broadcast (argv : List Bytes) (clientReply : Reply)
deriving DecidableEq

/-- A read built from raw parts; never empty, so parsing it cannot fail. -/
def q (name : String) (operands : List Bytes) : Command :=
  { name := toAsciiUppercase (fromUtf8Lossy (asBytes name))
    argv := asBytes name :: operands }

section Resolve

variable {σ : Type} [RedisStore σ]

def bulkItems (items : List Reply) : List Bytes :=
  items.filterMap (fun item =>
    match item with
    | .bulk bytes => some bytes
    | _ => none)

def spopOne (key : Bytes) (members : List Bytes) : Resolution :=
  match members with
  | m :: _ => .broadcast [asBytes "SREM", key, m] (.bulk m)
  | [] => .immediate .nil

def spopCount (key : Bytes) (members : List Bytes) (countBytes : Bytes) : Resolution :=
  match (fromUtf8 countBytes).bind (fun text => parseI64 (trim text)) with
  | none => .immediate (.error "ERR value is not an integer or out of range")
  | some count =>
      let popped := members.take (max count 0).toNat
      if popped.isEmpty then .immediate (.array [])
      else .broadcast (asBytes "SREM" :: key :: popped) (.array (popped.map .bulk))

def resolveSpop (now : SystemTime) (cmd : Command) (store : σ) : Resolution :=
  match cmd.key with
  | none => .immediate (wrongargs "spop")
  | some key =>
      let pop (members : List Bytes) : Resolution :=
        match cmd.arg 2 with
        | none => spopOne key members
        | some countBytes => spopCount key members countBytes
      match RedisStore.query store now (q "SMEMBERS" [key]) with
      | .array items => pop (bulkItems items)
      | .error e => .immediate (.error e)
      | _ => pop []

variable [FloatArith]

def parseF64 (bytes : Bytes) : Option FloatArith.F64 :=
  ((fromUtf8 bytes).bind (fun text => FloatArith.parse (trim text))).filter FloatArith.isFinite

def formatFloat (value : FloatArith.F64) : Bytes := asBytes (FloatArith.format value)

def notAFloat : Reply := .error "ERR value is not a valid float"

/-- The common tail of the two float resolvers: read the current value, add,
and broadcast the sum through `effect`. -/
def resolveFloat (current : Reply) (incr : FloatArith.F64) (badCurrent : Reply)
    (effect : Bytes → List Bytes) : Resolution :=
  let add (cur : FloatArith.F64) : Resolution :=
    let next := FloatArith.add cur incr
    if FloatArith.isFinite next then
      .broadcast (effect (formatFloat next)) (.bulk (formatFloat next))
    else .immediate (.error "ERR increment would produce NaN or Infinity")
  match current with
  | .bulk b =>
      match parseF64 b with
      | some v => add v
      | none => .immediate badCurrent
  | .error e => .immediate (.error e)
  | _ => add FloatArith.zero

def resolveIncrbyfloat (now : SystemTime) (cmd : Command) (store : σ) : Resolution :=
  match cmd.arg 1, cmd.arg 2 with
  | some key, some incrBytes =>
      match parseF64 incrBytes with
      | none => .immediate notAFloat
      | some incr =>
          resolveFloat (RedisStore.query store now (q "GET" [key])) incr notAFloat
            (fun formatted => [asBytes "SET", key, formatted])
  | _, _ => .immediate (wrongargs "incrbyfloat")

def resolveHincrbyfloat (now : SystemTime) (cmd : Command) (store : σ) : Resolution :=
  match cmd.arg 1, cmd.arg 2, cmd.arg 3 with
  | some key, some field, some incrBytes =>
      match parseF64 incrBytes with
      | none => .immediate notAFloat
      | some incr =>
          resolveFloat (RedisStore.query store now (q "HGET" [key, field])) incr
            (.error "ERR hash value is not a float")
            (fun formatted => [asBytes "HSET", key, field, formatted])
  | _, _, _ => .immediate (wrongargs "hincrbyfloat")

def resolve (now : SystemTime) (cmd : Command) (store : σ) : Resolution :=
  match cmd.name with
  | "SPOP" => resolveSpop now cmd store
  | "INCRBYFLOAT" => resolveIncrbyfloat now cmd store
  | "HINCRBYFLOAT" => resolveHincrbyfloat now cmd store
  | other =>
      .immediate (.error s!"ERR '{other}' is not a resolvable non-deterministic command")

end Resolve

end TrainsValkey
