import TrainsValkey.Command
import TrainsValkey.Wire

/-
The local store: the `apply`/`query` contract and `MemStore`, the in-process
deterministic model of the command subset.

Every arm of `MemStore.apply` is a function of its own, from the store and the
command to the reply and the next store.  A `let ... else { return ... }` of
the source is the last branch of the arm's match.
-/

set_option autoImplicit false

namespace TrainsValkey

open Std (ExtTreeMap ExtTreeSet)

/-- The wall clock a read sees; only `TIME` looks at it. -/
structure SystemTime where
  secs : Nat
  subsecMicros : Nat
deriving DecidableEq

structure SnapshotError where
  decode : String
deriving DecidableEq

class RedisStore (σ : Type) where
  apply : σ → Command → Reply × σ
  query : σ → SystemTime → Command → Reply
  exportSnapshot : σ → Bytes
  importSnapshot : σ → Bytes → Except SnapshotError Unit × σ

/-- Importing what another store of the same kind exported makes the two
stores equal. -/
class LawfulRedisStore (σ : Type) [RedisStore σ] : Prop where
  import_export : ∀ target source : σ,
    RedisStore.importSnapshot target (RedisStore.exportSnapshot source) = (.ok (), source)

inductive Value where
  | str (bytes : Bytes)
  | hash (fields : ExtTreeMap Bytes Bytes)
  | set (members : ExtTreeSet Bytes)
deriving DecidableEq

structure MemStore where
  data : ExtTreeMap Bytes Value
  /-- Recorded by `EXPIRE`, never fired. -/
  ttl : ExtTreeMap Bytes Int
deriving DecidableEq

namespace MemStore

def new : MemStore := { data := ∅, ttl := ∅ }

def asInt (bytes : Bytes) : Option Int := (fromUtf8 bytes).bind (fun text => parseI64 (trim text))

def notAnInteger : Reply := .error "ERR value is not an integer or out of range"

def wouldOverflow : Reply := .error "ERR increment or decrement would overflow"

/-! ### Writes -/

def applySet (store : MemStore) (cmd : Command) : Reply × MemStore :=
  match cmd.arg 1, cmd.arg 2 with
  | some k, some v =>
      (.ok, { store with data := store.data.insert k (.str v), ttl := store.ttl.erase k })
  | _, _ => (wrongargs "set", store)

def applySetnx (store : MemStore) (cmd : Command) : Reply × MemStore :=
  match cmd.arg 1, cmd.arg 2 with
  | some k, some v =>
      if store.data.contains k then (.integer 0, store)
      else (.integer 1, { store with data := store.data.insert k (.str v) })
  | _, _ => (wrongargs "setnx", store)

def applyGetset (store : MemStore) (cmd : Command) : Reply × MemStore :=
  match cmd.arg 1, cmd.arg 2 with
  | some k, some v =>
      -- the insertion comes before the look at the previous value
      let inserted := { store with data := store.data.insert k (.str v) }
      match store.data[k]? with
      | some (.str previous) =>
          (.bulk previous, { inserted with ttl := store.ttl.erase k })
      | some _ => (wrongtype, inserted)
      | none => (.nil, { inserted with ttl := store.ttl.erase k })
  | _, _ => (wrongargs "getset", store)

def applyAppend (store : MemStore) (cmd : Command) : Reply × MemStore :=
  match cmd.arg 1, cmd.arg 2 with
  | some k, some v =>
      match store.data[k]?.getD (.str []) with
      | .str s =>
          (.integer (s ++ v).length, { store with data := store.data.insert k (.str (s ++ v)) })
      | _ => (wrongtype, store)
  | _, _ => (wrongargs "append", store)

/-- The loop of `DEL` and `UNLINK` over the operands. -/
def removeKeys : List Bytes → Int → MemStore → Int × MemStore
  | [], removed, store => (removed, store)
  | k :: rest, removed, store =>
      removeKeys rest (if store.data.contains k then removed + 1 else removed)
        { data := store.data.erase k, ttl := store.ttl.erase k }

def applyDel (store : MemStore) (cmd : Command) : Reply × MemStore :=
  let (removed, next) := removeKeys (cmd.argv.drop 1) 0 store
  (.integer removed, next)

def incrDelta (cmd : Command) : Except Reply Int :=
  match cmd.name with
  | "INCR" => .ok 1
  | "DECR" => .ok (-1)
  | "INCRBY" =>
      match (cmd.arg 2).bind asInt with
      | some n => .ok n
      | none => .error notAnInteger
  | _ =>
      match (cmd.arg 2).bind asInt with
      | some n => .ok (wrappingNeg n)
      | none => .error notAnInteger

def applyIncr (store : MemStore) (cmd : Command) : Reply × MemStore :=
  match cmd.key with
  | none => (wrongargs "incr", store)
  | some k =>
      match incrDelta cmd with
      | .error reply => (reply, store)
      | .ok delta =>
          let add (cur : Int) : Reply × MemStore :=
            match checkedAdd cur delta with
            | some next =>
                (.integer next, { store with data := store.data.insert k (.str (i64Bytes next)) })
            | none => (wouldOverflow, store)
          match store.data[k]? with
          | some (.str s) =>
              match asInt s with
              | some cur => add cur
              | none => (notAnInteger, store)
          | some _ => (wrongtype, store)
          | none => add 0

def applyExpire (store : MemStore) (cmd : Command) : Reply × MemStore :=
  match cmd.key with
  | none => (wrongargs "expire", store)
  | some k =>
      if store.data.contains k then
        let secs := ((cmd.arg 2).bind asInt).getD 0
        (.integer 1, { store with ttl := store.ttl.insert k secs })
      else (.integer 0, store)

def applyPersist (store : MemStore) (cmd : Command) : Reply × MemStore :=
  match cmd.key with
  | none => (wrongargs "persist", store)
  | some k =>
      if store.ttl.contains k then (.integer 1, { store with ttl := store.ttl.erase k })
      else (.integer 0, store)

def applyRename (store : MemStore) (cmd : Command) : Reply × MemStore :=
  match cmd.arg 1, cmd.arg 2 with
  | some src, some dst =>
      match store.data[src]? with
      | some v =>
          let ttl := store.ttl.erase src
          (.ok,
            { data := (store.data.erase src).insert dst v
              ttl := match store.ttl[src]? with
                | some t => ttl.insert dst t
                | none => ttl.erase dst })
      | none => (.error "ERR no such key", store)
  | _, _ => (wrongargs "rename", store)

/-- The loop of `apply_hset` over the field/value pairs. -/
def insertPairs : List Bytes → Int → ExtTreeMap Bytes Bytes → Int × ExtTreeMap Bytes Bytes
  | f :: v :: rest, added, h =>
      insertPairs rest (if h.contains f then added else added + 1) (h.insert f v)
  | _, added, h => (added, h)

def applyHset (store : MemStore) (cmd : Command) : Reply × MemStore :=
  match cmd.key with
  | none => (wrongargs "hset", store)
  | some k =>
      if cmd.argv.length < 4 ∨ (cmd.argv.length - 2) % 2 ≠ 0 then (wrongargs "hset", store)
      else
        match store.data[k]?.getD (.hash ∅) with
        | .hash h =>
            let (added, h) := insertPairs (cmd.argv.drop 2) 0 h
            (if cmd.name = "HMSET" then .ok else .integer added,
              { store with data := store.data.insert k (.hash h) })
        | _ => (wrongtype, store)

def applyHsetnx (store : MemStore) (cmd : Command) : Reply × MemStore :=
  match cmd.arg 1, cmd.arg 2, cmd.arg 3 with
  | some k, some f, some v =>
      match store.data[k]?.getD (.hash ∅) with
      | .hash h =>
          if h.contains f then
            (.integer 0, { store with data := store.data.insert k (.hash h) })
          else
            (.integer 1, { store with data := store.data.insert k (.hash (h.insert f v)) })
      | _ => (wrongtype, store)
  | _, _, _ => (wrongargs "hsetnx", store)

def removeFields : List Bytes → Int → ExtTreeMap Bytes Bytes → Int × ExtTreeMap Bytes Bytes
  | [], removed, h => (removed, h)
  | f :: rest, removed, h =>
      removeFields rest (if h.contains f then removed + 1 else removed) (h.erase f)

def applyHdel (store : MemStore) (cmd : Command) : Reply × MemStore :=
  match cmd.key with
  | none => (wrongargs "hdel", store)
  | some k =>
      match store.data[k]? with
      | some (.hash h) =>
          let (removed, h) := removeFields (cmd.argv.drop 2) 0 h
          (.integer removed,
            { store with
              data := if h.isEmpty then store.data.erase k else store.data.insert k (.hash h) })
      | some _ => (wrongtype, store)
      | none => (.integer 0, store)

def applyHincrby (store : MemStore) (cmd : Command) : Reply × MemStore :=
  match cmd.arg 1, cmd.arg 2, cmd.arg 3 with
  | some k, some f, some by_ =>
      match asInt by_ with
      | none => (notAnInteger, store)
      | some delta =>
          match store.data[k]?.getD (.hash ∅) with
          | .hash h =>
              -- `or_insert_with` has put the hash under the key on every exit below
              let put (h : ExtTreeMap Bytes Bytes) : MemStore :=
                { store with data := store.data.insert k (.hash h) }
              let add (cur : Int) : Reply × MemStore :=
                match checkedAdd cur delta with
                | some next => (.integer next, put (h.insert f (i64Bytes next)))
                | none => (wouldOverflow, put h)
              match h[f]? with
              | some v =>
                  match asInt v with
                  | some cur => add cur
                  | none => (.error "ERR hash value is not an integer", put h)
              | none => add 0
          | _ => (wrongtype, store)
  | _, _, _ => (wrongargs "hincrby", store)

def insertMembers : List Bytes → Int → ExtTreeSet Bytes → Int × ExtTreeSet Bytes
  | [], added, s => (added, s)
  | m :: rest, added, s =>
      insertMembers rest (if s.contains m then added else added + 1) (s.insert m)

def applySadd (store : MemStore) (cmd : Command) : Reply × MemStore :=
  match cmd.key with
  | none => (wrongargs "sadd", store)
  | some k =>
      match store.data[k]?.getD (.set ∅) with
      | .set s =>
          let (added, s) := insertMembers (cmd.argv.drop 2) 0 s
          (.integer added, { store with data := store.data.insert k (.set s) })
      | _ => (wrongtype, store)

def removeMembers : List Bytes → Int → ExtTreeSet Bytes → Int × ExtTreeSet Bytes
  | [], removed, s => (removed, s)
  | m :: rest, removed, s =>
      removeMembers rest (if s.contains m then removed + 1 else removed) (s.erase m)

def applySrem (store : MemStore) (cmd : Command) : Reply × MemStore :=
  match cmd.key with
  | none => (wrongargs "srem", store)
  | some k =>
      match store.data[k]? with
      | some (.set s) =>
          let (removed, s) := removeMembers (cmd.argv.drop 2) 0 s
          (.integer removed,
            { store with
              data := if s.isEmpty then store.data.erase k else store.data.insert k (.set s) })
      | some _ => (wrongtype, store)
      | none => (.integer 0, store)

def apply (store : MemStore) (cmd : Command) : Reply × MemStore :=
  match cmd.name with
  | "SET" => store.applySet cmd
  | "SETNX" => store.applySetnx cmd
  | "GETSET" => store.applyGetset cmd
  | "APPEND" => store.applyAppend cmd
  | "DEL" | "UNLINK" => store.applyDel cmd
  | "INCR" | "DECR" | "INCRBY" | "DECRBY" => store.applyIncr cmd
  | "EXPIRE" | "PEXPIRE" | "EXPIREAT" | "PEXPIREAT" => store.applyExpire cmd
  | "PERSIST" => store.applyPersist cmd
  | "RENAME" => store.applyRename cmd
  | "HSET" | "HMSET" => store.applyHset cmd
  | "HSETNX" => store.applyHsetnx cmd
  | "HDEL" => store.applyHdel cmd
  | "HINCRBY" => store.applyHincrby cmd
  | "SADD" => store.applySadd cmd
  | "SREM" => store.applySrem cmd
  | "FLUSHDB" | "FLUSHALL" => (.ok, new)
  | other =>
      (.error
        s!"ERR '{other}' is a write but not implemented by MemStore (RD-1); use the redis backend",
        store)

/-! ### Reads -/

/-- `self.data.get(cmd.key().unwrap_or(b""))`, the first step of most reads. -/
def atKey (store : MemStore) (cmd : Command) : Option Value :=
  store.data[cmd.key.getD []]?

def bulks (items : List Bytes) : Reply := .array (items.map .bulk)

def pairs (h : ExtTreeMap Bytes Bytes) : Reply :=
  .array (h.toList.flatMap (fun entry => [.bulk entry.1, .bulk entry.2]))

def cursorZero (items : Reply) : Reply := .array [.bulk (asBytes "0"), items]

def queryHmget (store : MemStore) (cmd : Command) : Reply :=
  match cmd.key with
  | none => wrongargs "hmget"
  | some k =>
      let fields (h : Option (ExtTreeMap Bytes Bytes)) : Reply :=
        .array ((cmd.argv.drop 2).map (fun (f : Bytes) =>
          match h.bind (fun h => h[f]?) with
          | some v => .bulk v
          | none => .nil))
      match store.data[k]? with
      | some (.hash h) => fields (some h)
      | some _ => wrongtype
      | none => fields none

def query (store : MemStore) (now : SystemTime) (cmd : Command) : Reply :=
  match cmd.name with
  | "PING" =>
      match cmd.arg 1 with
      | some msg => .bulk msg
      | none => .simple "PONG"
  | "ECHO" =>
      match cmd.arg 1 with
      | some msg => .bulk msg
      | none => wrongargs "echo"
  | "GET" =>
      match store.atKey cmd with
      | some (.str s) => .bulk s
      | some _ => wrongtype
      | none => .nil
  | "STRLEN" =>
      match store.atKey cmd with
      | some (.str s) => .integer s.length
      | some _ => wrongtype
      | none => .integer 0
  | "MGET" =>
      .array ((cmd.argv.drop 1).map (fun (k : Bytes) =>
        match store.data[k]? with
        | some (.str s) => .bulk s
        | _ => .nil))
  | "EXISTS" => .integer ((cmd.argv.drop 1).countP (fun k => store.data.contains k))
  | "TYPE" =>
      match store.atKey cmd with
      | some (.str _) => .simple "string"
      | some (.hash _) => .simple "hash"
      | some (.set _) => .simple "set"
      | none => .simple "none"
  | "TTL" =>
      let k := cmd.key.getD []
      if store.data.contains k then .integer (store.ttl[k]?.getD (-1)) else .integer (-2)
  | "DBSIZE" => .integer store.data.size
  | "KEYS" => bulks store.data.keys
  | "HGET" =>
      match cmd.arg 1, cmd.arg 2 with
      | some k, some f =>
          match store.data[k]? with
          | some (.hash h) =>
              match h[f]? with
              | some v => .bulk v
              | none => .nil
          | some _ => wrongtype
          | none => .nil
      | _, _ => wrongargs "hget"
  | "HMGET" => store.queryHmget cmd
  | "HGETALL" =>
      match store.atKey cmd with
      | some (.hash h) => pairs h
      | some _ => wrongtype
      | none => .array []
  | "HKEYS" =>
      match store.atKey cmd with
      | some (.hash h) => bulks h.keys
      | some _ => wrongtype
      | none => .array []
  | "HVALS" =>
      match store.atKey cmd with
      | some (.hash h) => bulks h.values
      | some _ => wrongtype
      | none => .array []
  | "HLEN" =>
      match store.atKey cmd with
      | some (.hash h) => .integer h.size
      | some _ => wrongtype
      | none => .integer 0
  | "HEXISTS" =>
      match cmd.arg 1, cmd.arg 2 with
      | some k, some f =>
          match store.data[k]? with
          | some (.hash h) => .integer (if h.contains f then 1 else 0)
          | some _ => wrongtype
          | none => .integer 0
      | _, _ => wrongargs "hexists"
  | "SMEMBERS" =>
      match store.atKey cmd with
      | some (.set s) => bulks s.toList
      | some _ => wrongtype
      | none => .array []
  | "SCARD" =>
      match store.atKey cmd with
      | some (.set s) => .integer s.size
      | some _ => wrongtype
      | none => .integer 0
  | "SISMEMBER" =>
      match cmd.arg 1, cmd.arg 2 with
      | some k, some m =>
          match store.data[k]? with
          | some (.set s) => .integer (if s.contains m then 1 else 0)
          | some _ => wrongtype
          | none => .integer 0
      | _, _ => wrongargs "sismember"
  | "SRANDMEMBER" =>
      match store.atKey cmd with
      | some (.set s) =>
          match s.toList.head? with
          | some m => .bulk m
          | none => .nil
      | some _ => wrongtype
      | none => .nil
  | "RANDOMKEY" =>
      match store.data.keys.head? with
      | some k => .bulk k
      | none => .nil
  | "TIME" =>
      .array [.bulk (asBytes (toString now.secs)), .bulk (asBytes (toString now.subsecMicros))]
  | "SCAN" => cursorZero (bulks store.data.keys)
  | "SSCAN" =>
      match store.atKey cmd with
      | some (.set s) => cursorZero (bulks s.toList)
      | some _ => wrongtype
      | none => cursorZero (.array [])
  | "HSCAN" =>
      match store.atKey cmd with
      | some (.hash h) => cursorZero (pairs h)
      | some _ => wrongtype
      | none => cursorZero (.array [])
  | other => .error s!"ERR '{other}' is a read but not implemented by MemStore"

end MemStore

/-! ### The store instance -/

section Instance

variable [AlwaysSerializable MemStore]

def MemStore.importSnapshot (store : MemStore) (bytes : Bytes) :
    Except SnapshotError Unit × MemStore :=
  match (decodeFromSlice bytes : Except String MemStore) with
  | .ok restored => (.ok (), restored)
  | .error e => (.error { decode := e }, store)

instance : RedisStore MemStore where
  apply := MemStore.apply
  query := MemStore.query
  exportSnapshot := serialize
  importSnapshot := MemStore.importSnapshot

instance : LawfulRedisStore MemStore where
  import_export target source := by
    change MemStore.importSnapshot target (serialize source) = _
    simp only [MemStore.importSnapshot, decode_serialize]

end Instance

end TrainsValkey
