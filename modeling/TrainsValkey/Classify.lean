import TrainsValkey.Text

/-
The static command table: read, deterministic write, mutation to be resolved
at the origin, or unsupported.
-/

set_option autoImplicit false

namespace TrainsValkey

inductive Class where
  | read
  | write
  | nonDeterministic
  | unsupported
deriving DecidableEq

def classify (name : String) : Class :=
  match name with
  | "PING" | "ECHO" | "COMMAND" | "HELLO" => .read
  | "GET" | "MGET" | "STRLEN" | "GETRANGE" | "SUBSTR" | "EXISTS" | "TYPE"
  | "TTL" | "PTTL" | "KEYS" | "DBSIZE" | "HGET" | "HMGET" | "HGETALL"
  | "HKEYS" | "HVALS" | "HLEN" | "HEXISTS" | "HSTRLEN" | "LLEN" | "LRANGE"
  | "LINDEX" | "SCARD" | "SMEMBERS" | "SISMEMBER" | "ZCARD" | "ZSCORE"
  | "ZRANGE" | "GETBIT" | "BITCOUNT"
  -- reads whose result varies but that mutate nothing
  | "SRANDMEMBER" | "RANDOMKEY" | "TIME" | "SCAN" | "HSCAN" | "SSCAN"
  | "ZSCAN" => .read
  | "SET" | "SETNX" | "SETEX" | "PSETEX" | "GETSET" | "GETDEL" | "MSET"
  | "MSETNX" | "APPEND" | "SETRANGE" | "SETBIT" | "DEL" | "UNLINK"
  | "INCR" | "INCRBY" | "DECR" | "DECRBY" | "EXPIRE" | "PEXPIRE"
  | "EXPIREAT" | "PEXPIREAT" | "PERSIST" | "RENAME" | "RENAMENX"
  | "COPY" | "HSET" | "HSETNX" | "HMSET" | "HDEL" | "HINCRBY" | "SADD"
  | "SREM" | "SMOVE" | "LPUSH" | "RPUSH" | "LPOP" | "RPOP" | "LSET"
  | "LREM" | "ZADD" | "ZREM" | "ZINCRBY" | "FLUSHDB" | "FLUSHALL" => .write
  | "SPOP" | "INCRBYFLOAT" | "HINCRBYFLOAT" => .nonDeterministic
  | _ => .unsupported

end TrainsValkey
