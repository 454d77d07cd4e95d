import TrainsValkey.Resp

/-
A parsed command and the operation that rides the ring.
-/

set_option autoImplicit false

namespace TrainsValkey

/-- A ring position.  The source's `u8` and `usize` casts of it never leave
the ring, so it is a `Nat`. -/
abbrev ProcId := Nat

structure Command where
  name : String
  argv : List Bytes
deriving DecidableEq

namespace Command

def parse : List Bytes → Option Command
  | [] => none
  | first :: operands =>
      some { name := toAsciiUppercase (fromUtf8Lossy first), argv := first :: operands }

def arg (cmd : Command) (position : Nat) : Option Bytes := cmd.argv[position]?

def key (cmd : Command) : Option Bytes := cmd.arg 1

theorem parse_eq_some {argv : List Bytes} {cmd : Command} (parsed : parse argv = some cmd) :
    cmd.argv = argv ∧ argv ≠ [] := by
  cases argv with
  | nil => cases parsed
  | cons first operands =>
      cases parsed
      exact ⟨rfl, List.cons_ne_nil first operands⟩

end Command

/-- The unit broadcast over the ring.  `request_id` and every other counter of
the source that only counts events is a `Nat`. -/
structure WriteOp where
  origin : ProcId
  requestId : Nat
  argv : List Bytes
  /-- The reply the originating client receives when it differs from the
  effect's own apply result. -/
  clientReply : Option Reply
deriving DecidableEq

namespace WriteOp

def new (origin : ProcId) (requestId : Nat) (argv : List Bytes) : WriteOp :=
  { origin, requestId, argv, clientReply := none }

def withClientReply (op : WriteOp) (reply : Reply) : WriteOp :=
  { op with clientReply := some reply }

def forRequest (origin : ProcId) (requestId : Nat) (argv : List Bytes)
    (clientReply : Option Reply) : WriteOp :=
  match clientReply with
  | some reply => (new origin requestId argv).withClientReply reply
  | none => new origin requestId argv

def command (op : WriteOp) : Option Command := Command.parse op.argv

/-- What deduplication and reply matching know an operation by. -/
def ident (op : WriteOp) : ProcId × Nat := (op.origin, op.requestId)

@[simp] theorem forRequest_origin (origin : ProcId) (requestId : Nat) (argv : List Bytes)
    (clientReply : Option Reply) :
    (forRequest origin requestId argv clientReply).origin = origin := by
  cases clientReply <;> rfl

@[simp] theorem forRequest_requestId (origin : ProcId) (requestId : Nat) (argv : List Bytes)
    (clientReply : Option Reply) :
    (forRequest origin requestId argv clientReply).requestId = requestId := by
  cases clientReply <;> rfl

@[simp] theorem forRequest_argv (origin : ProcId) (requestId : Nat) (argv : List Bytes)
    (clientReply : Option Reply) :
    (forRequest origin requestId argv clientReply).argv = argv := by
  cases clientReply <;> rfl

end WriteOp

end TrainsValkey
