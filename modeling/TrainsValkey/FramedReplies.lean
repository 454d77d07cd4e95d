import TrainsValkey.ClientReplies
import TrainsValkey.ReplyReader

/-
The replies that keep to their line.

Every reply of the store, of the effect resolver and of the driver does.  The
texts that quote a command name quote one of the command table, and no name of
the table has a line feed.
-/

set_option autoImplicit false

namespace TrainsValkey

open Std (ExtTreeMap ExtTreeSet)
open Trains
open Library (Action Explained)
open Library.Action (Keeps)

def Reply.Framed (reply : Reply) : Prop := reply.wire.All WireReply.Lined

namespace Reply

@[simp] theorem framed_simple (text : String) :
    (Reply.simple text).Framed ↔ IsLine (asBytes text) := Iff.rfl

@[simp] theorem framed_error (text : String) :
    (Reply.error text).Framed ↔ IsLine (asBytes text) := Iff.rfl

@[simp] theorem framed_integer (value : Int) : (Reply.integer value).Framed := True.intro

@[simp] theorem framed_bulk (bytes : Bytes) : (Reply.bulk bytes).Framed := True.intro

@[simp] theorem framed_nil : Reply.nil.Framed := True.intro

@[simp] theorem framed_array (items : List Reply) :
    (Reply.array items).Framed ↔ ∀ item ∈ items, item.Framed := by
  unfold Framed
  rw [wire, WireReply.all_array, wireItems_eq]
  simp [WireReply.Lined]

@[simp] theorem framed_ok : Reply.ok.Framed := (framed_simple "OK").mpr (by decide)

end Reply

@[simp] theorem framed_wrongtype : wrongtype.Framed :=
  (Reply.framed_error _).mpr (by decide)

/-! ### Command names -/

theorem classify_clear {name : String} (known : classify name ≠ .unsupported) :
    10 ∉ asBytes name := by
  unfold classify at known
  split at known
  all_goals first | exact absurd rfl known | decide

theorem isLine_quote (before after : String) {name : String} (clear : 10 ∉ asBytes name)
    (start : 10 ∉ asBytes before) (finish : IsLine (asBytes after)) (some_ : asBytes after ≠ []) :
    IsLine (asBytes (before ++ name ++ after)) := by
  rw [asBytes_append, asBytes_append]
  refine IsLine.append ?_ finish some_
  rw [List.mem_append, not_or]
  exact ⟨start, clear⟩

theorem framed_wrongargs {name : String} (clear : 10 ∉ asBytes name) : (wrongargs name).Framed :=
  isLine_quote "ERR wrong number of arguments for '" "' command" clear (by decide) (by decide)
    (by decide)

/-! ### The store -/

namespace MemStore

variable (store : MemStore) (cmd : Command)

@[simp] theorem framed_notAnInteger : notAnInteger.Framed := (Reply.framed_error _).mpr (by decide)

@[simp] theorem framed_wouldOverflow : wouldOverflow.Framed :=
  (Reply.framed_error _).mpr (by decide)

theorem applyIncr_framed : (store.applyIncr cmd).1.Framed := by
  have deltaFramed (reply : Reply) (failed : incrDelta cmd = .error reply) : reply.Framed := by
    unfold incrDelta at failed
    split at failed
    all_goals first | cases failed | (split at failed <;> cases failed; simp)
  unfold applyIncr
  split
  · exact framed_wrongargs (by decide)
  · split
    · exact deltaFramed _ (by assumption)
    · simp only
      split
      · split
        · split <;> simp
        · exact framed_notAnInteger
      · exact framed_wrongtype
      · split <;> simp

theorem applySet_framed : (store.applySet cmd).1.Framed := by
  unfold applySet
  split
  · exact Reply.framed_ok
  · exact framed_wrongargs (by decide)

theorem applySetnx_framed : (store.applySetnx cmd).1.Framed := by
  unfold applySetnx
  split
  · split
    · exact Reply.framed_integer 0
    · exact Reply.framed_integer 1
  · exact framed_wrongargs (by decide)

theorem applyGetset_framed : (store.applyGetset cmd).1.Framed := by
  unfold applyGetset
  split
  · simp only
    split
    · exact Reply.framed_bulk _
    · exact framed_wrongtype
    · exact Reply.framed_nil
  · exact framed_wrongargs (by decide)

theorem applyAppend_framed : (store.applyAppend cmd).1.Framed := by
  unfold applyAppend
  split
  · split
    · exact Reply.framed_integer _
    · exact framed_wrongtype
  · exact framed_wrongargs (by decide)

theorem applyExpire_framed : (store.applyExpire cmd).1.Framed := by
  unfold applyExpire
  split
  · exact framed_wrongargs (by decide)
  · split
    · exact Reply.framed_integer 1
    · exact Reply.framed_integer 0

theorem applyPersist_framed : (store.applyPersist cmd).1.Framed := by
  unfold applyPersist
  split
  · exact framed_wrongargs (by decide)
  · split
    · exact Reply.framed_integer 1
    · exact Reply.framed_integer 0

theorem applyRename_framed : (store.applyRename cmd).1.Framed := by
  unfold applyRename
  split
  · split
    · exact Reply.framed_ok
    · exact (Reply.framed_error _).mpr (by decide)
  · exact framed_wrongargs (by decide)

theorem applyHset_framed : (store.applyHset cmd).1.Framed := by
  unfold applyHset
  split
  · exact framed_wrongargs (by decide)
  · split
    · exact framed_wrongargs (by decide)
    · split
      · simp only
        split
        · exact Reply.framed_ok
        · exact Reply.framed_integer _
      · exact framed_wrongtype

theorem applyHsetnx_framed : (store.applyHsetnx cmd).1.Framed := by
  unfold applyHsetnx
  split
  · split
    · split
      · exact Reply.framed_integer 0
      · exact Reply.framed_integer 1
    · exact framed_wrongtype
  · exact framed_wrongargs (by decide)

theorem applyHdel_framed : (store.applyHdel cmd).1.Framed := by
  unfold applyHdel
  split
  · exact framed_wrongargs (by decide)
  · split
    · exact Reply.framed_integer _
    · exact framed_wrongtype
    · exact Reply.framed_integer 0

theorem applyHincrby_framed : (store.applyHincrby cmd).1.Framed := by
  unfold applyHincrby
  split
  · split
    · exact framed_notAnInteger
    · split
      · simp only
        split
        · split
          · split
            · exact Reply.framed_integer _
            · exact framed_wouldOverflow
          · exact (Reply.framed_error _).mpr (by decide)
        · split
          · exact Reply.framed_integer _
          · exact framed_wouldOverflow
      · exact framed_wrongtype
  · exact framed_wrongargs (by decide)

theorem applySadd_framed : (store.applySadd cmd).1.Framed := by
  unfold applySadd
  split
  · exact framed_wrongargs (by decide)
  · split
    · exact Reply.framed_integer _
    · exact framed_wrongtype

theorem applySrem_framed : (store.applySrem cmd).1.Framed := by
  unfold applySrem
  split
  · exact framed_wrongargs (by decide)
  · split
    · exact Reply.framed_integer _
    · exact framed_wrongtype
    · exact Reply.framed_integer 0

theorem apply_framed (clear : 10 ∉ asBytes cmd.name) : (store.apply cmd).1.Framed := by
  unfold apply
  split
  · exact store.applySet_framed cmd
  · exact store.applySetnx_framed cmd
  · exact store.applyGetset_framed cmd
  · exact store.applyAppend_framed cmd
  · exact Reply.framed_integer _
  · exact Reply.framed_integer _
  · exact store.applyIncr_framed cmd
  · exact store.applyIncr_framed cmd
  · exact store.applyIncr_framed cmd
  · exact store.applyIncr_framed cmd
  · exact store.applyExpire_framed cmd
  · exact store.applyExpire_framed cmd
  · exact store.applyExpire_framed cmd
  · exact store.applyExpire_framed cmd
  · exact store.applyPersist_framed cmd
  · exact store.applyRename_framed cmd
  · exact store.applyHset_framed cmd
  · exact store.applyHset_framed cmd
  · exact store.applyHsetnx_framed cmd
  · exact store.applyHdel_framed cmd
  · exact store.applyHincrby_framed cmd
  · exact store.applySadd_framed cmd
  · exact store.applySrem_framed cmd
  · exact Reply.framed_ok
  · exact Reply.framed_ok
  · exact isLine_quote "ERR '"
      "' is a write but not implemented by MemStore (RD-1); use the redis backend" clear
      (by decide) (by decide) (by decide)

theorem framed_map {items : List Bytes} {item : Bytes → Reply} (each : ∀ k, (item k).Framed) :
    (Reply.array (items.map item)).Framed := by
  rw [Reply.framed_array]
  intro reply member
  obtain ⟨k, _, rfl⟩ := List.mem_map.mp member
  exact each k

@[simp] theorem framed_bulks (items : List Bytes) : (bulks items).Framed :=
  framed_map (fun k => Reply.framed_bulk k)

@[simp] theorem framed_pairs (h : ExtTreeMap Bytes Bytes) : (pairs h).Framed := by
  simp only [pairs, Reply.framed_array, List.mem_flatMap]
  rintro item ⟨entry, _, member⟩
  rcases List.mem_pair.mp member with rfl | rfl
  · exact Reply.framed_bulk entry.1
  · exact Reply.framed_bulk entry.2

@[simp] theorem framed_cursorZero (items : Reply) : (cursorZero items).Framed ↔ items.Framed := by
  simp [cursorZero]

theorem queryHmget_framed : (store.queryHmget cmd).Framed := by
  unfold queryHmget
  split
  · exact framed_wrongargs (by decide)
  · simp only
    split
    · refine framed_map (fun f => ?_)
      split <;> simp
    · exact framed_wrongtype
    · refine framed_map (fun f => ?_)
      split <;> simp

theorem query_framed (now : SystemTime) (clear : 10 ∉ asBytes cmd.name) :
    (store.query now cmd).Framed := by
  unfold query
  split
  all_goals first
    | exact isLine_quote "ERR '" "' is a read but not implemented by MemStore" clear
        (by decide) (by decide) (by decide)
    | exact store.queryHmget_framed cmd
    | refine framed_map (fun k => ?_)
      split <;> simp
    | simp only
      split <;> exact Reply.framed_integer _
    | repeat' split
      all_goals first
        | exact (Reply.framed_simple _).mpr (by decide)
        | simp (disch := decide)

end MemStore

/-! ### The effect resolver -/

def Resolution.Framed : Resolution → Prop
  | .immediate reply => reply.Framed
  | .broadcast argv clientReply =>
      (∀ cmd, Command.parse argv = some cmd → 10 ∉ asBytes cmd.name) ∧ clientReply.Framed

theorem framed_effect {name : String} (operands : List Bytes) {clientReply : Reply}
    (clear : 10 ∉ asBytes (toAsciiUppercase name)) (framed : clientReply.Framed) :
    (Resolution.broadcast (asBytes name :: operands) clientReply).Framed := by
  refine ⟨fun cmd parsed => ?_, framed⟩
  cases parsed
  rw [fromUtf8Lossy_asBytes]
  exact clear

theorem spopOne_framed (key : Bytes) (members : List Bytes) : (spopOne key members).Framed := by
  unfold spopOne
  split
  · exact framed_effect _ (by decide) (Reply.framed_bulk _)
  · exact Reply.framed_nil

theorem spopCount_framed (key : Bytes) (members : List Bytes) (countBytes : Bytes) :
    (spopCount key members countBytes).Framed := by
  unfold spopCount
  split
  · exact (Reply.framed_error _).mpr (by decide)
  · simp only
    split
    · exact (Reply.framed_array []).mpr (by simp)
    · exact framed_effect _ (by decide) (MemStore.framed_map (fun k => Reply.framed_bulk k))

theorem resolveFloat_framed [FloatArith] {current badCurrent : Reply} (currentFramed : current.Framed)
    (badFramed : badCurrent.Framed) (incr : FloatArith.F64) (effect : Bytes → List Bytes)
    (named : ∀ value cmd, Command.parse (effect value) = some cmd → 10 ∉ asBytes cmd.name) :
    (resolveFloat current incr badCurrent effect).Framed := by
  have add (cur : FloatArith.F64) :
      (if FloatArith.isFinite (FloatArith.add cur incr) then
        Resolution.broadcast (effect (formatFloat (FloatArith.add cur incr)))
          (.bulk (formatFloat (FloatArith.add cur incr)))
      else .immediate (.error "ERR increment would produce NaN or Infinity")).Framed := by
    split
    · exact ⟨named _, Reply.framed_bulk _⟩
    · exact (Reply.framed_error _).mpr (by decide)
  unfold resolveFloat
  simp only
  split
  · split
    · exact add _
    · exact badFramed
  · exact currentFramed
  · exact add _

theorem named_effect {name : String} (clear : 10 ∉ asBytes (toAsciiUppercase name))
    (operands : List Bytes) (cmd : Command)
    (parsed : Command.parse (asBytes name :: operands) = some cmd) : 10 ∉ asBytes cmd.name :=
  (framed_effect operands clear Reply.framed_nil).1 cmd parsed

theorem framed_notAFloat : notAFloat.Framed := (Reply.framed_error _).mpr (by decide)

section Resolve

variable [AlwaysSerializable MemStore] (now : SystemTime) (cmd : Command) (store : MemStore)

theorem queryFor_framed (name : String) (operands : List Bytes)
    (clear : 10 ∉ asBytes (toAsciiUppercase name)) :
    (RedisStore.query store now (q name operands)).Framed := by
  apply MemStore.query_framed
  rw [q, fromUtf8Lossy_asBytes]
  exact clear

theorem resolveSpop_framed : (resolveSpop now cmd store).Framed := by
  unfold resolveSpop
  split
  · exact framed_wrongargs (by decide)
  · rename_i key found
    have listed := queryFor_framed now store "SMEMBERS" [key] (by decide)
    simp only
    split
    · split
      · exact spopOne_framed key _
      · exact spopCount_framed key _ _
    · rename_i e same
      rw [same] at listed
      exact listed
    · split
      · exact spopOne_framed key []
      · exact spopCount_framed key [] _

variable [FloatArith]

theorem resolveIncrbyfloat_framed : (resolveIncrbyfloat now cmd store).Framed := by
  have named : 10 ∉ asBytes (toAsciiUppercase "SET") := by decide
  have asked : 10 ∉ asBytes (toAsciiUppercase "GET") := by decide
  unfold resolveIncrbyfloat
  split
  · rename_i key _ _ _
    split
    · exact framed_notAFloat
    · apply resolveFloat_framed (queryFor_framed now store "GET" [key] asked) framed_notAFloat
      intro value
      exact named_effect named [key, value]
  · exact framed_wrongargs (by decide)

theorem resolveHincrbyfloat_framed : (resolveHincrbyfloat now cmd store).Framed := by
  have named : 10 ∉ asBytes (toAsciiUppercase "HSET") := by decide
  have asked : 10 ∉ asBytes (toAsciiUppercase "HGET") := by decide
  have bad : (Reply.error "ERR hash value is not a float").Framed :=
    (Reply.framed_error _).mpr (by decide)
  unfold resolveHincrbyfloat
  split
  · rename_i key field _ _ _ _
    split
    · exact framed_notAFloat
    · apply resolveFloat_framed (queryFor_framed now store "HGET" [key, field] asked) bad
      intro value
      exact named_effect named [key, field, value]
  · exact framed_wrongargs (by decide)

theorem resolve_framed (clear : 10 ∉ asBytes cmd.name) : (resolve now cmd store).Framed := by
  unfold resolve
  split
  · exact resolveSpop_framed now cmd store
  · exact resolveIncrbyfloat_framed now cmd store
  · exact resolveHincrbyfloat_framed now cmd store
  · exact isLine_quote "ERR '" "' is not a resolvable non-deterministic command" clear
      (by decide) (by decide) (by decide)

end Resolve

/-! ### The driver -/

section Driver

/-- What the driver sends to the ring, and what it may answer after the ring
hands it back. -/
def WriteOp.Framed (op : WriteOp) : Prop :=
  (∀ cmd, op.command = some cmd → 10 ∉ asBytes cmd.name) ∧
    ∀ reply, op.clientReply = some reply → reply.Framed

theorem applyTo_framed [AlwaysSerializable MemStore] {op : WriteOp} (framed : op.Framed) (store : MemStore) :
    (op.applyTo store).1.Framed := by
  unfold WriteOp.applyTo
  cases carried : op.command with
  | none => exact (Reply.framed_error _).mpr (by decide)
  | some cmd => exact store.apply_framed cmd (framed.1 cmd carried)

theorem surfaced_framed [AlwaysSerializable MemStore] {op : WriteOp} (framed : op.Framed) (store : MemStore) :
    (op.clientReply.getD (op.applyTo store).1).Framed := by
  cases carried : op.clientReply with
  | none => exact applyTo_framed framed store
  | some reply => exact framed.2 reply carried

def WriteAction.Framed : WriteAction → Prop
  | .immediate reply => reply.Framed
  | .broadcast argv clientReply =>
      (∀ cmd, Command.parse argv = some cmd → 10 ∉ asBytes cmd.name) ∧
        ∀ reply, clientReply = some reply → reply.Framed

theorem writeAction_framed [AlwaysSerializable MemStore] [FloatArith] (req : WriteRequest) (store : MemStore) :
    (writeAction req store).Framed := by
  unfold writeAction
  split
  · rename_i cmd parsed
    split
    · rename_i class_
      refine ⟨fun other same => ?_, fun reply carried => nomatch carried⟩
      rw [parsed] at same
      cases same
      exact classify_clear (by rw [class_]; decide)
    · rename_i class_
      have resolved := resolve_framed req.now cmd store (classify_clear (by rw [class_]; decide))
      split
      · rename_i same
        rw [same] at resolved
        exact resolved
      · rename_i same
        rw [same] at resolved
        refine ⟨resolved.1, fun reply carried => ?_⟩
        cases carried
        exact resolved.2
    · exact (Reply.framed_error _).mpr (by decide)
  · exact (Reply.framed_error _).mpr (by decide)

theorem forRequest_framed {id : ProcId} {argv : List Bytes} {clientReply : Option Reply}
    (framed : (WriteAction.broadcast argv clientReply).Framed) (requestId : Nat) :
    (WriteOp.forRequest id requestId argv clientReply).Framed := by
  refine ⟨fun cmd parsed => framed.1 cmd ?_, fun reply carried => framed.2 reply ?_⟩
  · rw [WriteOp.command, WriteOp.forRequest_argv] at parsed
    exact parsed
  · cases clientReply <;> exact carried

variable [Trains] {id : ProcId}

def Event.Framed : Event → Prop
  | .broadcast op _ => op.Framed
  | .answer _ reply => reply.Framed
  | _ => True

def FramedIfAdmissible (id : ProcId) (_ : DriverState MemStore) (trace : List Event) : Prop :=
  Explained (Admissible id) trace → ∀ event ∈ trace, event.Framed

theorem FramedIfAdmissible.extend {before after : DriverState MemStore} {trace events : List Event}
    (held : FramedIfAdmissible id before trace)
    (framed : Explained (Admissible id) (trace ++ events) → ∀ event ∈ events, event.Framed) :
    FramedIfAdmissible id after (trace ++ events) := by
  intro admissible event member
  rcases List.mem_append.mp member with earlier | here
  · exact held (admissible.before events) event earlier
  · exact framed admissible event here

variable [AlwaysSerializable MemStore]

theorem deliverOp_framed (op : WriteOp) : Keeps (FramedIfAdmissible id) (deliverOp id op) := by
  intro st trace held
  cases dup : st.dedup.isDup op.origin op.requestId with
  | true =>
      rw [deliverOp_dup dup]
      exact held.extend (by simp [Event.Framed])
  | false =>
      rw [deliverOp_fresh dup]
      unfold DriverState.waitingClient
      split
      · rename_i tx waiting
        apply held.extend
        intro admissible event member
        have own : op.origin = id := by
          by_contra foreign
          rw [if_neg foreign] at waiting
          cases waiting
        obtain ⟨client, sent⟩ := admissible.justifies own
        have framed : op.Framed := held (admissible.before _) (.broadcast op client) sent
        simp only [List.mem_cons, List.not_mem_nil, or_false] at member
        rcases member with rfl | rfl | rfl
        · exact True.intro
        · exact True.intro
        · exact surfaced_framed framed st.store
      · exact held.extend (by simp [Event.Framed])

theorem framedProperty : ClientProperty id (FramedIfAdmissible id) where
  deliver := deliverOp_framed
  silent held _ := held
  quietEvent event held isQuiet := by
    refine held.extend (fun _ other member => ?_)
    obtain rfl := List.mem_singleton.mp member
    cases other <;> first | exact True.intro | cases isQuiet

variable [Bincode WriteOp] [FloatArith]

/-- The texts of the serializer's errors are lines. -/
def LineErrors : Prop :=
  ∀ (op : WriteOp) (e : String), Bincode.encodeToVec op = .error e → IsLine (asBytes e)

theorem handleWriteRequest_framed (lineErrors : LineErrors) (req : WriteRequest) :
    Keeps (FramedIfAdmissible id) (handleWriteRequest id req) := by
  intro st trace held
  have framed := writeAction_framed req st.store
  have answered (reply : Reply) (stays : reply.Framed) :
      FramedIfAdmissible id st (trace ++ [Event.request req.reply, Event.answer req.reply reply]) := by
    apply FramedIfAdmissible.extend held
    intro _ event member
    simp only [List.mem_cons, List.not_mem_nil, or_false] at member
    rcases member with rfl | rfl
    · exact True.intro
    · exact stays
  unfold handleWriteRequest
  cases action : writeAction req st.store with
  | immediate reply =>
      rw [action] at framed
      exact answered reply framed
  | broadcast argv clientReply =>
      rw [action] at framed
      simp only
      split
      · rename_i bytes encoded
        have op : (WriteOp.forRequest id st.nextRid argv clientReply).Framed :=
          forRequest_framed framed st.nextRid
        have sent : FramedIfAdmissible id
            { st with
              nextRid := st.nextRid + 1
              pending := st.pending.insert st.nextRid req.reply }
            (trace ++ [Event.request req.reply,
              Event.broadcast (.forRequest id st.nextRid argv clientReply) req.reply]) :=
          held.extend (by simp [Event.Framed, op])
        have pumped := framedProperty.stepAndPump (.localBroadcast bytes) _ _ sent
        rw [List.append_assoc] at pumped
        exact pumped
      · rename_i e failed
        have text : s!"ERR failed to encode write for replication: bincode encode: {e}" =
            "ERR failed to encode write for replication: bincode encode: " ++ e := rfl
        have line : (Reply.error
            s!"ERR failed to encode write for replication: bincode encode: {e}").Framed := by
          rw [text, Reply.framed_error, asBytes_append]
          exact IsLine.join (by decide) (lineErrors _ e failed)
        exact answered _ line

variable [AlwaysSerializable DeliveredEntry] [AlwaysSerializable ReplicaSnapshot]

theorem driverLoop_framed (lineErrors : LineErrors) (cfg : DriverCfg) (store : MemStore)
    (promote : Option PromoteSeed) (inputs : List DriverInput) :
    FramedIfAdmissible cfg.id (driverLoop cfg store promote inputs).1
      (driverLoop cfg store promote inputs).2 :=
  framedProperty.driverLoop (handleWriteRequest_framed lineErrors) store promote
    (fun _ _ member => nomatch member) inputs

end Driver

end TrainsValkey
