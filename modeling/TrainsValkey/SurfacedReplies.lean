import TrainsValkey.ResolutionWindow

/-
What a client is told when the store refuses the effect of its command.

An operation without a reply of its own surfaces what the store answers.  One
that carries a resolved reply surfaces that reply, whatever the store answers;
the store refuses such an effect exactly when the key holds a value of another
type by the time the effect is delivered.
-/

set_option autoImplicit false

namespace TrainsValkey

open Std (ExtTreeMap ExtTreeSet)
open Trains
open Library (Action Explained replay)
open Library.Action (Keeps)

/-! ### What the client is told -/

section Surfaced

variable {σ : Type} [RedisStore σ]

def WriteOp.surfaced (op : WriteOp) (store : σ) : Reply :=
  op.clientReply.getD (op.applyTo store).1

def WriteOp.RefusalSurfaces (op : WriteOp) (store : σ) : Prop :=
  (op.applyTo store).1.isError = true → (op.surfaced store).isError = true

theorem refusalSurfaces_of_none {op : WriteOp} (plain : op.clientReply = none) (store : σ) :
    op.RefusalSurfaces store := by
  intro refused
  rw [WriteOp.surfaced, plain]
  exact refused

theorem refusalSurfaces_iff_accepted {op : WriteOp} {clientReply : Reply}
    (carried : op.clientReply = some clientReply) (positive : clientReply.isError = false)
    (store : σ) : op.RefusalSurfaces store ↔ (op.applyTo store).1.isError = false := by
  unfold WriteOp.RefusalSurfaces WriteOp.surfaced
  rw [carried, Option.getD_some, positive]
  cases (op.applyTo store).1.isError with
  | true => simp
  | false => simp

variable [Trains]

/-- Every answer follows the run of an operation and surfaces that run. -/
def AnswersRun (start : σ) (before : List Event) : Event → Prop
  | .answer _ reply =>
      ∃ earlier op,
        before = earlier ++
          [.applied op (op.applyTo (replay applyOp start (appliedOps earlier))).1] ∧
        reply = op.surfaced (replay applyOp start (appliedOps earlier))
  | _ => True

structure Surfacing (start : σ) (st : DriverState σ) (trace : List Event) : Prop where
  store : st.store = replay applyOp start (appliedOps trace)
  explained : Explained (AnswersRun start) trace

namespace Surfacing

variable {start : σ} {st : DriverState σ} {trace : List Event} {op : WriteOp} {id : ProcId}

theorem quiet {event : Event} (surfacing : Surfacing start st trace)
    (isQuiet : event.isQuiet = true) : Surfacing start st (trace ++ [event]) := by
  constructor
  · rw [appliedOps_quiet trace isQuiet]
    exact surfacing.store
  · refine Explained.snoc surfacing.explained ?_
    cases event <;> first | exact True.intro | cases isQuiet

theorem again (surfacing : Surfacing start st trace) :
    Surfacing start st (trace ++ [.delivered op]) := by
  constructor
  · rw [appliedOps_append]
    exact surfacing.store.trans (congrArg _ (List.append_nil _).symm)
  · exact Explained.snoc surfacing.explained True.intro

theorem first {after : DriverState σ} (surfacing : Surfacing start st trace)
    (stored : after.store = applyOp st.store op) :
    Surfacing start after (trace ++ [.delivered op, .applied op (op.applyTo st.store).1]) := by
  have applied : appliedOps (trace ++ [.delivered op, .applied op (op.applyTo st.store).1]) =
      appliedOps trace ++ [op] := by
    rw [appliedOps_append]
    rfl
  constructor
  · rw [applied, Library.replay_append, stored, surfacing.store]
    rfl
  · rw [List.append_cons]
    exact Explained.snoc surfacing.again.explained True.intro

theorem told {after : DriverState σ} {client : Sender} (surfacing : Surfacing start st trace)
    (stored : after.store = applyOp st.store op) :
    Surfacing start after
      (trace ++ [.delivered op, .applied op (op.applyTo st.store).1,
        .answer client (op.clientReply.getD (op.applyTo st.store).1)]) := by
  have ran := surfacing.first stored
  have split : trace ++ [.delivered op, .applied op (op.applyTo st.store).1,
      .answer client (op.clientReply.getD (op.applyTo st.store).1)] =
        (trace ++ [.delivered op, .applied op (op.applyTo st.store).1]) ++
          [.answer client (op.clientReply.getD (op.applyTo st.store).1)] := by simp
  have here : st.store = replay applyOp start (appliedOps (trace ++ [.delivered op])) := by
    rw [appliedOps_append]
    exact surfacing.store.trans (congrArg _ (List.append_nil _).symm)
  rw [split]
  constructor
  · rw [appliedOps_append]
    exact ran.store.trans (congrArg _ (List.append_nil _).symm)
  · refine ran.explained.snoc ⟨trace ++ [.delivered op], op, ?_, ?_⟩
    · rw [← here, ← List.append_cons]
    · rw [← here]
      rfl

theorem deliverOp_keeps (id : ProcId) (op : WriteOp) :
    Keeps (Surfacing (σ := σ) start) (deliverOp id op) := by
  intro st trace surfacing
  cases dup : st.dedup.isDup op.origin op.requestId with
  | true =>
      rw [deliverOp_dup dup]
      exact surfacing.again
  | false =>
      have stored : (st.toParts.deliver op).store = applyOp st.store op := by
        rw [Parts.deliver_fresh dup]
      rw [deliverOp_fresh dup]
      cases st.waitingClient id op with
      | none => exact surfacing.first stored
      | some client => exact surfacing.told stored

theorem property (id : ProcId) (start : σ) : ClientProperty id (Surfacing (σ := σ) start) where
  deliver := deliverOp_keeps id
  silent held same := ⟨(congrArg Parts.store same.parts).trans held.store, held.explained⟩
  quietEvent _ held isQuiet := held.quiet isQuiet

end Surfacing

theorem pumpOutputs_surfaces [Bincode WriteOp] (id : ProcId) (outs : List NodeOutput)
    (st : DriverState σ) {client : Sender} {reply : Reply} {before after : List Event}
    (here : (pumpOutputs id outs st).2 = before ++ .answer client reply :: after) :
    AnswersRun st.store before (.answer client reply) := by
  have pumped := (Surfacing.property id st.store).pumpOutputs outs st [] ⟨rfl, Explained.nil⟩
  rw [List.nil_append, here] at pumped
  exact pumped.explained.justifies

end Surfaced

/-! ### When the store refuses a resolved effect -/

section Refusals

def Value.isSet : Value → Bool
  | .set _ => true
  | _ => false

def Value.isHash : Value → Bool
  | .hash _ => true
  | _ => false

/-- By the time the effect of the command is delivered its key holds a value of
another type than the effect works on. -/
def Retyped (cmd : Command) (delivered : MemStore) : Prop :=
  ∃ key value, cmd.key = some key ∧ delivered.data[key]? = some value ∧
    ((cmd.name = "SPOP" ∧ value.isSet = false) ∨
      (cmd.name = "HINCRBYFLOAT" ∧ value.isHash = false))

variable [AlwaysSerializable MemStore] {op : WriteOp} {delivered : MemStore} {key : Bytes}

theorem srem_refused_iff {popped : List Bytes}
    (effect : op.argv = asBytes "SREM" :: key :: popped) :
    (op.applyTo delivered).1.isError = true ↔
      ∃ value, delivered.data[key]? = some value ∧ value.isSet = false := by
  rw [applyTo_srem effect]
  unfold MemStore.applySrem
  simp only [Command.key, Command.arg, List.getElem?_cons_succ, List.getElem?_cons_zero]
  cases delivered.data[key]? with
  | none => simp
  | some value => cases value <;> simp [Value.isSet]

theorem hset_refused_iff {field value : Bytes}
    (effect : op.argv = [asBytes "HSET", key, field, value]) :
    (op.applyTo delivered).1.isError = true ↔
      ∃ held, delivered.data[key]? = some held ∧ held.isHash = false := by
  rw [applyTo_hset effect]
  unfold MemStore.applyHset
  simp only [Command.key, Command.arg, List.getElem?_cons_succ, List.getElem?_cons_zero,
    List.length_cons, List.length_nil]
  cases delivered.data[key]? with
  | none => simp
  | some held => cases held <;> simp [Value.isHash]

variable [FloatArith] {now : SystemTime} {cmd : Command} {store : MemStore}
  {argv : List Bytes} {clientReply : Reply}

theorem resolved_reply_positive
    (resolved : resolve now cmd store = .broadcast argv clientReply) :
    clientReply.isError = false := by
  rcases resolve_broadcast_name resolved with ⟨_, here⟩ | ⟨_, here⟩ | ⟨_, here⟩
  · obtain ⟨_, _, _, _, _, _, effect⟩ := resolveSpop_broadcast here
    cases effect with
    | one single first => rfl
    | many counted value found => rfl
  · obtain ⟨_, _, _, _, _, _, _, _, _, _, rfl⟩ := resolveIncrbyfloat_broadcast.mp here
    rfl
  · obtain ⟨_, _, _, _, _, _, _, _, _, _, _, _, rfl⟩ := resolveHincrbyfloat_broadcast.mp here
    rfl

theorem resolved_refused_iff (resolved : resolve now cmd store = .broadcast op.argv clientReply) :
    (op.applyTo delivered).1.isError = true ↔ Retyped cmd delivered := by
  unfold Retyped
  rcases resolve_broadcast_name resolved with ⟨named, here⟩ | ⟨named, here⟩ | ⟨named, here⟩
  · obtain ⟨key, _, _, keyed, _, effect, _⟩ := resolveSpop_broadcast here
    rw [srem_refused_iff effect]
    simp [named, keyed]
  · obtain ⟨key, _, _, _, _, _, _, _, _, effect, _⟩ := resolveIncrbyfloat_broadcast.mp here
    rw [applyTo_set effect]
    simp [named]
  · obtain ⟨key, _, _, _, _, keyed, _, _, _, _, _, effect, _⟩ :=
      resolveHincrbyfloat_broadcast.mp here
    rw [hset_refused_iff effect]
    have keyed' : cmd.key = some key := keyed
    simp [named, keyed']

/-- On both apply paths a client is told what its operation surfaces.  Without
a carried reply every refusal surfaces.  A resolved reply is never an error, and
its effect is refused exactly when its key was retyped in between. -/
theorem refusal_surfaces_iff [Trains] [Bincode WriteOp] :
    (∀ (op : WriteOp) (parts after : Parts MemStore) (reply : Reply),
      applyDeliveredOpParts op parts = (some reply, after) → reply = op.surfaced parts.store) ∧
    (∀ (id : ProcId) (outs : List NodeOutput) (st : DriverState MemStore) (client : Sender)
      (reply : Reply) (before after : List Event),
      (pumpOutputs id outs st).2 = before ++ .answer client reply :: after →
        AnswersRun st.store before (.answer client reply)) ∧
    (∀ (op : WriteOp) (delivered : MemStore), op.clientReply = none →
      op.RefusalSurfaces delivered) ∧
    ∀ (now : SystemTime) (cmd : Command) (resolvedAt delivered : MemStore) (op : WriteOp)
      (clientReply : Reply), resolve now cmd resolvedAt = .broadcast op.argv clientReply →
        op.clientReply = some clientReply →
          clientReply.isError = false ∧
            ((op.applyTo delivered).1.isError = true ↔ Retyped cmd delivered) ∧
            (op.RefusalSurfaces delivered ↔ ¬Retyped cmd delivered) := by
  refine ⟨?_, ?_, ?_, ?_⟩
  · intro op parts after reply released
    exact (applyDeliveredOpParts_released released).1
  · intro id outs st client reply before after here
    exact pumpOutputs_surfaces id outs st here
  · intro op delivered plain
    exact refusalSurfaces_of_none plain delivered
  · intro now cmd resolvedAt delivered op clientReply resolved carried
    have positive := resolved_reply_positive resolved
    have refused : (op.applyTo delivered).1.isError = true ↔ Retyped cmd delivered :=
      resolved_refused_iff resolved
    refine ⟨positive, refused, ?_⟩
    rw [refusalSurfaces_iff_accepted carried positive, ← refused, Bool.not_eq_true]

end Refusals

/-! ### A pop whose set became a string -/

section Sample

open scoped LoopbackRing

def retypedPool : Parts MemStore := pool.deliver (WriteOp.new 1 3 (LoopbackRing.set "s" "text"))

/-- The store refuses the effect of the pop and its client is told of a success,
on either path. -/
theorem refused_effects_acked :
    resolve ⟨0, 0⟩ pop pool.store =
        .broadcast (poppedBy 0).argv (.bulk (asBytes "a")) ∧
      (poppedBy 0).applyTo retypedPool.store = (wrongtype, retypedPool.store) ∧
      (applyDeliveredOpParts (poppedBy 0) retypedPool).1 = some (.bulk (asBytes "a")) ∧
      ((pumpOutputs 0 [.deliver (LoopbackRing.payloads [poppedBy 0])]
          { DriverState.coldStart LoopbackRing.plainFirst MemStore.new with
            toParts := retypedPool
            pending := (∅ : ExtTreeMap Nat Sender).insert 7 3 }).2.filterMap (fun event =>
              match event with
              | .answer client reply => some (client, reply)
              | _ => none)) = [(3, .bulk (asBytes "a"))] ∧
      ¬(poppedBy 0).RefusalSurfaces retypedPool.store := by
  refine ⟨by rfl, by rfl, by rfl, by rfl, ?_⟩
  intro surfaces
  exact absurd (surfaces (by rfl)) (by decide)

end Sample

end TrainsValkey
