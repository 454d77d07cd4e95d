import TrainsValkey.ClientReplies

/-
The window between resolving a mutation at its origin and applying the effect.

The effect and the client's reply are fixed against the store at resolution,
and the effect runs on whatever store the total order has made of it.  What the
original command may do to a store is stated here on its own; the outcome of a
resolved effect is compared with it at the delivery position.
-/

set_option autoImplicit false

namespace TrainsValkey

open Std (ExtTreeMap ExtTreeSet LawfulEqCmp)
open Trains
open Library (Action Explained replay)
open Library.Action (Keeps)

/-! ### What the original commands may do -/

section Outcomes

variable [FloatArith]

/-- Every other key holds what it held, its deadline included. -/
structure OthersKept (key : Bytes) (before after : MemStore) : Prop where
  data : ∀ other, other ≠ key → after.data[other]? = before.data[other]?
  ttl : ∀ other, other ≠ key → after.ttl[other]? = before.ttl[other]?

/-- Distinct members of the set are taken out of it, and a set that becomes
empty goes with its key. -/
structure Popped (key : Bytes) (members : ExtTreeSet Bytes) (popped : List Bytes)
    (before after : MemStore) : Prop where
  held : before.data[key]? = some (.set members)
  distinct : popped.Nodup
  present : ∀ m ∈ popped, m ∈ members
  left : ((∀ m ∈ members, m ∈ popped) ∧ after.data[key]? = none) ∨
    ∃ rest, after.data[key]? = some (.set rest) ∧ (∃ m, m ∈ rest) ∧
      (∀ m, m ∈ rest ↔ m ∈ members ∧ m ∉ popped) ∧ after.ttl[key]? = before.ttl[key]?
  others : OthersKept key before after

/-- The string under a key, if any; `none` when another type is there. -/
def MemStore.stringCell (store : MemStore) (key : Bytes) : Option (Option Bytes) :=
  match store.data[key]? with
  | some (.str b) => some (some b)
  | some _ => none
  | none => some none

def MemStore.fieldCell (store : MemStore) (key field : Bytes) : Option (Option Bytes) :=
  match store.data[key]? with
  | some (.hash h) => some h[field]?
  | some _ => none
  | none => some none

def cellFloat : Option Bytes → Option FloatArith.F64
  | some b => parseF64 b
  | none => some FloatArith.zero

/-- The outcomes of a mutation that finds something to do.  A refusal answers
an error and a pop of nothing answers nil or an empty array; neither is
broadcast.  The deadline of the key that `INCRBYFLOAT` rewrites is left open, as
is the one of a key that goes away. -/
inductive LegalOutcome (before : MemStore) (cmd : Command) : Reply → MemStore → Prop
  | pop {key m : Bytes} {members : ExtTreeSet Bytes} {after : MemStore}
      (named : cmd.name = "SPOP") (keyed : cmd.key = some key) (single : cmd.arg 2 = none)
      (taken : Popped key members [m] before after) :
      LegalOutcome before cmd (.bulk m) after
  | popCount {key countBytes : Bytes} {count : Int} {members : ExtTreeSet Bytes}
      {popped : List Bytes} {after : MemStore}
      (named : cmd.name = "SPOP") (keyed : cmd.key = some key)
      (counted : cmd.arg 2 = some countBytes) (value : MemStore.asInt countBytes = some count)
      (many : popped.length = min count.toNat members.size)
      (taken : Popped key members popped before after) :
      LegalOutcome before cmd (.array (popped.map .bulk)) after
  | incrbyfloat {key incrBytes : Bytes} {cur incr : FloatArith.F64} {after : MemStore}
      (named : cmd.name = "INCRBYFLOAT") (keyed : cmd.arg 1 = some key)
      (increment : cmd.arg 2 = some incrBytes) (parsed : parseF64 incrBytes = some incr)
      (current : (before.stringCell key).bind cellFloat = some cur)
      (finite : FloatArith.isFinite (FloatArith.add cur incr) = true)
      (written : after.stringCell key = some (some (formatFloat (FloatArith.add cur incr))))
      (others : OthersKept key before after) :
      LegalOutcome before cmd (.bulk (formatFloat (FloatArith.add cur incr))) after
  | hincrbyfloat {key field incrBytes : Bytes} {cur incr : FloatArith.F64} {after : MemStore}
      (named : cmd.name = "HINCRBYFLOAT") (keyed : cmd.arg 1 = some key)
      (fielded : cmd.arg 2 = some field) (increment : cmd.arg 3 = some incrBytes)
      (parsed : parseF64 incrBytes = some incr)
      (current : (before.fieldCell key field).bind cellFloat = some cur)
      (finite : FloatArith.isFinite (FloatArith.add cur incr) = true)
      (written : after.fieldCell key field =
        some (some (formatFloat (FloatArith.add cur incr))))
      (fields : ∀ other, other ≠ field → after.fieldCell key other = before.fieldCell key other)
      (deadlines : after.ttl = before.ttl) (others : OthersKept key before after) :
      LegalOutcome before cmd (.bulk (formatFloat (FloatArith.add cur incr))) after

end Outcomes

/-! ### What the effects do -/

section Effects

theorem parse_named {name : String} (operands : List Bytes)
    (upper : toAsciiUppercase (fromUtf8Lossy (asBytes name)) = name) :
    Command.parse (asBytes name :: operands) =
      some { name, argv := asBytes name :: operands } := by
  rw [Command.parse, upper]

theorem getElem?_insert_of_ne {β : Type} (table : ExtTreeMap Bytes β) {key other : Bytes}
    (different : other ≠ key) (value : β) : (table.insert key value)[other]? = table[other]? := by
  rw [ExtTreeMap.getElem?_insert,
    if_neg (fun same => different (LawfulEqCmp.compare_eq_iff_eq.mp same).symm)]

theorem getElem?_erase_of_ne {β : Type} (table : ExtTreeMap Bytes β) {key other : Bytes}
    (different : other ≠ key) : (table.erase key)[other]? = table[other]? := by
  rw [ExtTreeMap.getElem?_erase,
    if_neg (fun same => different (LawfulEqCmp.compare_eq_iff_eq.mp same).symm)]

theorem othersKept_insert (store : MemStore) (key : Bytes) (value : Value) :
    OthersKept key store { store with data := store.data.insert key value } := by
  constructor
  · intro other different
    exact getElem?_insert_of_ne store.data different value
  · intro other different
    rfl

theorem mem_removeMembers (ms : List Bytes) (removed : Int) (s : ExtTreeSet Bytes) (m : Bytes) :
    m ∈ (MemStore.removeMembers ms removed s).2 ↔ m ∈ s ∧ m ∉ ms := by
  induction ms generalizing removed s with
  | nil => simp [MemStore.removeMembers]
  | cons first rest ih =>
      rw [MemStore.removeMembers, ih, ExtTreeSet.mem_erase, ne_eq, LawfulEqCmp.compare_eq_iff_eq,
        List.mem_cons, not_or]
      constructor
      · rintro ⟨⟨different, member⟩, absent⟩
        exact ⟨member, Ne.symm different, absent⟩
      · rintro ⟨member, different, absent⟩
        exact ⟨⟨Ne.symm different, member⟩, absent⟩

variable [AlwaysSerializable MemStore] {op : WriteOp} {store : MemStore} {key : Bytes}

theorem applyTo_srem {popped : List Bytes} (effect : op.argv = asBytes "SREM" :: key :: popped) :
    op.applyTo store =
      store.applySrem { name := "SREM", argv := asBytes "SREM" :: key :: popped } := by
  unfold WriteOp.applyTo WriteOp.command
  rw [effect, parse_named _ (by decide)]
  rfl

theorem applyTo_set {value : Bytes} (effect : op.argv = [asBytes "SET", key, value]) :
    op.applyTo store =
      (.ok, { store with
        data := store.data.insert key (.str value)
        ttl := store.ttl.erase key }) := by
  unfold WriteOp.applyTo WriteOp.command
  rw [effect, parse_named _ (by decide)]
  rfl

theorem applyTo_hset {field value : Bytes}
    (effect : op.argv = [asBytes "HSET", key, field, value]) :
    op.applyTo store =
      store.applyHset { name := "HSET", argv := [asBytes "HSET", key, field, value] } := by
  unfold WriteOp.applyTo WriteOp.command
  rw [effect, parse_named _ (by decide)]
  rfl

theorem srem_popped {popped : List Bytes} {members : ExtTreeSet Bytes}
    (effect : op.argv = asBytes "SREM" :: key :: popped)
    (held : store.data[key]? = some (.set members)) (distinct : popped.Nodup)
    (present : ∀ m ∈ popped, m ∈ members) :
    Popped key members popped store (op.applyTo store).2 := by
  rw [applyTo_srem effect]
  have remaining := mem_removeMembers popped 0 members
  have applied : (store.applySrem
      { name := "SREM", argv := asBytes "SREM" :: key :: popped }).2 =
        { store with
          data :=
            if (MemStore.removeMembers popped 0 members).2.isEmpty then store.data.erase key
            else store.data.insert key (.set (MemStore.removeMembers popped 0 members).2) } := by
    unfold MemStore.applySrem
    simp only [Command.key, Command.arg, List.getElem?_cons_succ, List.getElem?_cons_zero, held,
      List.drop_succ_cons, List.drop_zero]
  rw [applied]
  generalize (MemStore.removeMembers popped 0 members).2 = rest at remaining
  cases empty : rest.isEmpty with
  | true =>
      refine ⟨held, distinct, present, Or.inl ⟨?_, ?_⟩, ?_, ?_⟩
      · intro m member
        by_contra kept
        have inRest := (remaining m).mpr ⟨member, kept⟩
        rw [ExtTreeSet.isEmpty_iff.mp empty] at inRest
        exact ExtTreeSet.not_mem_empty inRest
      · rw [if_pos rfl, ExtTreeMap.getElem?_erase_self]
      · intro other different
        exact getElem?_erase_of_ne store.data different
      · intro other different
        rfl
  | false =>
      have inhabited : ∃ m, m ∈ rest := by
        by_contra nothing
        have isEmpty := ExtTreeSet.eq_empty_iff_forall_not_mem.mpr (not_exists.mp nothing)
        exact ExtTreeSet.isEmpty_eq_false_iff.mp empty isEmpty
      rw [if_neg Bool.false_ne_true]
      refine ⟨held, distinct, present, Or.inr ⟨rest, ?_, inhabited, remaining, rfl⟩,
        othersKept_insert store key _⟩
      exact ExtTreeMap.getElem?_insert_self

theorem applyTo_hset_cell {field value : Bytes} {cell : Option Bytes}
    (effect : op.argv = [asBytes "HSET", key, field, value])
    (free : store.fieldCell key field = some cell) :
    ∃ h : ExtTreeMap Bytes Bytes,
      (op.applyTo store).1.isError = false ∧
        (op.applyTo store).2 =
          { store with data := store.data.insert key (.hash (h.insert field value)) } ∧
        ∀ other, store.fieldCell key other = some h[other]? := by
  rw [applyTo_hset effect]
  unfold MemStore.applyHset
  simp only [Command.key, Command.arg, List.getElem?_cons_succ, List.getElem?_cons_zero,
    List.length_cons, List.length_nil, List.drop_succ_cons, List.drop_zero]
  unfold MemStore.fieldCell at free ⊢
  cases under : store.data[key]? with
  | none =>
      refine ⟨∅, rfl, rfl, ?_⟩
      intro other
      exact congrArg some ExtTreeMap.getElem?_empty.symm
  | some value =>
      cases value with
      | hash h => exact ⟨h, rfl, rfl, fun other => rfl⟩
      | str bytes =>
          rw [under] at free
          cases free
      | set members =>
          rw [under] at free
          cases free

end Effects

/-! ### What resolving fixes -/

section Resolving

variable [AlwaysSerializable MemStore] {now : SystemTime} {cmd : Command} {store : MemStore}
  {argv : List Bytes} {clientReply : Reply}

/-- The members a resolved pop hands out, and the reply that carries them. -/
inductive SpopEffect (cmd : Command) (members : List Bytes) : List Bytes → Reply → Prop
  | one {m : Bytes} {rest : List Bytes} (single : cmd.arg 2 = none) (first : members = m :: rest) :
      SpopEffect cmd members [m] (.bulk m)
  | many {countBytes : Bytes} {count : Int} (counted : cmd.arg 2 = some countBytes)
      (value : MemStore.asInt countBytes = some count) (found : members.take count.toNat ≠ []) :
      SpopEffect cmd members (members.take count.toNat)
        (.array ((members.take count.toNat).map .bulk))

theorem query_smembers (key : Bytes) :
    RedisStore.query store now (q "SMEMBERS" [key]) =
      match store.data[key]? with
      | some (.set s) => MemStore.bulks s.toList
      | some _ => wrongtype
      | none => .array [] := by
  have upper : toAsciiUppercase (fromUtf8Lossy (asBytes "SMEMBERS")) = "SMEMBERS" := by decide
  rw [q, upper]
  rfl

omit [AlwaysSerializable MemStore] in
theorem bulkItems_bulks (items : List Bytes) : bulkItems (items.map .bulk) = items := by
  induction items with
  | nil => rfl
  | cons item rest ih => exact congrArg (item :: ·) ih

omit [AlwaysSerializable MemStore] in
theorem spop_broadcast {key : Bytes} {members : List Bytes}
    (popped : (match cmd.arg 2 with
      | none => spopOne key members
      | some countBytes => spopCount key members countBytes) = .broadcast argv clientReply) :
    ∃ handed, argv = asBytes "SREM" :: key :: handed ∧
      SpopEffect cmd members handed clientReply := by
  cases counted : cmd.arg 2 with
  | none =>
      rw [counted] at popped
      cases members with
      | nil => cases popped
      | cons m rest =>
          cases popped
          exact ⟨[m], rfl, .one counted rfl⟩
  | some countBytes =>
      rw [counted] at popped
      change spopCount key members countBytes = _ at popped
      unfold spopCount at popped
      cases value : (fromUtf8 countBytes).bind (fun text => parseI64 (trim text)) with
      | none =>
          rw [value] at popped
          cases popped
      | some count =>
          have positive : (max count 0).toNat = count.toNat := by omega
          simp only [value, positive] at popped
          split at popped
          · cases popped
          · rename_i found
            cases popped
            exact ⟨_, rfl, .many counted value (by simpa using found)⟩

theorem resolveSpop_broadcast
    (resolved : resolveSpop now cmd store = .broadcast argv clientReply) :
    ∃ key members handed, cmd.key = some key ∧ store.data[key]? = some (.set members) ∧
      argv = asBytes "SREM" :: key :: handed ∧
        SpopEffect cmd members.toList handed clientReply := by
  unfold resolveSpop at resolved
  cases keyed : cmd.key with
  | none =>
      rw [keyed] at resolved
      cases resolved
  | some key =>
      simp only [keyed, query_smembers] at resolved
      cases under : store.data[key]? with
      | none =>
          simp only [under] at resolved
          obtain ⟨handed, _, effect⟩ := spop_broadcast resolved
          cases effect with
          | one single first => cases first
          | many counted value found => exact absurd List.take_nil found
      | some value =>
          cases value with
          | set members =>
              simp only [under, MemStore.bulks, bulkItems_bulks] at resolved
              obtain ⟨handed, written, effect⟩ := spop_broadcast resolved
              exact ⟨key, members, handed, rfl, under, written, effect⟩
          | str bytes =>
              simp only [under, wrongtype] at resolved
              cases resolved
          | hash h =>
              simp only [under, wrongtype] at resolved
              cases resolved

def cellReply : Option (Option Bytes) → Reply
  | some (some b) => .bulk b
  | some none => .nil
  | none => wrongtype

theorem query_get (key : Bytes) :
    RedisStore.query store now (q "GET" [key]) = cellReply (store.stringCell key) := by
  have upper : toAsciiUppercase (fromUtf8Lossy (asBytes "GET")) = "GET" := by decide
  rw [q, upper]
  change (match store.data[key]? with
    | some (.str s) => Reply.bulk s
    | some _ => wrongtype
    | none => Reply.nil) = _
  unfold MemStore.stringCell
  cases store.data[key]? with
  | none => rfl
  | some value => cases value <;> rfl

theorem query_hget (key field : Bytes) :
    RedisStore.query store now (q "HGET" [key, field]) =
      cellReply (store.fieldCell key field) := by
  have upper : toAsciiUppercase (fromUtf8Lossy (asBytes "HGET")) = "HGET" := by decide
  rw [q, upper]
  change (match store.data[key]? with
    | some (.hash h) =>
        match h[field]? with
        | some v => Reply.bulk v
        | none => Reply.nil
    | some _ => wrongtype
    | none => Reply.nil) = _
  unfold MemStore.fieldCell
  cases store.data[key]? with
  | none => rfl
  | some value =>
      cases value with
      | hash h =>
          simp only
          cases h[field]? <;> rfl
      | str bytes => rfl
      | set members => rfl

variable [FloatArith]

omit [AlwaysSerializable MemStore] in
theorem resolveFloat_broadcast {cell : Option (Option Bytes)} {incr : FloatArith.F64}
    {badCurrent : Reply} {effect : Bytes → List Bytes} :
    resolveFloat (cellReply cell) incr badCurrent effect = .broadcast argv clientReply ↔
      ∃ cur, cell.bind cellFloat = some cur ∧
        FloatArith.isFinite (FloatArith.add cur incr) = true ∧
          argv = effect (formatFloat (FloatArith.add cur incr)) ∧
            clientReply = .bulk (formatFloat (FloatArith.add cur incr)) := by
  have adding (cur : FloatArith.F64) :
      (if FloatArith.isFinite (FloatArith.add cur incr) = true then
          Resolution.broadcast (effect (formatFloat (FloatArith.add cur incr)))
            (.bulk (formatFloat (FloatArith.add cur incr)))
        else .immediate (.error "ERR increment would produce NaN or Infinity")) =
          .broadcast argv clientReply ↔
        FloatArith.isFinite (FloatArith.add cur incr) = true ∧
          argv = effect (formatFloat (FloatArith.add cur incr)) ∧
            clientReply = .bulk (formatFloat (FloatArith.add cur incr)) := by
    split
    · rename_i finite
      simp only [Resolution.broadcast.injEq, finite, true_and]
      constructor
      · rintro ⟨rfl, rfl⟩
        exact ⟨rfl, rfl⟩
      · rintro ⟨rfl, rfl⟩
        exact ⟨rfl, rfl⟩
    · rename_i infinite
      simp [infinite]
  cases cell with
  | none => simp [cellReply, wrongtype, resolveFloat]
  | some content =>
      cases content with
      | none => simp [cellReply, resolveFloat, cellFloat, adding]
      | some b =>
          simp only [cellReply, resolveFloat, Option.bind_some, cellFloat]
          cases parseF64 b with
          | none => simp
          | some cur => simp [adding]

theorem resolveIncrbyfloat_broadcast :
    resolveIncrbyfloat now cmd store = .broadcast argv clientReply ↔
      ∃ key incrBytes incr cur, cmd.arg 1 = some key ∧ cmd.arg 2 = some incrBytes ∧
        parseF64 incrBytes = some incr ∧ (store.stringCell key).bind cellFloat = some cur ∧
          FloatArith.isFinite (FloatArith.add cur incr) = true ∧
            argv = [asBytes "SET", key, formatFloat (FloatArith.add cur incr)] ∧
              clientReply = .bulk (formatFloat (FloatArith.add cur incr)) := by
  unfold resolveIncrbyfloat
  cases cmd.arg 1 with
  | none => simp
  | some key =>
      cases cmd.arg 2 with
      | none => simp
      | some incrBytes =>
          cases parsed : parseF64 incrBytes with
          | none => simp [parsed]
          | some incr => simp [parsed, query_get, resolveFloat_broadcast]

theorem resolveHincrbyfloat_broadcast :
    resolveHincrbyfloat now cmd store = .broadcast argv clientReply ↔
      ∃ key field incrBytes incr cur, cmd.arg 1 = some key ∧ cmd.arg 2 = some field ∧
        cmd.arg 3 = some incrBytes ∧ parseF64 incrBytes = some incr ∧
          (store.fieldCell key field).bind cellFloat = some cur ∧
            FloatArith.isFinite (FloatArith.add cur incr) = true ∧
              argv = [asBytes "HSET", key, field, formatFloat (FloatArith.add cur incr)] ∧
                clientReply = .bulk (formatFloat (FloatArith.add cur incr)) := by
  unfold resolveHincrbyfloat
  cases cmd.arg 1 with
  | none => simp
  | some key =>
      cases cmd.arg 2 with
      | none => simp
      | some field =>
          cases cmd.arg 3 with
          | none => simp
          | some incrBytes =>
              cases parsed : parseF64 incrBytes with
              | none => simp [parsed]
              | some incr => simp [parsed, query_hget, resolveFloat_broadcast]

end Resolving

/-! ### The outcome at the delivery position -/

theorem applyDeliveredOpParts_released {σ : Type} [RedisStore σ] {op : WriteOp}
    {parts after : Parts σ} {reply : Reply}
    (released : applyDeliveredOpParts op parts = (some reply, after)) :
    reply = op.clientReply.getD (op.applyTo parts.store).1 ∧
      after.store = applyOp parts.store op := by
  cases dup : parts.dedup.isDup op.origin op.requestId with
  | true =>
      rw [applyDeliveredOpParts_dup dup] at released
      cases released
  | false =>
      rw [applyDeliveredOpParts_fresh dup] at released
      cases released
      exact ⟨rfl, rfl⟩

section Window

variable [AlwaysSerializable MemStore] [FloatArith] {now : SystemTime} {cmd : Command}
  {store delivered : MemStore} {argv : List Bytes} {clientReply : Reply}

def handedOut : Reply → List Bytes
  | .bulk m => [m]
  | .array items => bulkItems items
  | _ => []

/-- What was resolved still stands in the store it is delivered into: a pop's
members are all there, as many as the command asks of the set; a sum comes out
the same when it is resolved once more. -/
def StillStands (now : SystemTime) (cmd : Command) (argv : List Bytes) (clientReply : Reply)
    (delivered : MemStore) : Prop :=
  if cmd.name = "SPOP" then
    ∃ key members, cmd.key = some key ∧ delivered.data[key]? = some (.set members) ∧
      (∀ m ∈ handedOut clientReply, m ∈ members) ∧
        ∀ countBytes count, cmd.arg 2 = some countBytes →
          MemStore.asInt countBytes = some count →
            (handedOut clientReply).length = min count.toNat members.size
  else resolve now cmd delivered = .broadcast argv clientReply

omit [AlwaysSerializable MemStore] [FloatArith] in
theorem SpopEffect.handedOut_eq {members handed : List Bytes}
    (effect : SpopEffect cmd members handed clientReply) : handedOut clientReply = handed := by
  cases effect with
  | one single first => rfl
  | many counted value found => exact bulkItems_bulks _

omit [AlwaysSerializable MemStore] [FloatArith] in
theorem SpopEffect.sublist {members handed : List Bytes}
    (effect : SpopEffect cmd members handed clientReply) : handed.Sublist members := by
  cases effect with
  | one single first =>
      rw [first]
      exact (List.Sublist.refl [_]).append (List.nil_sublist _)
  | many counted value found => exact List.take_sublist _ _

omit [AlwaysSerializable MemStore] [FloatArith] in
theorem nodup_toList (members : ExtTreeSet Bytes) : members.toList.Nodup := by
  have distinct := members.distinct_toList
  simpa [List.Nodup] using distinct

theorem resolve_broadcast_name (resolved : resolve now cmd store = .broadcast argv clientReply) :
    (cmd.name = "SPOP" ∧ resolveSpop now cmd store = .broadcast argv clientReply) ∨
      (cmd.name = "INCRBYFLOAT" ∧
        resolveIncrbyfloat now cmd store = .broadcast argv clientReply) ∨
      (cmd.name = "HINCRBYFLOAT" ∧
        resolveHincrbyfloat now cmd store = .broadcast argv clientReply) := by
  unfold resolve at resolved
  split at resolved
  · rename_i named
    exact Or.inl ⟨named, resolved⟩
  · rename_i named
    exact Or.inr (Or.inl ⟨named, resolved⟩)
  · rename_i named
    exact Or.inr (Or.inr ⟨named, resolved⟩)
  · cases resolved

theorem spop_legal_iff (named : cmd.name = "SPOP")
    (resolved : resolveSpop now cmd store = .broadcast argv clientReply) {op : WriteOp}
    (effect : op.argv = argv) :
    LegalOutcome delivered cmd clientReply (op.applyTo delivered).2 ↔
      StillStands now cmd argv clientReply delivered := by
  obtain ⟨key, members, handed, keyed, _, rfl, popped⟩ := resolveSpop_broadcast resolved
  have distinct : handed.Nodup := (nodup_toList members).sublist popped.sublist
  have handing := popped.handedOut_eq
  rw [StillStands, if_pos named]
  constructor
  · intro legal
    cases legal with
    | pop _ keyed' single taken =>
        refine ⟨_, _, keyed', taken.held, taken.present, ?_⟩
        intro countBytes count counted
        rw [single] at counted
        cases counted
    | popCount _ keyed' counted value many taken =>
        refine ⟨_, _, keyed', taken.held, ?_, ?_⟩
        · intro m member
          rw [handedOut, bulkItems_bulks] at member
          exact taken.present m member
        · intro countBytes count counted' value'
          rw [counted] at counted'
          cases counted'
          rw [value] at value'
          cases value'
          rw [handedOut, bulkItems_bulks]
          exact many
    | incrbyfloat other => exact absurd (named.symm.trans other) (by decide)
    | hincrbyfloat other => exact absurd (named.symm.trans other) (by decide)
  · rintro ⟨key', now_, keyed', under, present, many⟩
    rw [keyed] at keyed'
    cases keyed'
    rw [handing] at present many
    have taken := srem_popped effect under distinct present
    cases popped with
    | one single first => exact .pop named keyed single taken
    | many counted value found =>
        exact .popCount named keyed counted value (many _ _ counted value) taken

theorem incrbyfloat_legal_iff (named : cmd.name = "INCRBYFLOAT")
    (resolved : resolveIncrbyfloat now cmd store = .broadcast argv clientReply) {op : WriteOp}
    (effect : op.argv = argv) :
    LegalOutcome delivered cmd clientReply (op.applyTo delivered).2 ↔
      StillStands now cmd argv clientReply delivered := by
  obtain ⟨key, incrBytes, incr, cur, keyed, increment, parsed, _, _, rfl, rfl⟩ :=
    resolveIncrbyfloat_broadcast.mp resolved
  have again : resolve now cmd delivered = resolveIncrbyfloat now cmd delivered := by
    unfold resolve
    rw [named]
    rfl
  rw [StillStands, if_neg (by rw [named]; decide), again, resolveIncrbyfloat_broadcast]
  constructor
  · intro legal
    generalize replied : Reply.bulk (formatFloat (FloatArith.add cur incr)) = reply at legal
    cases legal with
    | pop other => exact absurd (named.symm.trans other) (by decide)
    | popCount other => exact absurd (named.symm.trans other) (by decide)
    | hincrbyfloat other => exact absurd (named.symm.trans other) (by decide)
    | incrbyfloat _ keyed' increment' parsed' current finite written others =>
        have same := Reply.bulk.inj replied
        rw [keyed] at keyed'
        cases keyed'
        exact ⟨_, _, _, _, keyed, increment', parsed', current, finite, by rw [same], rfl⟩
  · rintro ⟨key', incrBytes', incr', cur', keyed', increment', parsed', current, finite, written,
      replied⟩
    rw [keyed] at keyed'
    cases keyed'
    rw [replied]
    refine .incrbyfloat named keyed increment' parsed' current finite ?_ ?_
    · rw [applyTo_set (effect.trans written), MemStore.stringCell]
      simp only [ExtTreeMap.getElem?_insert_self]
    · rw [applyTo_set (effect.trans written)]
      constructor
      · intro other different
        exact getElem?_insert_of_ne _ different _
      · intro other different
        exact getElem?_erase_of_ne _ different

theorem hincrbyfloat_legal_iff (named : cmd.name = "HINCRBYFLOAT")
    (resolved : resolveHincrbyfloat now cmd store = .broadcast argv clientReply) {op : WriteOp}
    (effect : op.argv = argv) :
    LegalOutcome delivered cmd clientReply (op.applyTo delivered).2 ↔
      StillStands now cmd argv clientReply delivered := by
  obtain ⟨key, field, incrBytes, incr, cur, keyed, fielded, increment, parsed, _, _, rfl, rfl⟩ :=
    resolveHincrbyfloat_broadcast.mp resolved
  have again : resolve now cmd delivered = resolveHincrbyfloat now cmd delivered := by
    unfold resolve
    rw [named]
    rfl
  rw [StillStands, if_neg (by rw [named]; decide), again, resolveHincrbyfloat_broadcast]
  constructor
  · intro legal
    generalize replied : Reply.bulk (formatFloat (FloatArith.add cur incr)) = reply at legal
    cases legal with
    | pop other => exact absurd (named.symm.trans other) (by decide)
    | popCount other => exact absurd (named.symm.trans other) (by decide)
    | incrbyfloat other => exact absurd (named.symm.trans other) (by decide)
    | hincrbyfloat _ keyed' fielded' increment' parsed' current finite written fields =>
        have same := Reply.bulk.inj replied
        rw [keyed] at keyed'
        cases keyed'
        rw [fielded] at fielded'
        cases fielded'
        exact ⟨_, _, _, _, _, keyed, fielded, increment', parsed', current, finite,
          by rw [same], rfl⟩
  · rintro ⟨key', field', incrBytes', incr', cur', keyed', fielded', increment', parsed', current,
      finite, written, replied⟩
    rw [keyed] at keyed'
    cases keyed'
    rw [fielded] at fielded'
    cases fielded'
    obtain ⟨cell, free, _⟩ := Option.bind_eq_some_iff.mp current
    obtain ⟨h, _, applied, cells⟩ := applyTo_hset_cell (effect.trans written) free
    have after (other : Bytes) : (op.applyTo delivered).2.fieldCell key other =
        some (h.insert field (formatFloat (FloatArith.add cur' incr')))[other]? := by
      rw [applied, MemStore.fieldCell]
      simp only [ExtTreeMap.getElem?_insert_self]
    rw [replied]
    refine .hincrbyfloat named keyed fielded increment' parsed' current finite ?_ ?_ ?_ ?_
    · rw [after, ExtTreeMap.getElem?_insert_self]
    · intro other different
      rw [after, getElem?_insert_of_ne _ different, cells]
    · rw [applied]
    · rw [applied]
      exact othersKept_insert delivered key _

theorem resolved_legal_iff (resolved : resolve now cmd store = .broadcast argv clientReply)
    {op : WriteOp} (effect : op.argv = argv) :
    LegalOutcome delivered cmd clientReply (op.applyTo delivered).2 ↔
      StillStands now cmd argv clientReply delivered := by
  rcases resolve_broadcast_name resolved with ⟨named, here⟩ | ⟨named, here⟩ | ⟨named, here⟩
  · exact spop_legal_iff named here effect
  · exact incrbyfloat_legal_iff named here effect
  · exact hincrbyfloat_legal_iff named here effect

theorem unchanged_stillStands (resolved : resolve now cmd store = .broadcast argv clientReply)
    (unchanged : ∀ key, cmd.key = some key → delivered.data[key]? = store.data[key]?) :
    StillStands now cmd argv clientReply delivered := by
  unfold StillStands
  rcases resolve_broadcast_name resolved with ⟨named, here⟩ | ⟨named, here⟩ | ⟨named, here⟩
  · obtain ⟨key, members, handed, keyed, under, _, effect⟩ := resolveSpop_broadcast here
    rw [if_pos named, effect.handedOut_eq]
    refine ⟨key, members, keyed, (unchanged key keyed).trans under, ?_, ?_⟩
    · intro m member
      exact ExtTreeSet.mem_toList.mp (effect.sublist.mem member)
    · intro countBytes count counted value
      cases effect with
      | one single first =>
          rw [single] at counted
          cases counted
      | many counted' value' found =>
          rw [counted'] at counted
          cases counted
          rw [value'] at value
          cases value
          rw [List.length_take, ExtTreeSet.length_toList]
  · rw [if_neg (by rw [named]; decide)]
    obtain ⟨key, incrBytes, incr, cur, keyed, increment, parsed, current, finite, written,
      replied⟩ := resolveIncrbyfloat_broadcast.mp here
    have same : delivered.stringCell key = store.stringCell key := by
      unfold MemStore.stringCell
      rw [unchanged key keyed]
    unfold resolve
    rw [named]
    rw [← same] at current
    exact resolveIncrbyfloat_broadcast.mpr ⟨key, incrBytes, incr, cur, keyed, increment, parsed,
      current, finite, written, replied⟩
  · rw [if_neg (by rw [named]; decide)]
    obtain ⟨key, field, incrBytes, incr, cur, keyed, fielded, increment, parsed, current, finite,
      written, replied⟩ := resolveHincrbyfloat_broadcast.mp here
    have same : delivered.fieldCell key field = store.fieldCell key field := by
      unfold MemStore.fieldCell
      rw [unchanged key keyed]
    unfold resolve
    rw [named]
    rw [← same] at current
    exact resolveHincrbyfloat_broadcast.mpr ⟨key, field, incrBytes, incr, cur, keyed, fielded,
      increment, parsed, current, finite, written, replied⟩

/-- Whatever was delivered since the resolution, the released reply and the
store it leaves are an outcome of the original command at the delivery position
exactly when what was resolved still stands there; it does when nothing under
the command's key changed. -/
theorem resolved_outcome_legal_iff (resolvedAt : Parts MemStore) (between : List WriteOp)
    (origin requestId : Nat) (reply : Reply) (after : Parts MemStore)
    (resolved : resolve now cmd resolvedAt.store = .broadcast argv clientReply)
    (released : applyDeliveredOpParts
      (WriteOp.forRequest origin requestId argv (some clientReply))
        (resolvedAt.deliverAll between) = (some reply, after)) :
    (LegalOutcome (resolvedAt.deliverAll between).store cmd reply after.store ↔
      StillStands now cmd argv clientReply (resolvedAt.deliverAll between).store) ∧
    ((∀ key, cmd.key = some key →
        (resolvedAt.deliverAll between).store.data[key]? = resolvedAt.store.data[key]?) →
      LegalOutcome (resolvedAt.deliverAll between).store cmd reply after.store) := by
  have outcome := (applyDeliveredOpParts_released released).2
  have told : reply = clientReply := (applyDeliveredOpParts_released released).1
  subst told
  rw [outcome]
  have legal : LegalOutcome (resolvedAt.deliverAll between).store cmd reply
        (applyOp (resolvedAt.deliverAll between).store
          (WriteOp.forRequest origin requestId argv (some reply))) ↔
      StillStands now cmd argv reply (resolvedAt.deliverAll between).store :=
    resolved_legal_iff resolved rfl
  exact ⟨legal, fun unchanged => legal.mpr (unchanged_stillStands resolved unchanged)⟩

end Window

/-! ### A pop, an increment and what may come between -/

section Sample

open scoped LoopbackRing

def pool : Parts MemStore :=
  Parts.deliverAll ⟨MemStore.new, WriteDedup.new, DeliveredLog.default⟩
    [WriteOp.new 1 0 [asBytes "SADD", asBytes "s", asBytes "a"],
      WriteOp.new 1 1 (LoopbackRing.set "x" "10")]

def pop : Command := { name := "SPOP", argv := [asBytes "SPOP", asBytes "s"] }

def poppedBy (origin : ProcId) : WriteOp :=
  WriteOp.forRequest origin 7 [asBytes "SREM", asBytes "s", asBytes "a"]
    (some (.bulk (asBytes "a")))

def increment (by_ : String) : Command :=
  { name := "INCRBYFLOAT", argv := [asBytes "INCRBYFLOAT", asBytes "x", asBytes by_] }

def raisedBy (origin : ProcId) (sum : String) : WriteOp :=
  WriteOp.forRequest origin 7 (LoopbackRing.set "x" sum) (some (.bulk (asBytes sum)))

def addB : WriteOp := WriteOp.new 1 2 [asBytes "SADD", asBytes "s", asBytes "b"]

theorem resolved_outcome_legal_iff_pop :
    LegalOutcome (pool.deliverAll [addB]).store pop (.bulk (asBytes "a"))
      ((pool.deliverAll [addB]).deliver (poppedBy 0)).store := by
  have resolved : resolve ⟨0, 0⟩ pop pool.store =
      .broadcast (poppedBy 0).argv (.bulk (asBytes "a")) := by rfl
  apply (resolved_outcome_legal_iff pool [addB] 0 7 _ _ resolved (by rfl)).1.mpr
  refine ⟨asBytes "s", _, by rfl, by rfl, by decide, ?_⟩
  intro countBytes count counted
  cases counted

/-- One member reaches two poppers, and one increment overwrites another that
was answered before it. -/
theorem stale_effects_not_legal :
    (resolve ⟨0, 0⟩ pop pool.store =
        .broadcast (poppedBy 0).argv (.bulk (asBytes "a")) ∧
      (applyDeliveredOpParts (poppedBy 0) (pool.deliver (poppedBy 1))).1 =
        some (.bulk (asBytes "a")) ∧
      ¬LegalOutcome (pool.deliver (poppedBy 1)).store pop (.bulk (asBytes "a"))
        ((pool.deliver (poppedBy 1)).deliver (poppedBy 0)).store) ∧
    (resolve ⟨0, 0⟩ (increment "7") pool.store =
        .broadcast (raisedBy 1 "17").argv (.bulk (asBytes "17")) ∧
      resolve ⟨0, 0⟩ (increment "5") pool.store =
        .broadcast (raisedBy 0 "15").argv (.bulk (asBytes "15")) ∧
      (applyDeliveredOpParts (raisedBy 0 "15") (pool.deliver (raisedBy 1 "17"))).1 =
        some (.bulk (asBytes "15")) ∧
      ¬LegalOutcome (pool.deliver (raisedBy 1 "17")).store (increment "5")
        (.bulk (asBytes "15"))
          ((pool.deliver (raisedBy 1 "17")).deliver (raisedBy 0 "15")).store) := by
  have popResolved : resolve ⟨0, 0⟩ pop pool.store =
      .broadcast (poppedBy 0).argv (.bulk (asBytes "a")) := by rfl
  have sumResolved : resolve ⟨0, 0⟩ (increment "5") pool.store =
      .broadcast (raisedBy 0 "15").argv (.bulk (asBytes "15")) := by rfl
  refine ⟨⟨popResolved, by rfl, ?_⟩, by rfl, sumResolved, by rfl, ?_⟩
  · intro legal
    rw [Parts.deliver_fresh (by decide)] at legal
    obtain ⟨key, members, keyed, under, _⟩ := (resolved_legal_iff popResolved rfl).mp legal
    cases keyed
    cases under
  · intro legal
    rw [Parts.deliver_fresh (by decide)] at legal
    have again := (resolved_legal_iff sumResolved rfl).mp legal
    rw [StillStands, if_neg (by decide)] at again
    revert again
    decide

end Sample

end TrainsValkey
