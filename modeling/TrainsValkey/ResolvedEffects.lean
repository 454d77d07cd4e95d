import TrainsValkey.StoreWrites

/-
A resolved effect applied to the store it was resolved against.

`INCRBYFLOAT` and `HINCRBYFLOAT` become `SET` and `HSET`, commands with side
effects of their own, and `SPOP` becomes the `SREM` of members that another
command has read.  Here the effect runs at once, with nothing in between.
-/

set_option autoImplicit false

namespace TrainsValkey

open Std (ExtTreeMap ExtTreeSet)

/-! ### Float increments -/

section Floats

variable [AlwaysSerializable MemStore]

/-- The frame of an increment: it answers without an error, changes the value
it addresses and no other value, field or deadline, and that value then reads
as the client was told. -/
structure IncrementFrame (now : SystemTime) (cmd : Command) (clientReply : Reply)
    (before : MemStore) (reply : Reply) (after : MemStore) : Prop where
  succeeds : reply.isError = false
  others : ∀ other, cmd.arg 1 ≠ some other → after.data[other]? = before.data[other]?
  fields : ∀ key other, cmd.name = "HINCRBYFLOAT" → cmd.arg 1 = some key →
    cmd.arg 2 ≠ some other → after.fieldCell key other = before.fieldCell key other
  deadlines : after.ttl = before.ttl
  reads : ∀ key, cmd.name = "INCRBYFLOAT" → cmd.arg 1 = some key →
    RedisStore.query after now (q "GET" [key]) = clientReply
  readsField : ∀ key field, cmd.name = "HINCRBYFLOAT" → cmd.arg 1 = some key →
    cmd.arg 2 = some field → RedisStore.query after now (q "HGET" [key, field]) = clientReply

variable [FloatArith] {now : SystemTime} {cmd : Command} {store : MemStore} {op : WriteOp}
  {clientReply : Reply}

omit [AlwaysSerializable MemStore] [FloatArith] in
theorem erase_eq_self_iff {β : Type} {table : ExtTreeMap Bytes β} {key : Bytes} :
    table.erase key = table ↔ key ∉ table := by
  constructor
  · intro same member
    rw [← same] at member
    exact (mem_erase_bytes.mp member).1 rfl
  · intro absent
    apply ExtTreeMap.ext_getElem?
    intro other
    by_cases same : other = key
    · subst same
      rw [ExtTreeMap.getElem?_erase_self, getElem?_none_iff.mpr absent]
    · exact getElem?_erase_of_ne table same

theorem incrbyfloat_frame_iff (named : cmd.name = "INCRBYFLOAT")
    (resolved : resolve now cmd store = .broadcast op.argv clientReply) :
    IncrementFrame now cmd clientReply store (op.applyTo store).1 (op.applyTo store).2 ↔
      ∀ key, cmd.arg 1 = some key → key ∉ store.ttl := by
  unfold resolve at resolved
  rw [named] at resolved
  obtain ⟨key, incrBytes, incr, cur, keyed, _, _, _, _, written, replied⟩ :=
    resolveIncrbyfloat_broadcast.mp resolved
  rw [applyTo_set written]
  constructor
  · intro frame key' keyed'
    rw [keyed] at keyed'
    cases keyed'
    exact erase_eq_self_iff.mp frame.deadlines
  · intro unset
    constructor
    · rfl
    · intro other different
      exact getElem?_insert_of_ne store.data (fun same => different (by rw [keyed, same])) _
    · intro _ _ hashed
      exact absurd (named.symm.trans hashed) (by decide)
    · exact erase_eq_self_iff.mpr (unset key keyed)
    · intro key' _ keyed'
      rw [keyed] at keyed'
      cases keyed'
      rw [query_get, MemStore.stringCell, ExtTreeMap.getElem?_insert_self, replied]
      rfl
    · intro _ _ hashed
      exact absurd (named.symm.trans hashed) (by decide)

theorem hincrbyfloat_frame (named : cmd.name = "HINCRBYFLOAT")
    (resolved : resolve now cmd store = .broadcast op.argv clientReply) :
    IncrementFrame now cmd clientReply store (op.applyTo store).1 (op.applyTo store).2 := by
  unfold resolve at resolved
  rw [named] at resolved
  obtain ⟨key, field, incrBytes, incr, cur, keyed, fielded, _, _, current, _, written, replied⟩ :=
    resolveHincrbyfloat_broadcast.mp resolved
  obtain ⟨content, free, _⟩ := Option.bind_eq_some_iff.mp current
  obtain ⟨h, succeeded, after, cells⟩ := applyTo_hset_cell written free
  rw [after]
  have opened : ∀ other, MemStore.fieldCell { store with
      data := store.data.insert key (.hash (h.insert field (formatFloat (FloatArith.add cur incr)))) }
        key other = some (h.insert field (formatFloat (FloatArith.add cur incr)))[other]? := by
    intro other
    simp only [MemStore.fieldCell, ExtTreeMap.getElem?_insert_self]
  constructor
  · exact succeeded
  · intro other different
    exact getElem?_insert_of_ne store.data (fun same => different (by rw [keyed, same])) _
  · intro key' other _ keyed' different
    rw [keyed] at keyed'
    cases keyed'
    rw [opened, cells, getElem?_insert_of_ne h (fun same => different (by rw [fielded, same]))]
  · rfl
  · intro _ single
    exact absurd (named.symm.trans single) (by decide)
  · intro key' field' _ keyed' fielded'
    rw [keyed] at keyed'
    cases keyed'
    rw [fielded] at fielded'
    cases fielded'
    rw [query_hget, opened, ExtTreeMap.getElem?_insert_self, replied]
    rfl

/-- A resolved float increment has the frame of an increment exactly when it
is not an `INCRBYFLOAT` of a key with a recorded deadline. -/
theorem float_increment_frame_iff (named : cmd.name = "INCRBYFLOAT" ∨ cmd.name = "HINCRBYFLOAT")
    (resolved : resolve now cmd store = .broadcast op.argv clientReply) :
    IncrementFrame now cmd clientReply store (op.applyTo store).1 (op.applyTo store).2 ↔
      ∀ key, cmd.name = "INCRBYFLOAT" → cmd.arg 1 = some key → key ∉ store.ttl := by
  rcases named with single | hashed
  · rw [incrbyfloat_frame_iff single resolved]
    exact ⟨fun unset key _ => unset key, fun unset key => unset key single⟩
  · refine iff_of_true (hincrbyfloat_frame hashed resolved) ?_
    intro key single
    exact absurd (hashed.symm.trans single) (by decide)

end Floats

/-! ### Pops -/

section Pops

variable [AlwaysSerializable MemStore] {now : SystemTime} {cmd : Command} {store : MemStore}
  {op : WriteOp} {clientReply : Reply}

def Command.popCount (cmd : Command) : Option Int :=
  match cmd.arg 2 with
  | none => some 1
  | some countBytes => MemStore.asInt countBytes

def popReply (cmd : Command) (popped : List Bytes) : Reply :=
  match cmd.arg 2, popped with
  | none, [m] => .bulk m
  | _, _ => .array (popped.map .bulk)

/-- The reply lists distinct members of the set, as many as were asked for or
all there are, and they and nothing else have left the store. -/
structure PopsCorrectly (cmd : Command) (clientReply : Reply) (before : MemStore) (reply : Reply)
    (after : MemStore) (key : Bytes) (members : ExtTreeSet Bytes) (popped : List Bytes) : Prop where
  keyed : cmd.key = some key
  listed : clientReply = popReply cmd popped
  counted : ∃ count, cmd.popCount = some count ∧ 0 < count ∧
    popped.length = min count.toNat members.size
  some : popped ≠ []
  replied : reply = .integer popped.length
  taken : Popped key members popped before after

/-- Why a pop has nothing to do, and what it answers. -/
inductive NothingPopped (store : MemStore) (cmd : Command) : Reply → Prop
  | unkeyed (missing : cmd.key = none) : NothingPopped store cmd (wrongargs "spop")
  | otherType {key : Bytes} {value : Value} (keyed : cmd.key = some key)
      (held : store.data[key]? = some value) (other : ∀ members, value ≠ .set members) :
      NothingPopped store cmd wrongtype
  | unreadable (bad : cmd.popCount = none) : NothingPopped store cmd MemStore.notAnInteger
  | empty {key : Bytes} (keyed : cmd.key = some key) (single : cmd.arg 2 = none)
      (absent : store.data[key]? = none ∨ store.data[key]? = some (.set ∅)) :
      NothingPopped store cmd .nil
  | notPositive {count : Int} (counted : cmd.popCount = some count) (low : count ≤ 0) :
      NothingPopped store cmd (.array [])
  | emptyMany {key : Bytes} (keyed : cmd.key = some key)
      (absent : store.data[key]? = none ∨ store.data[key]? = some (.set ∅)) :
      NothingPopped store cmd (.array [])

omit [AlwaysSerializable MemStore] in
theorem removeMembers_count (ms : List Bytes) (removed : Int) (s : ExtTreeSet Bytes)
    (distinct : ms.Nodup) (present : ∀ m ∈ ms, m ∈ s) :
    (MemStore.removeMembers ms removed s).1 = removed + ms.length := by
  induction ms generalizing removed s with
  | nil => simp [MemStore.removeMembers]
  | cons m rest ih =>
      have held : s.contains m = true :=
        ExtTreeSet.contains_iff_mem.mpr (present m List.mem_cons_self)
      obtain ⟨fresh, restDistinct⟩ := List.nodup_cons.mp distinct
      have left : ∀ other ∈ rest, other ∈ s.erase m := by
        intro other member
        rw [ExtTreeSet.mem_erase, ne_eq, Std.LawfulEqCmp.compare_eq_iff_eq]
        refine ⟨?_, present other (List.mem_cons_of_mem m member)⟩
        rintro rfl
        exact fresh member
      rw [MemStore.removeMembers, ih _ _ restDistinct left, if_pos held, List.length_cons]
      omega

theorem srem_counted {key : Bytes} {members : ExtTreeSet Bytes} {popped : List Bytes}
    (effect : op.argv = asBytes "SREM" :: key :: popped)
    (held : store.data[key]? = some (.set members)) (distinct : popped.Nodup)
    (present : ∀ m ∈ popped, m ∈ members) :
    (op.applyTo store).1 = .integer popped.length := by
  rw [applyTo_srem effect]
  unfold MemStore.applySrem
  simp only [Command.key, Command.arg, List.getElem?_cons_succ, List.getElem?_cons_zero, held,
    List.drop_succ_cons, List.drop_zero, removeMembers_count popped 0 members distinct present,
    Int.zero_add]

omit [AlwaysSerializable MemStore] in
theorem SpopEffect.listed {members handed : List Bytes}
    (effect : SpopEffect cmd members handed clientReply) :
    clientReply = popReply cmd handed ∧ handed ≠ [] ∧
      ∃ count, cmd.popCount = some count ∧ 0 < count ∧
        handed.length = min count.toNat members.length := by
  cases effect with
  | one single first =>
      subst first
      unfold popReply Command.popCount
      rw [single]
      refine ⟨rfl, List.cons_ne_nil _ _, 1, rfl, by decide, ?_⟩
      simp
  | @many countBytes count counted value found =>
      unfold popReply Command.popCount
      rw [counted]
      refine ⟨rfl, found, count, value, ?_, List.length_take⟩
      by_contra low
      exact found (by rw [Int.toNat_eq_zero.mpr (Int.not_lt.mp low), List.take_zero])

theorem spop_pops {argv : List Bytes} (effect : op.argv = argv)
    (resolved : resolveSpop now cmd store = .broadcast argv clientReply) :
    ∃ key members popped, PopsCorrectly cmd clientReply store (op.applyTo store).1
      (op.applyTo store).2 key members popped := by
  obtain ⟨key, members, popped, keyed, held, written, handed⟩ := resolveSpop_broadcast resolved
  obtain ⟨listed, inhabited, count, asked, positive, many⟩ := handed.listed
  have distinct : popped.Nodup := handed.sublist.nodup (nodup_toList members)
  have present : ∀ m ∈ popped, m ∈ members := fun m member =>
    ExtTreeSet.mem_toList.mp (handed.sublist.mem member)
  have srem := effect.trans written
  rw [ExtTreeSet.length_toList] at many
  exact ⟨key, members, popped, keyed, listed, ⟨count, asked, positive, many⟩, inhabited,
    srem_counted srem held distinct present, srem_popped srem held distinct present⟩

omit [AlwaysSerializable MemStore] in
theorem pop_immediate {key : Bytes} {members : List Bytes} {reply : Reply}
    (keyed : cmd.key = some key)
    (absent : members = [] → store.data[key]? = none ∨ store.data[key]? = some (.set ∅))
    (settled : (match cmd.arg 2 with
      | none => spopOne key members
      | some countBytes => spopCount key members countBytes) = .immediate reply) :
    NothingPopped store cmd reply := by
  cases counted : cmd.arg 2 with
  | none =>
      rw [counted] at settled
      cases members with
      | nil =>
          cases settled
          exact .empty keyed counted (absent rfl)
      | cons m rest => cases settled
  | some countBytes =>
      rw [counted] at settled
      change spopCount key members countBytes = _ at settled
      have asked : cmd.popCount = MemStore.asInt countBytes := by
        unfold Command.popCount
        rw [counted]
      unfold spopCount at settled
      cases value : (fromUtf8 countBytes).bind (fun text => parseI64 (trim text)) with
      | none =>
          rw [value] at settled
          cases settled
          exact .unreadable (asked.trans value)
      | some count =>
          simp only [value] at settled
          split at settled
          · rename_i nothing
            cases settled
            by_cases low : count ≤ 0
            · exact .notPositive (asked.trans value) low
            · refine .emptyMany keyed (absent ?_)
              rcases List.take_eq_nil_iff.mp (List.isEmpty_iff.mp nothing) with zero | empty
              · omega
              · exact empty
          · cases settled

theorem spop_settles {reply : Reply} (resolved : resolveSpop now cmd store = .immediate reply) :
    NothingPopped store cmd reply := by
  unfold resolveSpop at resolved
  cases keyed : cmd.key with
  | none =>
      rw [keyed] at resolved
      cases resolved
      exact .unkeyed keyed
  | some key =>
      simp only [keyed, query_smembers] at resolved
      cases held : store.data[key]? with
      | none =>
          simp only [held] at resolved
          exact pop_immediate keyed (fun _ => .inl held) resolved
      | some value =>
          cases value with
          | set members =>
              simp only [held, MemStore.bulks, bulkItems_bulks] at resolved
              refine pop_immediate keyed (fun nothing => .inr ?_) resolved
              have empty : members = ∅ := by
                rw [← ExtTreeSet.isEmpty_iff, ← ExtTreeSet.isEmpty_toList, nothing]
                rfl
              rw [held, empty]
          | str bytes =>
              simp only [held, wrongtype] at resolved
              cases resolved
              exact .otherType keyed held (fun members => Value.noConfusion)
          | hash h =>
              simp only [held, wrongtype] at resolved
              cases resolved
              exact .otherType keyed held (fun members => Value.noConfusion)

omit [AlwaysSerializable MemStore] in
theorem NothingPopped.no_pop {settled : Reply} (nothing : NothingPopped store cmd settled)
    {told reply : Reply} {after : MemStore} {key : Bytes} {members : ExtTreeSet Bytes}
    {popped : List Bytes} :
    ¬PopsCorrectly cmd told store reply after key members popped := by
  intro pops
  obtain ⟨count, asked, positive, _⟩ := pops.counted
  have inhabited : members ≠ ∅ := by
    rintro rfl
    obtain ⟨m, member⟩ := List.exists_mem_of_ne_nil popped pops.some
    exact ExtTreeSet.not_mem_empty (pops.taken.present m member)
  have sameKey {other : Bytes} (keyed : cmd.key = some other) :
      store.data[other]? = some (.set members) := by
    have same := Option.some.inj (keyed.symm.trans pops.keyed)
    rw [same]
    exact pops.taken.held
  have notEmpty {other : Bytes} (keyed : cmd.key = some other)
      (absent : store.data[other]? = none ∨ store.data[other]? = some (.set ∅)) : False := by
    rw [sameKey keyed] at absent
    rcases absent with gone | empty
    · cases gone
    · exact inhabited (Value.set.inj (Option.some.inj empty))
  cases nothing with
  | unkeyed missing => exact absurd (missing.symm.trans pops.keyed) (Option.some_ne_none key).symm
  | otherType keyed found other =>
      exact other members (Option.some.inj (found.symm.trans (sameKey keyed)))
  | unreadable bad => exact absurd (bad.symm.trans asked) (Option.some_ne_none count).symm
  | empty keyed single absent => exact notEmpty keyed absent
  | notPositive counted low =>
      have same := Option.some.inj (counted.symm.trans asked)
      omega
  | emptyMany keyed absent => exact notEmpty keyed absent

/-- A resolved `SPOP` is a correct pop of the store it was resolved against,
and one that is answered at once had nothing to pop there. -/
theorem spop_resolution_correct [FloatArith] (named : cmd.name = "SPOP") :
    (∀ (op : WriteOp) (clientReply : Reply),
      resolve now cmd store = .broadcast op.argv clientReply →
        ∃ key members popped, PopsCorrectly cmd clientReply store (op.applyTo store).1
          (op.applyTo store).2 key members popped) ∧
    (∀ settled : Reply, resolve now cmd store = .immediate settled →
      NothingPopped store cmd settled ∧
        ∀ told reply after key members popped,
          ¬PopsCorrectly cmd told store reply after key members popped) := by
  have pops : resolve now cmd store = resolveSpop now cmd store := by
    unfold resolve
    simp only [named]
  rw [pops]
  constructor
  · intro op clientReply resolved
    exact spop_pops rfl resolved
  · intro settled resolved
    have nothing := spop_settles resolved
    exact ⟨nothing, fun _ _ _ _ _ _ => nothing.no_pop⟩

end Pops

/-! ### An increment of a key with a deadline, and a pop -/

section Sample

open scoped LoopbackRing

def expiring : MemStore :=
  (pool.store.apply
    { name := "EXPIRE", argv := [asBytes "EXPIRE", asBytes "x", asBytes "100"] }).2

theorem float_increment_drops_deadline :
    resolve ⟨0, 0⟩ (increment "5") expiring =
        .broadcast (raisedBy 0 "15").argv (.bulk (asBytes "15")) ∧
      expiring.ttl[asBytes "x"]? = some 100 ∧
        ((raisedBy 0 "15").applyTo expiring).2.ttl[asBytes "x"]? = none := by
  refine ⟨by rfl, by decide, by decide⟩

theorem float_increment_frame_iff_pool :
    IncrementFrame ⟨0, 0⟩ (increment "5") (.bulk (asBytes "15")) pool.store
      ((raisedBy 0 "15").applyTo pool.store).1 ((raisedBy 0 "15").applyTo pool.store).2 := by
  have resolved : resolve ⟨0, 0⟩ (increment "5") pool.store =
      .broadcast (raisedBy 0 "15").argv (.bulk (asBytes "15")) := by rfl
  refine (float_increment_frame_iff (.inl rfl) resolved).mpr ?_
  intro key _ keyed
  cases keyed
  decide

theorem spop_resolution_correct_pool :
    ∃ key members popped, PopsCorrectly pop (.bulk (asBytes "a")) pool.store
      ((poppedBy 0).applyTo pool.store).1 ((poppedBy 0).applyTo pool.store).2 key members
        popped := by
  have resolved : resolve ⟨0, 0⟩ pop pool.store =
      .broadcast (poppedBy 0).argv (.bulk (asBytes "a")) := by rfl
  exact (spop_resolution_correct rfl).1 (poppedBy 0) (.bulk (asBytes "a")) resolved

end Sample

end TrainsValkey
