import TrainsValkey.StoreWrites

/-
The snapshot the convergence tests compare, and what the reads can tell of a
store.

The snapshot lists the values.  A read sees the values and, through `TTL`, the
deadlines of the keys that exist.
-/

set_option autoImplicit false

namespace TrainsValkey

open Std (ExtTreeMap ExtTreeSet)

/-- The public view of one stored value. -/
inductive StoreEntry where
  | str (bytes : Bytes)
  | hash (fields : List (Bytes × Bytes))
  | set (members : List Bytes)
deriving DecidableEq

def Value.entry : Value → StoreEntry
  | .str s => .str s
  | .hash h => .hash h.toList
  | .set s => .set s.toList

theorem Value.entry_inj {left right : Value} : left.entry = right.entry ↔ left = right := by
  constructor
  · intro same
    cases left with
    | str s =>
        cases right with
        | str s' => exact congrArg Value.str (StoreEntry.str.inj same)
        | _ => cases same
    | hash h =>
        cases right with
        | hash h' => exact congrArg Value.hash (ExtTreeMap.toList_inj.mp (StoreEntry.hash.inj same))
        | _ => cases same
    | set s =>
        cases right with
        | set s' => exact congrArg Value.set (ExtTreeSet.toList_inj.mp (StoreEntry.set.inj same))
        | _ => cases same
  · exact congrArg Value.entry

namespace MemStore

def snapshotSorted (store : MemStore) : List (Bytes × StoreEntry) :=
  store.data.toList.map (fun item => (item.1, item.2.entry))

theorem snapshotSorted_eq_iff (a b : MemStore) :
    a.snapshotSorted = b.snapshotSorted ↔ a.data = b.data := by
  constructor
  · intro same
    apply ExtTreeMap.toList_inj.mp
    refine List.map_injective_iff.mpr ?_ same
    intro left right entries
    obtain ⟨key, value⟩ := left
    obtain ⟨key', value'⟩ := right
    obtain ⟨keys, values⟩ := Prod.mk.inj entries
    exact Prod.ext keys (Value.entry_inj.mp values)
  · intro same
    rw [snapshotSorted, same, snapshotSorted]

/-! ### What the reads tell -/

/-- Every read but `TIME` gets the same reply from both. -/
def ReadsAlike (a b : MemStore) : Prop :=
  ∀ now argv cmd, Command.parse argv = some cmd → classify cmd.name = .read → cmd.name ≠ "TIME" →
    a.query now cmd = b.query now cmd

def shownDeadline (store : MemStore) (key : Bytes) : Int := store.ttl[key]?.getD (-1)

theorem bulks_inj {left right : List Bytes} (same : bulks left = bulks right) : left = right := by
  unfold bulks at same
  injection same with items
  exact List.map_injective_iff.mpr (fun _ _ equal => Reply.bulk.inj equal) items

theorem pairs_inj {left right : ExtTreeMap Bytes Bytes} (same : pairs left = pairs right) :
    left = right := by
  have flat : ∀ first second : List (Bytes × Bytes),
      first.flatMap (fun entry => [Reply.bulk entry.1, .bulk entry.2]) =
        second.flatMap (fun entry => [Reply.bulk entry.1, .bulk entry.2]) → first = second := by
    intro first
    induction first with
    | nil =>
        intro second equal
        cases second with
        | nil => rfl
        | cons entry rest => cases equal
    | cons entry rest ih =>
        intro second equal
        cases second with
        | nil => cases equal
        | cons entry' rest' =>
            simp only [List.flatMap_cons, List.cons_append, List.nil_append, List.cons.injEq,
              Reply.bulk.injEq] at equal
            rw [Prod.ext equal.1 equal.2.1, ih rest' equal.2.2]
  unfold pairs at same
  injection same with items
  exact ExtTreeMap.toList_inj.mp (flat _ _ items)

variable {a b : MemStore}

theorem ReadsAlike.keyed (alike : ReadsAlike a b) (name : String)
    (upper : toAsciiUppercase (fromUtf8Lossy (asBytes name)) = name)
    (isRead : classify name = .read) (notTime : name ≠ "TIME") (key : Bytes) :
    a.query ⟨0, 0⟩ { name, argv := [asBytes name, key] } =
      b.query ⟨0, 0⟩ { name, argv := [asBytes name, key] } := by
  refine alike ⟨0, 0⟩ [asBytes name, key] _ ?_ isRead notTime
  rw [Command.parse, upper]

theorem ReadsAlike.value (alike : ReadsAlike a b) (key : Bytes) : a.data[key]? = b.data[key]? := by
  have type_ := alike.keyed "TYPE" (by decide) rfl (by decide) key
  have get := alike.keyed "GET" (by decide) rfl (by decide) key
  have hgetall := alike.keyed "HGETALL" (by decide) rfl (by decide) key
  have smembers := alike.keyed "SMEMBERS" (by decide) rfl (by decide) key
  simp only [query, atKey, Command.key, Command.arg, List.getElem?_cons_succ,
    List.getElem?_cons_zero, Option.getD_some] at type_ get hgetall smembers
  cases left : a.data[key]? with
  | none =>
      cases right : b.data[key]? with
      | none => rfl
      | some value => cases value <;> simp [left, right] at type_
  | some value =>
      cases right : b.data[key]? with
      | none => cases value <;> simp [left, right] at type_
      | some value' =>
          cases value with
          | str s =>
              cases value' with
              | str s' =>
                  simp only [left, right] at get
                  rw [Reply.bulk.inj get]
              | _ => simp [left, right] at type_
          | hash h =>
              cases value' with
              | hash h' =>
                  simp only [left, right] at hgetall
                  rw [pairs_inj hgetall]
              | _ => simp [left, right] at type_
          | set s =>
              cases value' with
              | set s' =>
                  simp only [left, right] at smembers
                  rw [ExtTreeSet.toList_inj.mp (bulks_inj smembers)]
              | _ => simp [left, right] at type_

theorem query_withTtl (data : ExtTreeMap Bytes Value) (ttl ttl' : ExtTreeMap Bytes Int)
    (now : SystemTime) {cmd : Command} (other : cmd.name ≠ "TTL") :
    query { data, ttl } now cmd = query { data, ttl := ttl' } now cmd := by
  unfold query
  split <;> first | rfl | contradiction

/-- The reads tell two stores apart by their values and by the deadlines they
show, and by nothing else. -/
theorem readsAlike_iff (a b : MemStore) :
    ReadsAlike a b ↔
      a.data = b.data ∧ ∀ key ∈ a.data, a.shownDeadline key = b.shownDeadline key := by
  constructor
  · intro alike
    have data : a.data = b.data := ExtTreeMap.ext_getElem? (fun {key} => alike.value key)
    refine ⟨data, ?_⟩
    intro key member
    have shown := alike.keyed "TTL" (by decide) rfl (by decide) key
    have present := ExtTreeMap.contains_iff_mem.mpr member
    have present' := present
    rw [data] at present'
    simp only [query, Command.key, Command.arg, List.getElem?_cons_succ, List.getElem?_cons_zero,
      Option.getD_some, present, present', if_true, Reply.integer.injEq] at shown
    exact shown
  · intro both now argv cmd _ _ _
    obtain ⟨data, shown⟩ := both
    by_cases named : cmd.name = "TTL"
    · simp only [query, named]
      rw [← data]
      split
      · rename_i present
        exact congrArg Reply.integer (shown _ (ExtTreeMap.contains_iff_mem.mp present))
      · rfl
    · cases a
      cases b
      cases data
      exact query_withTtl _ _ _ now named

/-- Equal snapshots, equal stores and equal answers to every read are the same
for two stores exactly when they do not differ in deadlines alone. -/
theorem snapshot_oracle_iff (a b : MemStore) :
    ((a.snapshotSorted = b.snapshotSorted ↔ a = b) ∧ (a = b ↔ ReadsAlike a b)) ↔
      (a.data = b.data → a.ttl = b.ttl) := by
  constructor
  · intro sound data
    exact congrArg ttl (sound.1.mp ((snapshotSorted_eq_iff a b).mpr data))
  · intro settled
    have whole : a.data = b.data → a = b := by
      intro data
      have ttl := settled data
      cases a
      cases b
      cases data
      cases ttl
      rfl
    constructor
    · rw [snapshotSorted_eq_iff]
      exact ⟨whole, congrArg data⟩
    · constructor
      · intro same
        rw [same]
        exact fun _ _ _ _ _ _ => rfl
      · exact fun alike => whole ((readsAlike_iff a b).mp alike).1

/-! ### Stores that differ in a deadline -/

def command (words : List String) : Command := { name := words.headD "", argv := words.map asBytes }

def plain : MemStore := (writes.run new [command ["SET", "k", "v"]]).1

def expiring (secs : String) : MemStore :=
  (writes.run new [command ["SET", "k", "v"], command ["EXPIRE", "k", secs]]).1

/-- The snapshot misses a deadline that `TTL` shows; and a deadline of -1 is
missed by every read as well. -/
theorem snapshot_misses_deadline :
    plain.snapshotSorted = (expiring "10").snapshotSorted ∧ plain ≠ expiring "10" ∧
      ¬ReadsAlike plain (expiring "10") ∧
      plain ≠ expiring "-1" ∧ ReadsAlike plain (expiring "-1") := by
  have values : plain.data = (expiring "-1").data := by decide
  refine ⟨(snapshotSorted_eq_iff _ _).mpr (by decide), by decide, ?_, by decide, ?_⟩
  · intro alike
    have shown := ((readsAlike_iff _ _).mp alike).2 (asBytes "k") (by decide)
    revert shown
    decide
  · refine (readsAlike_iff _ _).mpr ⟨values, ?_⟩
    intro key member
    have only : key = asBytes "k" := by
      have inserted : key ∈ (∅ : ExtTreeMap Bytes Value).insert (asBytes "k") (.str (asBytes "v")) :=
        member
      rcases mem_insert_bytes.mp inserted with same | absent
      · exact same
      · exact absurd absent ExtTreeMap.not_mem_empty
    rw [only]
    decide

end MemStore

end TrainsValkey
