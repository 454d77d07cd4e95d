import TrainsValkey.StoreWrites

/-
Locks kept under keys of the store.

A client takes a lock by asking to set its key only if the key is absent, and
holds it when the store answers that it did.
-/

set_option autoImplicit false

namespace TrainsValkey

open Std (ExtTreeMap)

namespace MemStore

def isNx (operand : Bytes) : Bool := toAsciiUppercase (fromUtf8Lossy operand) == "NX"

/-- The command asks for a key to be set only if it is absent. -/
inductive Acquires (key : Bytes) (cmd : Command) : Prop where
  | setnx {v : Bytes} (named : cmd.name = "SETNX") (keyed : cmd.arg 1 = some key)
      (valued : cmd.arg 2 = some v)
  | setNx {v : Bytes} (named : cmd.name = "SET") (keyed : cmd.arg 1 = some key)
      (valued : cmd.arg 2 = some v) (asked : ∃ operand ∈ cmd.argv.drop 3, isNx operand = true)

def granted (cmd : Command) : Reply := if cmd.name = "SETNX" then .integer 1 else .ok

/-- A lock is granted only while its key is absent, and who asks for it in vain
changes nothing. -/
structure Exclusive (store : MemStore) (cmd : Command) (key : Bytes) : Prop where
  free : (store.apply cmd).1 = granted cmd → key ∉ store.data
  kept : key ∈ store.data → (store.apply cmd).2.data[key]? = store.data[key]? ∧
    (store.apply cmd).2.ttl[key]? = store.ttl[key]?

variable {store : MemStore} {cmd : Command} {key v : Bytes}

theorem apply_setnx (store : MemStore) (named : cmd.name = "SETNX")
    (keyed : cmd.arg 1 = some key) (valued : cmd.arg 2 = some v) :
    store.apply cmd =
      if key ∈ store.data then (.integer 0, store)
      else (.integer 1, { store with data := store.data.insert key (.str v) }) := by
  simp only [apply, named, applySetnx, keyed, valued, ExtTreeMap.contains_iff_mem]

theorem apply_set (named : cmd.name = "SET") (keyed : cmd.arg 1 = some key)
    (valued : cmd.arg 2 = some v) :
    store.apply cmd =
      (.ok, { data := store.data.insert key (.str v), ttl := store.ttl.erase key }) := by
  simp only [apply, named, applySet, keyed, valued]

theorem Acquires.exclusive_iff (acquires : Acquires key cmd) (store : MemStore) :
    store.Exclusive cmd key ↔ cmd.name = "SETNX" ∨ key ∉ store.data := by
  cases acquires with
  | setnx named keyed valued =>
      refine iff_of_true ?_ (.inl named)
      have applied := apply_setnx store named keyed valued
      by_cases present : key ∈ store.data
      · rw [if_pos present] at applied
        constructor
        · intro won
          rw [applied, granted, if_pos named] at won
          cases won
        · intro _
          rw [applied]
          exact ⟨rfl, rfl⟩
      · exact ⟨fun _ => present, fun member => absurd member present⟩
  | setNx named keyed valued asked =>
      have other : cmd.name ≠ "SETNX" := by
        rw [named]
        decide
      have won : (store.apply cmd).1 = granted cmd := by
        rw [apply_set named keyed valued, granted, if_neg other]
      constructor
      · exact fun exclusive => .inr (exclusive.free won)
      · intro met
        rcases met with same | absent
        · exact absurd same other
        · exact ⟨fun _ => absent, fun member => absurd member absent⟩

theorem Acquires.held (acquires : Acquires key cmd) (store : MemStore) :
    key ∈ (store.apply cmd).2.data := by
  cases acquires with
  | setnx named keyed valued =>
      have applied := apply_setnx store named keyed valued
      by_cases present : key ∈ store.data
      · rw [applied, if_pos present]
        exact present
      · rw [applied, if_neg present]
        exact mem_insert_bytes.mpr (.inl rfl)
  | setNx named keyed valued asked =>
      rw [apply_set named keyed valued]
      exact mem_insert_bytes.mpr (.inl rfl)

def RemovedBy (store : MemStore) (cmds : List Command) (key : Bytes) : Prop :=
  ∃ earlier cmd later, cmds = earlier ++ cmd :: later ∧
    key ∈ (writes.run store earlier).1.data ∧ key ∉ (writes.run store (earlier ++ [cmd])).1.data

/-- After any commands, an attempt at a lock is exclusive exactly when it is a
`SETNX` or finds the key absent; and where the second of two attempts is so,
both are granted only if the key was removed in between. -/
theorem lock_exclusive_iff (history : List Command) (key : Bytes) :
    (∀ cmd, Acquires key cmd →
      ((writes.run new history).1.Exclusive cmd key ↔
        cmd.name = "SETNX" ∨ key ∉ (writes.run new history).1.data)) ∧
    ∀ first between second, Acquires key first → Acquires key second →
      let store := (writes.run new history).1
      let taken := (store.apply first).2
      let later := (writes.run taken between).1
      (store.apply first).1 = granted first → (later.apply second).1 = granted second →
      (second.name = "SETNX" ∨ key ∉ later.data) → taken.RemovedBy between key := by
  constructor
  · exact fun cmd acquires => acquires.exclusive_iff _
  · intro first between second takes retakes store taken later _ wonAgain met
    have exclusive := (retakes.exclusive_iff later).mpr met
    exact writes.run_loses (fun store => key ∈ store.data) (takes.held store)
      (exclusive.free wonAgain)

/-! ### Two workers and one lock -/

def lockFor (token : String) : Command :=
  { name := "SET", argv := ["SET", "lock:k0", token, "NX", "EX", "10"].map asBytes }

/-- Two attempts in a row are both granted, and the second takes the lock out
of the first one's hands. -/
theorem two_workers_one_lock :
    Acquires (asBytes "lock:k0") (lockFor "one") ∧ Acquires (asBytes "lock:k0") (lockFor "two") ∧
      (new.apply (lockFor "one")).1 = granted (lockFor "one") ∧
      ((new.apply (lockFor "one")).2.apply (lockFor "two")).1 = granted (lockFor "two") ∧
      asBytes "lock:k0" ∈ (new.apply (lockFor "one")).2.data ∧
      ((new.apply (lockFor "one")).2.apply (lockFor "two")).2.data[asBytes "lock:k0"]? =
        some (.str (asBytes "two")) := by
  refine ⟨?_, ?_, by decide, by decide, by decide, by decide⟩
  · exact .setNx (v := asBytes "one") rfl rfl rfl ⟨asBytes "NX", by decide, by decide⟩
  · exact .setNx (v := asBytes "two") rfl rfl rfl ⟨asBytes "NX", by decide, by decide⟩

end MemStore

end TrainsValkey
