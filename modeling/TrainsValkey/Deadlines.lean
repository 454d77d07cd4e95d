import TrainsValkey.StoreWrites
import TrainsValkey.Library.Mealy

/-
Deadlines and the keys they belong to.

A store keeps its values in one table and its deadlines in another.  The runs
here are those of any number of stores that execute writes, export snapshots
and import any snapshot exported so far.
-/

set_option autoImplicit false

namespace TrainsValkey

open Std (ExtTreeMap)
open Library (Machine)

namespace MemStore

def Keyed (store : MemStore) : Prop := ∀ key ∈ store.ttl, key ∈ store.data

/-- What `Keyed` is for: `PERSIST` finds a deadline under existing keys only,
and a key that a write brings into existence starts without one, the deadline
that `RENAME` moves along with a value apart. -/
structure DeadlinesOfLiveKeys (store : MemStore) : Prop where
  keyed : store.Keyed
  persists : ∀ cmd, cmd.name = "PERSIST" → (store.apply cmd).1 = .integer 1 →
    ∃ key, cmd.key = some key ∧ key ∈ store.data
  reborn : ∀ cmd key, key ∉ store.data → key ∈ (store.apply cmd).2.data →
    (store.apply cmd).2.ttl[key]? = none ∨
      (cmd.name = "RENAME" ∧ cmd.arg 2 = some key ∧
        ∃ src ∈ store.data, cmd.arg 1 = some src ∧
          (store.apply cmd).2.ttl[key]? = store.ttl[src]?)

variable {store : MemStore}

theorem Keyed.persist (keyed : store.Keyed) {cmd : Command} (named : cmd.name = "PERSIST")
    (answered : (store.apply cmd).1 = .integer 1) :
    ∃ key, cmd.key = some key ∧ key ∈ store.data := by
  unfold apply at answered
  rw [named] at answered
  change (store.applyPersist cmd).1 = _ at answered
  unfold applyPersist at answered
  cases same : cmd.key with
  | none =>
      rw [same] at answered
      cases answered
  | some key =>
      simp only [same] at answered
      split at answered
      · rename_i recorded
        exact ⟨key, rfl, keyed key (ExtTreeMap.contains_iff_mem.mp recorded)⟩
      · simp at answered

theorem mem_removeKeys (keys : List Bytes) (removed : Int) (store : MemStore) (key : Bytes) :
    (key ∈ (removeKeys keys removed store).2.data ↔ key ∉ keys ∧ key ∈ store.data) ∧
      (key ∈ (removeKeys keys removed store).2.ttl ↔ key ∉ keys ∧ key ∈ store.ttl) := by
  induction keys generalizing removed store with
  | nil => simp [removeKeys]
  | cons first rest ih =>
      have later := ih (if store.data.contains first then removed + 1 else removed)
        { data := store.data.erase first, ttl := store.ttl.erase first }
      rw [removeKeys, later.1, later.2, mem_erase_bytes, mem_erase_bytes, List.mem_cons, not_or,
        and_assoc, and_assoc]
      exact ⟨and_left_comm, and_left_comm⟩

/-- The write removes a key by emptying it and finds a deadline recorded under
it. -/
def Orphans (store : MemStore) (cmd : Command) : Prop :=
  ∃ key ∈ store.ttl, cmd.key = some key ∧ store.Empties cmd key

theorem Keyed.apply (keyed : store.Keyed) {cmd : Command} (spared : ¬store.Orphans cmd) :
    (store.apply cmd).2.Keyed := by
  have outcome := store.apply_outcome cmd
  generalize store.apply cmd = result at outcome ⊢
  obtain ⟨reply, after⟩ := result
  intro other recorded
  cases outcome with
  | unchanged => exact keyed other recorded
  | put key value answered => exact mem_insert_bytes.mpr (.inr (keyed other recorded))
  | misplaced misplaces => exact mem_insert_bytes.mpr (.inr (keyed other recorded))
  | overwritten key value answered =>
      exact mem_insert_bytes.mpr (.inr (keyed other (mem_erase_bytes.mp recorded).2))
  | removed keys =>
      obtain ⟨absent, before⟩ := (mem_removeKeys keys 0 store other).2.mp recorded
      exact (mem_removeKeys keys 0 store other).1.mpr ⟨absent, keyed other before⟩
  | deadline secs present =>
      rcases mem_insert_bytes.mp recorded with rfl | before
      · exact present
      · exact keyed other before
  | persisted found => exact keyed other (mem_erase_bytes.mp recorded).2
  | @renamed src dst v ttl named source target held moved kept =>
      by_cases same : other = dst
      · exact mem_insert_bytes.mpr (.inl same)
      · have left : other ∈ store.ttl.erase src := by
          rw [ExtTreeMap.mem_iff_isSome_getElem?, ← kept other same]
          exact ExtTreeMap.mem_iff_isSome_getElem?.mp recorded
        obtain ⟨different, before⟩ := mem_erase_bytes.mp left
        exact mem_insert_bytes.mpr (.inr (mem_erase_bytes.mpr ⟨different, keyed other before⟩))
  | @emptied key count named empties =>
      refine mem_erase_bytes.mpr ⟨?_, keyed other recorded⟩
      rintro rfl
      exact spared ⟨other, recorded, named, empties⟩
  | flushed => exact absurd recorded ExtTreeMap.not_mem_empty

theorem Keyed.reborn (keyed : store.Keyed) {cmd : Command} {key : Bytes}
    (absent : key ∉ store.data) (present : key ∈ (store.apply cmd).2.data) :
    (store.apply cmd).2.ttl[key]? = none ∨
      (cmd.name = "RENAME" ∧ cmd.arg 2 = some key ∧
        ∃ src ∈ store.data, cmd.arg 1 = some src ∧
          (store.apply cmd).2.ttl[key]? = store.ttl[src]?) := by
  have unset : key ∉ store.ttl := fun recorded => absent (keyed key recorded)
  have outcome := store.apply_outcome cmd
  generalize store.apply cmd = result at outcome present ⊢
  obtain ⟨reply, after⟩ := result
  cases outcome with
  | unchanged => exact absurd present absent
  | put other value answered => exact .inl (getElem?_none_iff.mpr unset)
  | misplaced misplaces => exact .inl (getElem?_none_iff.mpr unset)
  | overwritten other value answered =>
      refine .inl (getElem?_none_iff.mpr ?_)
      exact fun recorded => unset (mem_erase_bytes.mp recorded).2
  | removed keys => exact absurd ((mem_removeKeys keys 0 store key).1.mp present).2 absent
  | deadline secs found => exact absurd present absent
  | persisted found => exact absurd present absent
  | @renamed src dst v ttl named source target held moved kept =>
      rcases mem_insert_bytes.mp present with rfl | before
      · exact .inr ⟨named, target, src, mem_of_getElem? held, source, moved⟩
      · exact absurd (mem_erase_bytes.mp before).2 absent
  | emptied count named empties => exact absurd (mem_erase_bytes.mp present).2 absent
  | flushed => exact absurd present ExtTreeMap.not_mem_empty

theorem Keyed.live (keyed : store.Keyed) : store.DeadlinesOfLiveKeys where
  keyed := keyed
  persists _ named answered := keyed.persist named answered
  reborn _ _ absent present := keyed.reborn absent present

theorem Orphans.not_keyed {cmd : Command} (orphans : store.Orphans cmd) :
    ¬(store.apply cmd).2.Keyed := by
  obtain ⟨key, recorded, named, empties⟩ := orphans
  rw [apply_empties named empties]
  intro keyed
  exact (mem_erase_bytes.mp (keyed key recorded)).1 rfl

end MemStore

/-! ### Runs of stores that exchange snapshots -/

section Runs

structure Stores where
  store : Nat → MemStore
  snapshots : List Bytes

inductive StoresInput where
  | apply (node : Nat) (cmd : Command)
  | exportSnapshot (node : Nat)
  | importSnapshot (node position : Nat)

namespace Stores

def new : Stores := { store := fun _ => MemStore.new, snapshots := [] }

variable [AlwaysSerializable MemStore]

def step (stores : Stores) : StoresInput → Stores × List Reply
  | .apply node cmd =>
      let applied := RedisStore.apply (stores.store node) cmd
      ({ stores with store := Function.update stores.store node applied.2 }, [applied.1])
  | .exportSnapshot node =>
      ({ stores with
        snapshots := stores.snapshots ++ [RedisStore.exportSnapshot (stores.store node)] }, [])
  | .importSnapshot node position =>
      match stores.snapshots[position]? with
      | some bytes =>
          let imported := (RedisStore.importSnapshot (stores.store node) bytes).2
          ({ stores with store := Function.update stores.store node imported }, [])
      | none => (stores, [])

def machine : Machine Stores StoresInput Reply where
  step := step

/-- Every store is keyed, and so is every store a snapshot was taken of. -/
structure AllKeyed (stores : Stores) : Prop where
  held : ∀ node, (stores.store node).Keyed
  exported : ∀ bytes ∈ stores.snapshots, ∃ source : MemStore,
    bytes = RedisStore.exportSnapshot source ∧ source.Keyed

def Spares (stores : Stores) : StoresInput → Prop
  | .apply node cmd => ¬(stores.store node).Orphans cmd
  | .exportSnapshot _ => True
  | .importSnapshot _ _ => True

theorem allKeyed_new : new.AllKeyed where
  held _ _ recorded := absurd recorded ExtTreeMap.not_mem_empty
  exported _ member := absurd member List.not_mem_nil

theorem keyed_update {stores : Stores} (keyed : stores.AllKeyed) {node : Nat} {next : MemStore}
    (nextKeyed : next.Keyed) :
    AllKeyed { stores with store := Function.update stores.store node next } := by
  refine ⟨?_, keyed.exported⟩
  intro other
  by_cases same : other = node
  · subst same
    simp only [Function.update_self]
    exact nextKeyed
  · simp only [Function.update_of_ne same]
    exact keyed.held other

theorem AllKeyed.step {stores : Stores} {input : StoresInput} (keyed : stores.AllKeyed)
    (spares : stores.Spares input) : (stores.step input).1.AllKeyed := by
  cases input with
  | apply node cmd => exact keyed_update keyed ((keyed.held node).apply spares)
  | exportSnapshot node =>
      refine ⟨keyed.held, ?_⟩
      intro bytes member
      rcases List.mem_append.mp member with earlier | last
      · exact keyed.exported bytes earlier
      · exact ⟨stores.store node, List.mem_singleton.mp last, keyed.held node⟩
  | importSnapshot node position =>
      unfold Stores.step
      dsimp only
      cases found : stores.snapshots[position]? with
      | none => exact keyed
      | some bytes =>
          obtain ⟨source, rfl, sourceKeyed⟩ :=
            keyed.exported bytes (List.mem_of_getElem? found)
          simp only [LawfulRedisStore.import_export]
          exact keyed_update keyed sourceKeyed

theorem spares_of_live {stores : Stores} {input : StoresInput}
    (live : ∀ node, ((stores.step input).1.store node).DeadlinesOfLiveKeys) :
    stores.Spares input := by
  cases input with
  | apply node cmd =>
      intro orphans
      have after := (live node).keyed
      simp only [step, Function.update_self] at after
      exact orphans.not_keyed after
  | exportSnapshot node => exact True.intro
  | importSnapshot node position => exact True.intro

end Stores

variable [AlwaysSerializable MemStore]

/-- In every state of a run deadlines belong to live keys exactly when no step
of the run empties a hash or a set under a key that has one. -/
theorem deadlines_live_iff (inputs : List StoresInput) :
    (∀ before, before <+: inputs →
        ∀ node, ((Stores.machine.run Stores.new before).1.store node).DeadlinesOfLiveKeys) ↔
      ∀ before input, before ++ [input] <+: inputs →
        (Stores.machine.run Stores.new before).1.Spares input := by
  have keeps (stores : Stores) (input : StoresInput) (keyed : stores.AllKeyed)
      (spares : stores.Spares input) : (Stores.machine.step stores input).1.AllKeyed :=
    keyed.step spares
  exact Stores.machine.run_safe_iff keeps (fun _ keyed node => (keyed.held node).live)
    (fun _ _ live => Stores.spares_of_live live) Stores.allKeyed_new inputs

end Runs

/-! ### A hash emptied while its deadline is recorded -/

namespace EmptiedHash

open scoped LoopbackRing

def expireThenEmpty : List StoresInput :=
  [["HSET", "h", "f", "v"], ["EXPIRE", "h", "100"], ["HDEL", "h", "f"]].map (fun words =>
    .apply 0 { name := words.headD "", argv := words.map asBytes })

def persistH : Command := { name := "PERSIST", argv := [asBytes "PERSIST", asBytes "h"] }

def hsetAgain : StoresInput :=
  .apply 0
    { name := "HSET", argv := [asBytes "HSET", asBytes "h", asBytes "g", asBytes "w"] }

def emptied : MemStore := (Stores.machine.run Stores.new expireThenEmpty).1.store 0

def again : MemStore :=
  (Stores.machine.run Stores.new (expireThenEmpty ++ [hsetAgain])).1.store 0

/-- The deadline outlives its key, `PERSIST` answers 1 for the missing key, and
the next hash under it inherits the deadline. -/
theorem deadline_outlives_hash :
    ¬emptied.Keyed ∧ emptied.data[asBytes "h"]? = none ∧
      (emptied.apply persistH).1 = .integer 1 ∧ again.ttl[asBytes "h"]? = some 100 := by
  refine ⟨?_, by decide, by decide, by decide⟩
  intro keyed
  have held := keyed (asBytes "h") (by decide)
  revert held
  decide

end EmptiedHash

end TrainsValkey
