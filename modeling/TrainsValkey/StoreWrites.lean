import TrainsValkey.Library.Mealy
import TrainsValkey.ResolutionWindow

/-
What one write does to the local store.

`MemStore.apply` has an arm for each of about twenty commands.  The arms are
read once, here: `apply_outcome` lists every way a write can end together with
what was found under its key.
-/

set_option autoImplicit false

namespace TrainsValkey

open Std (ExtTreeMap ExtTreeSet LawfulEqCmp)
open Library (Machine)

/-! ### Members of the tables -/

section Tables

variable {β : Type} {table : ExtTreeMap Bytes β} {key other : Bytes} {value : β}

theorem mem_insert_bytes : other ∈ table.insert key value ↔ other = key ∨ other ∈ table := by
  rw [ExtTreeMap.mem_insert, LawfulEqCmp.compare_eq_iff_eq, eq_comm]

theorem mem_erase_bytes : other ∈ table.erase key ↔ other ≠ key ∧ other ∈ table := by
  rw [ExtTreeMap.mem_erase, ne_eq, LawfulEqCmp.compare_eq_iff_eq, eq_comm]

theorem mem_of_getElem? (held : table[key]? = some value) : key ∈ table :=
  ExtTreeMap.mem_iff_isSome_getElem?.mpr (by rw [held]; rfl)

theorem getElem?_none_iff : table[key]? = none ↔ key ∉ table := by
  rw [ExtTreeMap.mem_iff_isSome_getElem?]
  cases table[key]? <;> simp

theorem insert_held (held : table[key]? = some value) : table.insert key value = table := by
  apply ExtTreeMap.ext_getElem?
  intro other
  by_cases same : other = key
  · subst same
    rw [ExtTreeMap.getElem?_insert_self, held]
  · exact getElem?_insert_of_ne table same value

end Tables

namespace MemStore

theorem mem_removeFields (fs : List Bytes) (removed : Int) (h : ExtTreeMap Bytes Bytes)
    (f : Bytes) : f ∈ (removeFields fs removed h).2 ↔ f ∈ h ∧ f ∉ fs := by
  induction fs generalizing removed h with
  | nil => simp [removeFields]
  | cons first rest ih =>
      rw [removeFields, ih, mem_erase_bytes, List.mem_cons, not_or]
      constructor
      · rintro ⟨⟨different, member⟩, absent⟩
        exact ⟨member, different, absent⟩
      · rintro ⟨member, different, absent⟩
        exact ⟨⟨different, member⟩, absent⟩

theorem removeFields_isEmpty (fs : List Bytes) (h : ExtTreeMap Bytes Bytes) :
    (removeFields fs 0 h).2.isEmpty = true ↔ ∀ f ∈ h, f ∈ fs := by
  rw [ExtTreeMap.isEmpty_iff, ExtTreeMap.eq_empty_iff_forall_not_mem]
  simp only [mem_removeFields, not_and, not_not]

theorem removeMembers_isEmpty (ms : List Bytes) (s : ExtTreeSet Bytes) :
    (removeMembers ms 0 s).2.isEmpty = true ↔ ∀ m ∈ s, m ∈ ms := by
  rw [ExtTreeSet.isEmpty_iff, ExtTreeSet.eq_empty_iff_forall_not_mem]
  simp only [mem_removeMembers, not_and, not_not]

/-! ### How a write ends -/

/-- The removal names every field of the hash, or every member of the set. -/
def Empties (store : MemStore) (cmd : Command) (key : Bytes) : Prop :=
  (cmd.name = "HDEL" ∧
    ∃ h, store.data[key]? = some (.hash h) ∧ ∀ f ∈ h, f ∈ cmd.argv.drop 2) ∨
  (cmd.name = "SREM" ∧
    ∃ s, store.data[key]? = some (.set s) ∧ ∀ m ∈ s, m ∈ cmd.argv.drop 2)

def Misplaces (store : MemStore) (cmd : Command) (key v : Bytes) : Prop :=
  cmd.name = "GETSET" ∧ cmd.arg 1 = some key ∧ cmd.arg 2 = some v ∧
    ∃ held, store.data[key]? = some held ∧ ∀ s, held ≠ .str s

inductive WriteOutcome (store : MemStore) (cmd : Command) : Reply → MemStore → Prop
  | unchanged (reply : Reply) : WriteOutcome store cmd reply store
  | put {reply : Reply} (key : Bytes) (value : Value) (answered : reply.isError = false) :
      WriteOutcome store cmd reply { store with data := store.data.insert key value }
  | overwritten {reply : Reply} (key : Bytes) (value : Value)
      (answered : reply.isError = false) :
      WriteOutcome store cmd reply
        { data := store.data.insert key value, ttl := store.ttl.erase key }
  | misplaced {key v : Bytes} (misplaces : store.Misplaces cmd key v) :
      WriteOutcome store cmd wrongtype { store with data := store.data.insert key (.str v) }
  | removed (keys : List Bytes) :
      WriteOutcome store cmd (.integer (removeKeys keys 0 store).1) (removeKeys keys 0 store).2
  | deadline {key : Bytes} (secs : Int) (present : key ∈ store.data) :
      WriteOutcome store cmd (.integer 1) { store with ttl := store.ttl.insert key secs }
  | persisted {key : Bytes} (recorded : key ∈ store.ttl) :
      WriteOutcome store cmd (.integer 1) { store with ttl := store.ttl.erase key }
  | renamed {src dst : Bytes} {v : Value} {ttl : ExtTreeMap Bytes Int}
      (named : cmd.name = "RENAME") (source : cmd.arg 1 = some src)
      (target : cmd.arg 2 = some dst) (held : store.data[src]? = some v)
      (moved : ttl[dst]? = store.ttl[src]?)
      (kept : ∀ other, other ≠ dst → ttl[other]? = (store.ttl.erase src)[other]?) :
      WriteOutcome store cmd .ok { data := (store.data.erase src).insert dst v, ttl }
  | emptied {key : Bytes} (count : Int) (keyed : cmd.key = some key)
      (empties : store.Empties cmd key) :
      WriteOutcome store cmd (.integer count) { store with data := store.data.erase key }
  | flushed : WriteOutcome store cmd .ok new

section Arms

variable (store : MemStore) (cmd : Command)

theorem applySet_outcome : WriteOutcome store cmd (store.applySet cmd).1 (store.applySet cmd).2 := by
  unfold applySet
  split
  · exact .overwritten _ _ rfl
  · exact .unchanged _

theorem applySetnx_outcome :
    WriteOutcome store cmd (store.applySetnx cmd).1 (store.applySetnx cmd).2 := by
  unfold applySetnx
  split
  · split
    · exact .unchanged _
    · exact .put _ _ rfl
  · exact .unchanged _

theorem applyGetset_outcome (named : cmd.name = "GETSET") :
    WriteOutcome store cmd (store.applyGetset cmd).1 (store.applyGetset cmd).2 := by
  unfold applyGetset
  split
  · rename_i k v keyed valued
    cases held : store.data[k]? with
    | none => exact .overwritten k (.str v) rfl
    | some old =>
        cases old with
        | str previous => exact .overwritten k (.str v) rfl
        | hash h => exact .misplaced ⟨named, keyed, valued, _, held, by simp⟩
        | set members => exact .misplaced ⟨named, keyed, valued, _, held, by simp⟩
  · exact .unchanged _

theorem applyAppend_outcome :
    WriteOutcome store cmd (store.applyAppend cmd).1 (store.applyAppend cmd).2 := by
  unfold applyAppend
  split
  · split
    · exact .put _ _ rfl
    · exact .unchanged _
  · exact .unchanged _

theorem applyDel_outcome : WriteOutcome store cmd (store.applyDel cmd).1 (store.applyDel cmd).2 :=
  .removed (cmd.argv.drop 1)

theorem applyIncr_outcome :
    WriteOutcome store cmd (store.applyIncr cmd).1 (store.applyIncr cmd).2 := by
  unfold applyIncr
  cases cmd.key with
  | none => exact .unchanged _
  | some k =>
      simp only
      cases incrDelta cmd with
      | error reply => exact .unchanged _
      | ok delta =>
          simp only
          split
          · split
            · split
              · exact .put _ _ rfl
              · exact .unchanged _
            · exact .unchanged _
          · exact .unchanged _
          · split
            · exact .put _ _ rfl
            · exact .unchanged _

theorem applyExpire_outcome :
    WriteOutcome store cmd (store.applyExpire cmd).1 (store.applyExpire cmd).2 := by
  unfold applyExpire
  split
  · exact .unchanged _
  · split
    · rename_i present
      exact .deadline _ (ExtTreeMap.contains_iff_mem.mp present)
    · exact .unchanged _

theorem applyPersist_outcome :
    WriteOutcome store cmd (store.applyPersist cmd).1 (store.applyPersist cmd).2 := by
  unfold applyPersist
  split
  · exact .unchanged _
  · split
    · rename_i recorded
      exact .persisted (ExtTreeMap.contains_iff_mem.mp recorded)
    · exact .unchanged _

theorem applyRename_outcome (named : cmd.name = "RENAME") :
    WriteOutcome store cmd (store.applyRename cmd).1 (store.applyRename cmd).2 := by
  unfold applyRename
  split
  · rename_i src dst source target
    cases held : store.data[src]? with
    | none => exact .unchanged _
    | some v =>
        cases deadline : store.ttl[src]? with
        | none =>
            refine .renamed named source target held ?_ ?_
            · rw [ExtTreeMap.getElem?_erase_self, deadline]
            · intro other different
              exact getElem?_erase_of_ne _ different
        | some t =>
            refine .renamed named source target held ?_ ?_
            · rw [ExtTreeMap.getElem?_insert_self, deadline]
            · intro other different
              exact getElem?_insert_of_ne _ different t
  · exact .unchanged _

theorem applyHset_outcome :
    WriteOutcome store cmd (store.applyHset cmd).1 (store.applyHset cmd).2 := by
  unfold applyHset
  split
  · exact .unchanged _
  · split
    · exact .unchanged _
    · split
      · refine .put _ _ ?_
        dsimp only
        split <;> rfl
      · exact .unchanged _

theorem applyHsetnx_outcome :
    WriteOutcome store cmd (store.applyHsetnx cmd).1 (store.applyHsetnx cmd).2 := by
  unfold applyHsetnx
  split
  · split
    · split
      · exact .put _ _ rfl
      · exact .put _ _ rfl
    · exact .unchanged _
  · exact .unchanged _

theorem applyHdel_outcome (named : cmd.name = "HDEL") :
    WriteOutcome store cmd (store.applyHdel cmd).1 (store.applyHdel cmd).2 := by
  unfold applyHdel
  cases keyed : cmd.key with
  | none => exact .unchanged _
  | some k =>
      simp only
      cases held : store.data[k]? with
      | none => exact .unchanged _
      | some value =>
          cases value with
          | str bytes => exact .unchanged _
          | set members => exact .unchanged _
          | hash h =>
              dsimp only
              split
              · rename_i empty
                exact .emptied _ keyed
                  (.inl ⟨named, h, held, (removeFields_isEmpty _ h).mp empty⟩)
              · exact .put _ _ rfl

theorem applySadd_outcome :
    WriteOutcome store cmd (store.applySadd cmd).1 (store.applySadd cmd).2 := by
  unfold applySadd
  split
  · exact .unchanged _
  · split
    · exact .put _ _ rfl
    · exact .unchanged _

theorem applySrem_outcome (named : cmd.name = "SREM") :
    WriteOutcome store cmd (store.applySrem cmd).1 (store.applySrem cmd).2 := by
  unfold applySrem
  cases keyed : cmd.key with
  | none => exact .unchanged _
  | some k =>
      simp only
      cases held : store.data[k]? with
      | none => exact .unchanged _
      | some value =>
          cases value with
          | str bytes => exact .unchanged _
          | hash h => exact .unchanged _
          | set members =>
              dsimp only
              split
              · rename_i empty
                exact .emptied _ keyed
                  (.inr ⟨named, members, held, (removeMembers_isEmpty _ members).mp empty⟩)
              · exact .put _ _ rfl

theorem asInt_fits {bytes : Bytes} {value : Int} (read : asInt bytes = some value) :
    inI64 value = true := by
  unfold asInt at read
  obtain ⟨text, _, parsed⟩ := Option.bind_eq_some_iff.mp read
  exact (Option.filter_eq_some_iff.mp parsed).2

theorem applyHincrby_outcome :
    WriteOutcome store cmd (store.applyHincrby cmd).1 (store.applyHincrby cmd).2 := by
  unfold applyHincrby
  split
  · rename_i k f by_ keyed fielded raised
    cases read : asInt by_ with
    | none => exact .unchanged _
    | some delta =>
        cases held : store.data[k]? with
        | none =>
            -- nothing overflows from zero, so the fresh hash is never left empty
            have fromZero : checkedAdd 0 delta = some delta := by
              rw [checkedAdd, Int.zero_add, if_pos (asInt_fits read)]
            simp only [Option.getD_none, ExtTreeMap.getElem?_empty, fromZero]
            exact .put _ _ rfl
        | some value =>
            cases value with
            | str bytes => exact .unchanged _
            | set members => exact .unchanged _
            | hash h =>
                have back (reply : Reply) : WriteOutcome store cmd reply
                    { store with data := store.data.insert k (.hash h) } := by
                  rw [insert_held held]
                  exact .unchanged reply
                simp only [Option.getD_some]
                split
                · split
                  · split
                    · exact .put _ _ rfl
                    · exact back _
                  · exact back _
                · split
                  · exact .put _ _ rfl
                  · exact back _
  · exact .unchanged _

/-- Every write ends in one of the listed ways. -/
theorem apply_outcome : WriteOutcome store cmd (store.apply cmd).1 (store.apply cmd).2 := by
  unfold apply
  split
  · exact store.applySet_outcome cmd
  · exact store.applySetnx_outcome cmd
  · rename_i named
    exact store.applyGetset_outcome cmd named
  · exact store.applyAppend_outcome cmd
  · exact store.applyDel_outcome cmd
  · exact store.applyDel_outcome cmd
  · exact store.applyIncr_outcome cmd
  · exact store.applyIncr_outcome cmd
  · exact store.applyIncr_outcome cmd
  · exact store.applyIncr_outcome cmd
  · exact store.applyExpire_outcome cmd
  · exact store.applyExpire_outcome cmd
  · exact store.applyExpire_outcome cmd
  · exact store.applyExpire_outcome cmd
  · exact store.applyPersist_outcome cmd
  · rename_i named
    exact store.applyRename_outcome cmd named
  · exact store.applyHset_outcome cmd
  · exact store.applyHset_outcome cmd
  · exact store.applyHsetnx_outcome cmd
  · rename_i named
    exact store.applyHdel_outcome cmd named
  · exact store.applyHincrby_outcome cmd
  · exact store.applySadd_outcome cmd
  · rename_i named
    exact store.applySrem_outcome cmd named
  · exact .flushed
  · exact .flushed
  · exact .unchanged _

variable {store cmd} {key v : Bytes}

theorem apply_empties (keyed : cmd.key = some key) (empties : store.Empties cmd key) :
    (store.apply cmd).2 = { store with data := store.data.erase key } := by
  unfold apply
  rcases empties with ⟨named, h, held, all⟩ | ⟨named, members, held, all⟩
  · have empty := (removeFields_isEmpty (cmd.argv.drop 2) h).mpr all
    simp only [named, applyHdel, keyed, held, empty, if_pos]
  · have empty := (removeMembers_isEmpty (cmd.argv.drop 2) members).mpr all
    simp only [named, applySrem, keyed, held, empty, if_pos]

theorem apply_misplaces (misplaces : store.Misplaces cmd key v) :
    store.apply cmd = (wrongtype, { store with data := store.data.insert key (.str v) }) := by
  obtain ⟨named, keyed, valued, old, held, other⟩ := misplaces
  unfold apply
  cases old with
  | str s => exact absurd rfl (other s)
  | hash h => simp only [named, applyGetset, keyed, valued, held]
  | set members => simp only [named, applyGetset, keyed, valued, held]

/-- An error reply leaves both tables as they were, unless it is the refusal of
a `GETSET` that has already written over a hash or a set. -/
theorem error_unchanged_iff (store : MemStore) (cmd : Command) :
    ((store.apply cmd).1.isError = true →
        (store.apply cmd).2.data = store.data ∧ (store.apply cmd).2.ttl = store.ttl) ↔
      ∀ key v, ¬store.Misplaces cmd key v := by
  constructor
  · intro unchanged key v misplaces
    rw [apply_misplaces misplaces] at unchanged
    obtain ⟨_, _, _, old, held, other⟩ := misplaces
    have same := congrArg (fun data => data[key]?) (unchanged isError_wrongtype).1
    simp only [ExtTreeMap.getElem?_insert_self, held, Option.some.injEq] at same
    exact other v same.symm
  · intro spared failed
    have outcome := store.apply_outcome cmd
    generalize store.apply cmd = result at outcome failed ⊢
    obtain ⟨reply, after⟩ := result
    cases outcome with
    | unchanged => exact ⟨rfl, rfl⟩
    | put key value answered =>
        rw [answered] at failed
        cases failed
    | overwritten key value answered =>
        rw [answered] at failed
        cases failed
    | misplaced misplaces => exact absurd misplaces (spared _ _)
    | removed | deadline | persisted | renamed | emptied | flushed => cases failed

end Arms

/-! ### Runs of writes -/

def writes : Machine MemStore Command Reply where
  step store cmd :=
    let applied := store.apply cmd
    (applied.2, [applied.1])

/-! ### A `GETSET` that meets a hash -/

def getsetAtHash : Command :=
  { name := "GETSET", argv := [asBytes "GETSET", asBytes "h", asBytes "x"] }

def oneHash : MemStore :=
  (new.apply
    { name := "HSET", argv := [asBytes "HSET", asBytes "h", asBytes "f", asBytes "v"] }).2

theorem getset_error_loses_hash :
    (oneHash.apply getsetAtHash).1 = wrongtype ∧
      (oneHash.apply getsetAtHash).2.data ≠ oneHash.data := by
  decide

end MemStore

end TrainsValkey
