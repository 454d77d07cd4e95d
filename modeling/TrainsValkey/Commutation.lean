import TrainsValkey.Library.Footprint
import TrainsValkey.StoreWrites

/-
Commands that touch different keys.

What a command answers and writes depends on its own keys alone, and it leaves
the value and the deadline of every other key as they were.  So two commands
without a common key can be delivered in either order.
-/

set_option autoImplicit false

namespace TrainsValkey

open Std (ExtTreeMap ExtTreeSet)
open Library (AgreeOn Confined)

/-- The keys a command names: every operand of `DEL` and `UNLINK`, the first
two of `RENAME`, the first one otherwise. -/
def Command.footprint (cmd : Command) : List Bytes :=
  match cmd.name with
  | "DEL" | "UNLINK" => cmd.argv.drop 1
  | "RENAME" => (cmd.argv.drop 1).take 2
  | _ => (cmd.argv.drop 1).take 1

def Command.flushes (cmd : Command) : Bool := cmd.name == "FLUSHDB" || cmd.name == "FLUSHALL"

namespace MemStore

def cell (store : MemStore) (key : Bytes) : Option Value × Option Int :=
  (store.data[key]?, store.ttl[key]?)

theorem ext_cell (s t : MemStore) (same : ∀ key, s.cell key = t.cell key) : s = t := by
  have data : s.data = t.data := ExtTreeMap.ext_getElem? (fun {key} => (Prod.mk.inj (same key)).1)
  have ttl : s.ttl = t.ttl := ExtTreeMap.ext_getElem? (fun {key} => (Prod.mk.inj (same key)).2)
  cases s
  cases t
  cases data
  cases ttl
  rfl

/-! ### Edits of one key -/

/-- What a command does to one table under one key. -/
inductive Edit (β : Type) where
  | keep
  | put (value : β)
  | drop

def Edit.apply {β : Type} (edit : Edit β) (table : ExtTreeMap Bytes β) (key : Bytes) :
    ExtTreeMap Bytes β :=
  match edit with
  | .keep => table
  | .put value => table.insert key value
  | .drop => table.erase key

section Edits

variable {β : Type} (edit : Edit β) {table table' : ExtTreeMap Bytes β} {key other : Bytes}

theorem Edit.apply_self (same : table[key]? = table'[key]?) :
    (edit.apply table key)[key]? = (edit.apply table' key)[key]? := by
  cases edit with
  | keep => exact same
  | put value => simp only [apply, ExtTreeMap.getElem?_insert_self]
  | drop => simp only [apply, ExtTreeMap.getElem?_erase_self]

theorem Edit.apply_of_ne (different : other ≠ key) :
    (edit.apply table key)[other]? = table[other]? := by
  cases edit with
  | keep => rfl
  | put value => exact getElem?_insert_of_ne table different value
  | drop => exact getElem?_erase_of_ne table different

end Edits

def edit (store : MemStore) (key : Bytes) (value : Edit Value) (deadline : Edit Int) : MemStore :=
  { data := value.apply store.data key, ttl := deadline.apply store.ttl key }

/-- Two stores that agree on a region still agree on it, and the first has
changed nowhere else. -/
structure Within (region : Set Bytes) (s t s' t' : MemStore) : Prop where
  agree : AgreeOn cell region s' t'
  frame : ∀ key ∉ region, s'.cell key = s.cell key

variable {region : Set Bytes} {s t s' t' : MemStore} {key : Bytes}

theorem Within.start (agree : AgreeOn cell region s t) : Within region s t s t :=
  ⟨agree, fun _ _ => rfl⟩

theorem Within.edit (within : Within region s t s' t') (member : key ∈ region)
    (value : Edit Value) (deadline : Edit Int) :
    Within region s t (s'.edit key value deadline) (t'.edit key value deadline) := by
  constructor
  · intro other inRegion
    have here := within.agree other inRegion
    obtain ⟨data, ttl⟩ := Prod.mk.inj here
    by_cases same : other = key
    · subst same
      exact Prod.ext (value.apply_self data) (deadline.apply_self ttl)
    · refine Prod.ext ?_ ?_
      · exact (value.apply_of_ne same).trans (data.trans (value.apply_of_ne same).symm)
      · exact (deadline.apply_of_ne same).trans (ttl.trans (deadline.apply_of_ne same).symm)
  · intro other outside
    have different : other ≠ key := fun same => outside (same ▸ member)
    rw [← within.frame other outside]
    exact Prod.ext (value.apply_of_ne different) (deadline.apply_of_ne different)

/-- The same reply, and changes within the region alone. -/
structure Matched (region : Set Bytes) (s t : MemStore) (left right : Reply × MemStore) : Prop where
  reply : left.1 = right.1
  within : Within region s t left.2 right.2

theorem Matched.refused (agree : AgreeOn cell region s t) (reply : Reply) :
    Matched region s t (reply, s) (reply, t) := ⟨rfl, .start agree⟩

theorem Matched.edited (agree : AgreeOn cell region s t) (member : key ∈ region) (reply : Reply)
    (value : Edit Value) (deadline : Edit Int) :
    Matched region s t (reply, s.edit key value deadline) (reply, t.edit key value deadline) :=
  ⟨rfl, (Within.start agree).edit member value deadline⟩

/-! ### Every command stays within its footprint -/

section Arms

variable {cmd : Command}

theorem sameData (agree : AgreeOn cell region s t) (member : key ∈ region) :
    s.data[key]? = t.data[key]? := (Prod.mk.inj (agree key member)).1

theorem sameTtl (agree : AgreeOn cell region s t) (member : key ∈ region) :
    s.ttl[key]? = t.ttl[key]? := (Prod.mk.inj (agree key member)).2

theorem sameContains (agree : AgreeOn cell region s t) (member : key ∈ region) :
    s.data.contains key = t.data.contains key := by
  rw [ExtTreeMap.contains_eq_isSome_getElem?, ExtTreeMap.contains_eq_isSome_getElem?,
    sameData agree member]

section Keyed

variable (agree : AgreeOn cell region s t) (keyed : ∀ key, cmd.arg 1 = some key → key ∈ region)

include agree keyed

theorem applySet_matched : Matched region s t (s.applySet cmd) (t.applySet cmd) := by
  unfold applySet
  cases first : cmd.arg 1 with
  | none => exact .refused agree _
  | some k =>
      cases cmd.arg 2 with
      | none => exact .refused agree _
      | some v => exact .edited agree (keyed k first) _ (.put (.str v)) .drop

theorem applySetnx_matched : Matched region s t (s.applySetnx cmd) (t.applySetnx cmd) := by
  unfold applySetnx
  cases first : cmd.arg 1 with
  | none => exact .refused agree _
  | some k =>
      cases cmd.arg 2 with
      | none => exact .refused agree _
      | some v =>
          simp only [sameContains agree (keyed k first)]
          split
          · exact .refused agree _
          · exact .edited agree (keyed k first) _ (.put (.str v)) .keep

theorem applyGetset_matched : Matched region s t (s.applyGetset cmd) (t.applyGetset cmd) := by
  unfold applyGetset
  cases first : cmd.arg 1 with
  | none => exact .refused agree _
  | some k =>
      cases cmd.arg 2 with
      | none => exact .refused agree _
      | some v =>
          simp only [sameData agree (keyed k first)]
          split
          · exact .edited agree (keyed k first) _ (.put (.str v)) .drop
          · exact .edited agree (keyed k first) _ (.put (.str v)) .keep
          · exact .edited agree (keyed k first) _ (.put (.str v)) .drop

theorem applyAppend_matched : Matched region s t (s.applyAppend cmd) (t.applyAppend cmd) := by
  unfold applyAppend
  cases first : cmd.arg 1 with
  | none => exact .refused agree _
  | some k =>
      cases cmd.arg 2 with
      | none => exact .refused agree _
      | some v =>
          simp only [sameData agree (keyed k first)]
          split
          · exact .edited agree (keyed k first) _ (.put (.str _)) .keep
          · exact .refused agree _

theorem applyIncr_matched : Matched region s t (s.applyIncr cmd) (t.applyIncr cmd) := by
  unfold applyIncr
  cases first : cmd.key with
  | none => exact .refused agree _
  | some k =>
      cases incrDelta cmd with
      | error reply => exact .refused agree _
      | ok delta =>
          simp only [sameData agree (keyed k first)]
          split
          · split
            · split
              · exact .edited agree (keyed k first) _ (.put (.str _)) .keep
              · exact .refused agree _
            · exact .refused agree _
          · exact .refused agree _
          · split
            · exact .edited agree (keyed k first) _ (.put (.str _)) .keep
            · exact .refused agree _

theorem applyExpire_matched : Matched region s t (s.applyExpire cmd) (t.applyExpire cmd) := by
  unfold applyExpire
  cases first : cmd.key with
  | none => exact .refused agree _
  | some k =>
      simp only [sameContains agree (keyed k first)]
      split
      · exact .edited agree (keyed k first) _ .keep (.put _)
      · exact .refused agree _

theorem applyPersist_matched : Matched region s t (s.applyPersist cmd) (t.applyPersist cmd) := by
  unfold applyPersist
  cases first : cmd.key with
  | none => exact .refused agree _
  | some k =>
      simp only [ExtTreeMap.contains_eq_isSome_getElem?, sameTtl agree (keyed k first)]
      split
      · exact .edited agree (keyed k first) _ .keep .drop
      · exact .refused agree _

theorem applyHset_matched : Matched region s t (s.applyHset cmd) (t.applyHset cmd) := by
  unfold applyHset
  cases first : cmd.key with
  | none => exact .refused agree _
  | some k =>
      simp only [sameData agree (keyed k first)]
      split
      · exact .refused agree _
      · split
        · exact .edited agree (keyed k first) _ (.put (.hash _)) .keep
        · exact .refused agree _

theorem applyHsetnx_matched : Matched region s t (s.applyHsetnx cmd) (t.applyHsetnx cmd) := by
  unfold applyHsetnx
  cases first : cmd.arg 1 with
  | none => exact .refused agree _
  | some k =>
      cases cmd.arg 2 with
      | none => exact .refused agree _
      | some f =>
          cases cmd.arg 3 with
          | none => exact .refused agree _
          | some v =>
              simp only [sameData agree (keyed k first)]
              split
              · split
                · exact .edited agree (keyed k first) _ (.put (.hash _)) .keep
                · exact .edited agree (keyed k first) _ (.put (.hash _)) .keep
              · exact .refused agree _

theorem applyHdel_matched : Matched region s t (s.applyHdel cmd) (t.applyHdel cmd) := by
  unfold applyHdel
  cases first : cmd.key with
  | none => exact .refused agree _
  | some k =>
      simp only [sameData agree (keyed k first)]
      split
      · split
        · exact .edited agree (keyed k first) _ .drop .keep
        · exact .edited agree (keyed k first) _ (.put (.hash _)) .keep
      · exact .refused agree _
      · exact .refused agree _

theorem applyHincrby_matched : Matched region s t (s.applyHincrby cmd) (t.applyHincrby cmd) := by
  unfold applyHincrby
  cases first : cmd.arg 1 with
  | none => exact .refused agree _
  | some k =>
      cases cmd.arg 2 with
      | none => exact .refused agree _
      | some f =>
          cases cmd.arg 3 with
          | none => exact .refused agree _
          | some by_ =>
              dsimp only
              cases asInt by_ with
              | none => exact .refused agree _
              | some delta =>
                  have put (reply : Reply) (h : ExtTreeMap Bytes Bytes) :=
                    Matched.edited agree (keyed k first) reply (.put (.hash h)) .keep
                  simp only [sameData agree (keyed k first)]
                  repeat' split
                  all_goals first | exact put _ _ | exact .refused agree _

theorem applySadd_matched : Matched region s t (s.applySadd cmd) (t.applySadd cmd) := by
  unfold applySadd
  cases first : cmd.key with
  | none => exact .refused agree _
  | some k =>
      simp only [sameData agree (keyed k first)]
      split
      · exact .edited agree (keyed k first) _ (.put (.set _)) .keep
      · exact .refused agree _

theorem applySrem_matched : Matched region s t (s.applySrem cmd) (t.applySrem cmd) := by
  unfold applySrem
  cases first : cmd.key with
  | none => exact .refused agree _
  | some k =>
      simp only [sameData agree (keyed k first)]
      split
      · split
        · exact .edited agree (keyed k first) _ .drop .keep
        · exact .edited agree (keyed k first) _ (.put (.set _)) .keep
      · exact .refused agree _
      · exact .refused agree _

theorem applyRename_matched (target : ∀ key, cmd.arg 2 = some key → key ∈ region) :
    Matched region s t (s.applyRename cmd) (t.applyRename cmd) := by
  unfold applyRename
  cases first : cmd.arg 1 with
  | none => exact .refused agree _
  | some src =>
      cases second : cmd.arg 2 with
      | none => exact .refused agree _
      | some dst =>
          simp only [sameData agree (keyed src first), sameTtl agree (keyed src first)]
          split
          · rename_i v _
            have taken := (Within.start agree).edit (keyed src first) .drop .drop
            split
            · exact ⟨rfl, taken.edit (target dst second) (.put v) (.put _)⟩
            · exact ⟨rfl, taken.edit (target dst second) (.put v) .drop⟩
          · exact .refused agree _

end Keyed

theorem removeKeys_within (keys : List Bytes) (named : ∀ key ∈ keys, key ∈ region) (removed : Int)
    (within : Within region s t s' t') :
    (removeKeys keys removed s').1 = (removeKeys keys removed t').1 ∧
      Within region s t (removeKeys keys removed s').2 (removeKeys keys removed t').2 := by
  induction keys generalizing removed s' t' with
  | nil => exact ⟨rfl, within⟩
  | cons first rest ih =>
      have member := named first List.mem_cons_self
      rw [removeKeys, removeKeys, sameContains within.agree member]
      exact ih (fun key later => named key (List.mem_cons_of_mem first later)) _
        (within.edit member .drop .drop)

theorem applyDel_matched (agree : AgreeOn cell region s t)
    (named : ∀ key ∈ cmd.argv.drop 1, key ∈ region) :
    Matched region s t (s.applyDel cmd) (t.applyDel cmd) := by
  obtain ⟨counted, within⟩ := removeKeys_within (cmd.argv.drop 1) named 0 (Within.start agree)
  exact ⟨congrArg Reply.integer counted, within⟩

end Arms

/-! ### Commands without a common key commute -/

theorem mem_take_of_arg {cmd : Command} {position count : Nat} (early : position < count)
    (named : cmd.arg (position + 1) = some key) : key ∈ (cmd.argv.drop 1).take count := by
  have found : ((cmd.argv.drop 1).take count)[position]? = some key := by
    rw [List.getElem?_take_of_lt early, List.getElem?_drop, Nat.add_comm]
    exact named
  exact List.mem_of_getElem? found

def manyKeyed : List String := ["DEL", "UNLINK", "RENAME"]

theorem footprint_single {cmd : Command} (single : cmd.name ∉ manyKeyed) :
    cmd.footprint = (cmd.argv.drop 1).take 1 := by
  unfold Command.footprint
  split
  · rename_i named
    rw [named] at single
    exact absurd (by decide) single
  · rename_i named
    rw [named] at single
    exact absurd (by decide) single
  · rename_i named
    rw [named] at single
    exact absurd (by decide) single
  · rfl

theorem apply_matched_many {cmd : Command} (many : cmd.name ∈ manyKeyed)
    (agree : AgreeOn cell {key | key ∈ cmd.footprint} s t) :
    Matched {key | key ∈ cmd.footprint} s t (s.apply cmd) (t.apply cmd) := by
  have operands (footprint : cmd.footprint = cmd.argv.drop 1) :
      Matched {key | key ∈ cmd.footprint} s t (s.applyDel cmd) (t.applyDel cmd) := by
    refine applyDel_matched agree (fun key member => ?_)
    change key ∈ cmd.footprint
    rw [footprint]
    exact member
  simp only [manyKeyed, List.mem_cons, List.not_mem_nil, or_false] at many
  rcases many with named | named | named
  · simp only [apply, named]
    exact operands (by simp only [Command.footprint, named])
  · simp only [apply, named]
    exact operands (by simp only [Command.footprint, named])
  · have pair : cmd.footprint = (cmd.argv.drop 1).take 2 := by
      simp only [Command.footprint, named]
    simp only [apply, named]
    apply applyRename_matched agree
    · intro key source
      change key ∈ cmd.footprint
      rw [pair]
      exact mem_take_of_arg (by decide) source
    · intro key target
      change key ∈ cmd.footprint
      rw [pair]
      exact mem_take_of_arg (by decide) target

theorem apply_matched (cmd : Command) (stays : cmd.flushes = false)
    (agree : AgreeOn cell {key | key ∈ cmd.footprint} s t) :
    Matched {key | key ∈ cmd.footprint} s t (s.apply cmd) (t.apply cmd) := by
  by_cases many : cmd.name ∈ manyKeyed
  · exact apply_matched_many many agree
  have keyed : ∀ key, cmd.arg 1 = some key → key ∈ cmd.footprint := by
    intro key first
    rw [footprint_single many]
    exact mem_take_of_arg (by decide) first
  unfold apply
  split
  · exact applySet_matched agree keyed
  · exact applySetnx_matched agree keyed
  · exact applyGetset_matched agree keyed
  · exact applyAppend_matched agree keyed
  · rename_i named
    simp [manyKeyed, named] at many
  · rename_i named
    simp [manyKeyed, named] at many
  · exact applyIncr_matched agree keyed
  · exact applyIncr_matched agree keyed
  · exact applyIncr_matched agree keyed
  · exact applyIncr_matched agree keyed
  · exact applyExpire_matched agree keyed
  · exact applyExpire_matched agree keyed
  · exact applyExpire_matched agree keyed
  · exact applyExpire_matched agree keyed
  · exact applyPersist_matched agree keyed
  · rename_i named
    simp [manyKeyed, named] at many
  · exact applyHset_matched agree keyed
  · exact applyHset_matched agree keyed
  · exact applyHsetnx_matched agree keyed
  · exact applyHdel_matched agree keyed
  · exact applyHincrby_matched agree keyed
  · exact applySadd_matched agree keyed
  · exact applySrem_matched agree keyed
  · rename_i named
    simp [Command.flushes, named] at stays
  · rename_i named
    simp [Command.flushes, named] at stays
  · exact .refused agree _

theorem apply_confined (cmd : Command) (stays : cmd.flushes = false) :
    Confined cell {key | key ∈ cmd.footprint} (fun store => store.apply cmd) where
  answer _ _ agree := (apply_matched cmd stays agree).reply
  written _ _ agree := (apply_matched cmd stays agree).within.agree
  frame s := (apply_matched (t := s) cmd stays (fun _ _ => rfl)).within.frame

/-- Two commands without a common key leave the same store in either order, and
each gets the reply it would get alone. -/
theorem disjoint_commands_commute (store : MemStore) (first second : Command)
    (firstStays : first.flushes = false) (secondStays : second.flushes = false)
    (disjoint : ∀ key ∈ first.footprint, key ∉ second.footprint) :
    ((store.apply first).2.apply second).2 = ((store.apply second).2.apply first).2 ∧
      ((store.apply second).2.apply first).1 = (store.apply first).1 ∧
      ((store.apply first).2.apply second).1 = (store.apply second).1 :=
  (apply_confined first firstStays).commute ext_cell (apply_confined second secondStays) disjoint
    store

def renameCounter : Command :=
  { name := "RENAME", argv := ["RENAME", "counter", "total"].map asBytes }

def dropLocks : Command :=
  { name := "DEL", argv := ["DEL", "lock:a", "lock:b"].map asBytes }

def oneLock : MemStore :=
  { data := (∅ : ExtTreeMap Bytes Value).insert (asBytes "lock:a") (.str (asBytes "one"))
    ttl := (∅ : ExtTreeMap Bytes Int).insert (asBytes "lock:a") 10 }

theorem disjoint_commands_commute_rename :
    ((oneLock.apply renameCounter).2.apply dropLocks).2 =
        ((oneLock.apply dropLocks).2.apply renameCounter).2 ∧
      ((oneLock.apply dropLocks).2.apply renameCounter).1 = (oneLock.apply renameCounter).1 ∧
      ((oneLock.apply renameCounter).2.apply dropLocks).1 = (oneLock.apply dropLocks).1 :=
  disjoint_commands_commute oneLock renameCounter dropLocks rfl rfl (by decide)

end MemStore

end TrainsValkey
