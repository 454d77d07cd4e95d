import TrainsValkey.StoreWrites

/-
Hashes and sets that have lost, or never had, an element.

A hash or a set comes into being with its first element and goes away with its
last one, so a key that a read reports has something under it.
-/

set_option autoImplicit false

namespace TrainsValkey

open Std (ExtTreeMap ExtTreeSet)

def Value.hasElement : Value → Bool
  | .str _ => true
  | .hash fields => !fields.isEmpty
  | .set members => !members.isEmpty

theorem Value.hasElement_hash {fields : ExtTreeMap Bytes Bytes} :
    (Value.hash fields).hasElement = true ↔ fields ≠ ∅ := by
  rw [hasElement, Bool.not_eq_true', ExtTreeMap.isEmpty_eq_false_iff]

theorem Value.hasElement_set {members : ExtTreeSet Bytes} :
    (Value.set members).hasElement = true ↔ members ≠ ∅ := by
  rw [hasElement, Bool.not_eq_true', ExtTreeSet.isEmpty_eq_false_iff]

theorem Value.hasElement_hash_insert (fields : ExtTreeMap Bytes Bytes) (f v : Bytes) :
    (Value.hash (fields.insert f v)).hasElement = true :=
  hasElement_hash.mpr ExtTreeMap.insert_ne_empty

namespace MemStore

/-- Every key of the table has an element under it. -/
structure Full (data : ExtTreeMap Bytes Value) : Prop where
  element : ∀ (key : Bytes) (value : Value), data[key]? = some value → value.hasElement = true

def holdsElement (store : MemStore) (key : Bytes) : Bool :=
  store.data[key]?.any Value.hasElement

/-- What the reads report are keys with an element under them. -/
structure ReportsElements (store : MemStore) : Prop where
  full : Full store.data
  exists_ : ∀ now cmd, cmd.name = "EXISTS" →
    store.query now cmd = .integer ((cmd.argv.drop 1).countP store.holdsElement)
  dbsize : ∀ now cmd, cmd.name = "DBSIZE" →
    store.query now cmd = .integer (store.data.keys.countP store.holdsElement)
  type_ : ∀ now cmd, cmd.name = "TYPE" → store.query now cmd ≠ .simple "none" →
    store.holdsElement (cmd.key.getD []) = true
  keys : ∀ now cmd, cmd.name = "KEYS" → ∃ reported, store.query now cmd = bulks reported ∧
    ∀ key ∈ reported, store.holdsElement key = true

section Full

variable {data : ExtTreeMap Bytes Value} {key : Bytes} {value : Value}

theorem Full.insert (full : Full data) (element : value.hasElement = true) :
    Full (data.insert key value) := by
  constructor
  intro other found held
  by_cases same : other = key
  · subst same
    rw [ExtTreeMap.getElem?_insert_self] at held
    cases held
    exact element
  · rw [getElem?_insert_of_ne data same] at held
    exact full.element other found held

theorem Full.erase (full : Full data) : Full (data.erase key) := by
  constructor
  intro other found held
  by_cases same : other = key
  · subst same
    rw [ExtTreeMap.getElem?_erase_self] at held
    cases held
  · rw [getElem?_erase_of_ne data same] at held
    exact full.element other found held

theorem full_empty : Full ∅ where
  element key value held := by
    rw [ExtTreeMap.getElem?_empty] at held
    cases held

theorem Full.removeKeys {store : MemStore} (full : Full store.data) (keys : List Bytes)
    (removed : Int) : Full (MemStore.removeKeys keys removed store).2.data := by
  induction keys generalizing store removed with
  | nil => exact full
  | cons first rest ih =>
      have erased : Full (store.data.erase first) := full.erase
      exact @ih { data := store.data.erase first, ttl := store.ttl.erase first } erased _

end Full

/-! ### What the loops leave -/

theorem insertPairs_ne_empty (operands : List Bytes) (added : Int) (h : ExtTreeMap Bytes Bytes)
    (inhabited : h ≠ ∅) : (insertPairs operands added h).2 ≠ ∅ := by
  induction operands, added, h using insertPairs.induct with
  | case1 f v rest added h ih =>
      rw [insertPairs]
      exact ih ExtTreeMap.insert_ne_empty
  | case2 operands added h short =>
      rw [insertPairs]
      · exact inhabited
      · exact short

theorem insertPairs_fills (argv : List Bytes) (h : ExtTreeMap Bytes Bytes)
    (long : 4 ≤ argv.length) : (insertPairs (argv.drop 2) 0 h).2 ≠ ∅ := by
  obtain ⟨f, v, rest, operands⟩ : ∃ f v rest, argv.drop 2 = f :: v :: rest := by
    match named : argv.drop 2 with
    | [] | [_] =>
        have length := congrArg List.length named
        simp only [List.length_drop, List.length_nil, List.length_singleton] at length
        omega
    | f :: v :: rest => exact ⟨f, v, rest, rfl⟩
  rw [operands, insertPairs]
  exact insertPairs_ne_empty rest _ _ ExtTreeMap.insert_ne_empty

theorem insertMembers_eq_empty (ms : List Bytes) (added : Int) (s : ExtTreeSet Bytes) :
    (insertMembers ms added s).2 = ∅ ↔ ms = [] ∧ s = ∅ := by
  induction ms generalizing added s with
  | nil => simp [insertMembers]
  | cons m rest ih =>
      rw [insertMembers, ih]
      simp [ExtTreeSet.insert_ne_empty]

/-! ### Every write but one keeps keys full -/

/-- A `SADD` that names no member, under a key that is absent. -/
def Hollow (store : MemStore) (cmd : Command) : Prop :=
  cmd.name = "SADD" ∧ ∃ key, cmd.key = some key ∧ cmd.argv.drop 2 = [] ∧ key ∉ store.data

section Arms

variable {store : MemStore} {cmd : Command}

theorem applySet_full (full : Full store.data) : Full (store.applySet cmd).2.data := by
  unfold applySet
  split
  · exact full.insert rfl
  · exact full

theorem applySetnx_full (full : Full store.data) : Full (store.applySetnx cmd).2.data := by
  unfold applySetnx
  split
  · split
    · exact full
    · exact full.insert rfl
  · exact full

theorem applyGetset_full (full : Full store.data) : Full (store.applyGetset cmd).2.data := by
  unfold applyGetset
  split
  · dsimp only
    repeat' split
    all_goals exact full.insert rfl
  · exact full

theorem applyAppend_full (full : Full store.data) : Full (store.applyAppend cmd).2.data := by
  unfold applyAppend
  split
  · split
    · exact full.insert rfl
    · exact full
  · exact full

theorem applyExpire_full (full : Full store.data) : Full (store.applyExpire cmd).2.data := by
  unfold applyExpire
  repeat' split
  all_goals exact full

theorem applyPersist_full (full : Full store.data) : Full (store.applyPersist cmd).2.data := by
  unfold applyPersist
  repeat' split
  all_goals exact full

theorem applyRename_full (full : Full store.data) : Full (store.applyRename cmd).2.data := by
  unfold applyRename
  split
  · split
    · rename_i held
      exact full.erase.insert (full.element _ _ held)
    · exact full
  · exact full

theorem applyIncr_full (full : Full store.data) : Full (store.applyIncr cmd).2.data := by
  unfold applyIncr
  cases cmd.key with
  | none => exact full
  | some k =>
      simp only
      cases incrDelta cmd with
      | error reply => exact full
      | ok delta =>
          simp only
          repeat' split
          all_goals first | exact full | exact full.insert rfl

theorem applyHset_full (full : Full store.data) : Full (store.applyHset cmd).2.data := by
  unfold applyHset
  split
  · exact full
  · split
    · exact full
    · rename_i arity
      split
      · have long : 4 ≤ cmd.argv.length := Nat.le_of_not_lt (fun short => arity (.inl short))
        exact full.insert (Value.hasElement_hash.mpr (insertPairs_fills cmd.argv _ long))
      · exact full

theorem applyHsetnx_full (full : Full store.data) : Full (store.applyHsetnx cmd).2.data := by
  unfold applyHsetnx
  split
  · rename_i k f v _ _ _
    split
    · rename_i h _
      split
      · rename_i present
        have member := ExtTreeMap.contains_iff_mem.mp present
        exact full.insert (Value.hasElement_hash.mpr (ExtTreeMap.ne_empty_of_mem member))
      · exact full.insert (Value.hasElement_hash_insert h f v)
    · exact full
  · exact full

theorem applyHdel_full (full : Full store.data) : Full (store.applyHdel cmd).2.data := by
  unfold applyHdel
  split
  · exact full
  · split
    · dsimp only
      split
      · exact full.erase
      · rename_i inhabited
        refine full.insert ?_
        rw [Value.hasElement, Bool.eq_false_of_not_eq_true inhabited]
        rfl
    · exact full
    · exact full

theorem applySrem_full (full : Full store.data) : Full (store.applySrem cmd).2.data := by
  unfold applySrem
  split
  · exact full
  · split
    · dsimp only
      split
      · exact full.erase
      · rename_i inhabited
        refine full.insert ?_
        rw [Value.hasElement, Bool.eq_false_of_not_eq_true inhabited]
        rfl
    · exact full
    · exact full

theorem applyHincrby_full (full : Full store.data) : Full (store.applyHincrby cmd).2.data := by
  unfold applyHincrby
  split
  · rename_i k f by_ _ _ _
    cases read : asInt by_ with
    | none => exact full
    | some delta =>
        cases held : store.data[k]? with
        | none =>
            -- nothing overflows from zero, so the fresh hash is never left empty
            have fromZero : checkedAdd 0 delta = some delta := by
              rw [checkedAdd, Int.zero_add, if_pos (asInt_fits read)]
            simp only [Option.getD_none, ExtTreeMap.getElem?_empty, fromZero]
            exact full.insert (Value.hasElement_hash_insert ∅ f (i64Bytes delta))
        | some value =>
            cases value with
            | str bytes => exact full
            | set members => exact full
            | hash h =>
                have back : Full (store.data.insert k (.hash h)) :=
                  full.insert (full.element k _ held)
                have put (next : Bytes) : Full (store.data.insert k (.hash (h.insert f next))) :=
                  full.insert (Value.hasElement_hash_insert h f next)
                simp only [Option.getD_some]
                repeat' split
                all_goals first | exact back | exact put _
  · exact full

theorem applySadd_full (full : Full store.data) (named : cmd.name = "SADD")
    (spared : ¬store.Hollow cmd) : Full (store.applySadd cmd).2.data := by
  unfold applySadd
  cases keyed : cmd.key with
  | none => exact full
  | some k =>
      simp only
      cases held : store.data[k]? with
      | none =>
          have someMember : cmd.argv.drop 2 ≠ [] := fun noMember =>
            spared ⟨named, k, keyed, noMember, getElem?_none_iff.mp held⟩
          refine full.insert (Value.hasElement_set.mpr ?_)
          intro empty
          exact someMember ((insertMembers_eq_empty _ _ _).mp empty).1
      | some value =>
          cases value with
          | str bytes => exact full
          | hash h => exact full
          | set members =>
              have inhabited := Value.hasElement_set.mp (full.element k _ held)
              refine full.insert (Value.hasElement_set.mpr ?_)
              intro empty
              exact inhabited ((insertMembers_eq_empty _ _ _).mp empty).2

theorem Full.apply (full : Full store.data) (spared : ¬store.Hollow cmd) :
    Full (store.apply cmd).2.data := by
  unfold MemStore.apply
  split
  · exact applySet_full full
  · exact applySetnx_full full
  · exact applyGetset_full full
  · exact applyAppend_full full
  · exact full.removeKeys _ _
  · exact full.removeKeys _ _
  · exact applyIncr_full full
  · exact applyIncr_full full
  · exact applyIncr_full full
  · exact applyIncr_full full
  · exact applyExpire_full full
  · exact applyExpire_full full
  · exact applyExpire_full full
  · exact applyExpire_full full
  · exact applyPersist_full full
  · exact applyRename_full full
  · exact applyHset_full full
  · exact applyHset_full full
  · exact applyHsetnx_full full
  · exact applyHdel_full full
  · exact applyHincrby_full full
  · rename_i named
    exact applySadd_full full named spared
  · exact applySrem_full full
  · exact full_empty
  · exact full_empty
  · exact full

end Arms

/-! ### What the reads report -/

section Reads

variable {store : MemStore}

theorem Full.holdsElement_eq (full : Full store.data) (key : Bytes) :
    store.holdsElement key = store.data.contains key := by
  rw [holdsElement, ExtTreeMap.contains_eq_isSome_getElem?]
  cases held : store.data[key]? with
  | none => rfl
  | some value => exact full.element key value held

theorem Full.reports (full : Full store.data) : store.ReportsElements where
  full := full
  exists_ now cmd named := by
    have same : store.holdsElement = fun key => store.data.contains key :=
      funext full.holdsElement_eq
    simp only [query, named, same]
  dbsize now cmd named := by
    have all : store.data.keys.countP store.holdsElement = store.data.keys.length := by
      rw [List.countP_eq_length]
      intro key member
      rw [full.holdsElement_eq]
      exact ExtTreeMap.contains_iff_mem.mpr (ExtTreeMap.mem_keys.mp member)
    simp only [query, named, all, ExtTreeMap.length_keys]
  type_ now cmd named reported := by
    rw [holdsElement]
    simp only [query, named, atKey] at reported
    cases held : store.data[cmd.key.getD []]? with
    | none =>
        rw [held] at reported
        exact absurd rfl reported
    | some value => exact full.element _ value held
  keys now cmd named := by
    refine ⟨store.data.keys, by simp only [query, named], ?_⟩
    intro key member
    rw [full.holdsElement_eq]
    exact ExtTreeMap.contains_iff_mem.mpr (ExtTreeMap.mem_keys.mp member)

theorem Hollow.not_full {cmd : Command} (hollow : store.Hollow cmd) :
    ¬Full (store.apply cmd).2.data := by
  obtain ⟨named, key, keyed, noMember, absent⟩ := hollow
  intro full
  have held : (store.apply cmd).2.data[key]? = some (.set ∅) := by
    unfold apply
    simp only [named, applySadd, keyed, noMember, getElem?_none_iff.mpr absent, Option.getD_none,
      insertMembers, ExtTreeMap.getElem?_insert_self]
  exact Value.hasElement_set.mp (full.element key _ held) rfl

end Reads

/-- In every state of a run the reads report keys with elements exactly when no
step of the run is a `SADD` of nothing to an absent key. -/
theorem no_empty_aggregates_iff (cmds : List Command) :
    (∀ before, before <+: cmds → (writes.run new before).1.ReportsElements) ↔
      ∀ before cmd, before ++ [cmd] <+: cmds → ¬(writes.run new before).1.Hollow cmd := by
  have keeps (store : MemStore) (cmd : Command) (full : Full store.data)
      (spared : ¬store.Hollow cmd) : Full (writes.step store cmd).1.data := full.apply spared
  have needed (store : MemStore) (cmd : Command) (reports : (writes.step store cmd).1.ReportsElements) :
      ¬store.Hollow cmd := fun hollow => hollow.not_full reports.full
  exact writes.run_safe_iff keeps (fun _ full => full.reports) needed full_empty cmds

/-! ### A set without a member -/

def saddNothing : Command := { name := "SADD", argv := [asBytes "SADD", asBytes "s"] }

def existsS : Command := { name := "EXISTS", argv := [asBytes "EXISTS", asBytes "s"] }

def membersS : Command := { name := "SMEMBERS", argv := [asBytes "SMEMBERS", asBytes "s"] }

theorem sadd_nothing_makes_key :
    ¬Full (new.apply saddNothing).2.data ∧
      (new.apply saddNothing).2.query ⟨0, 0⟩ existsS = .integer 1 ∧
      (new.apply saddNothing).2.query ⟨0, 0⟩ membersS = .array [] := by
  refine ⟨?_, by decide, by decide⟩
  exact Hollow.not_full ⟨rfl, asBytes "s", rfl, rfl, ExtTreeMap.not_mem_empty⟩

end MemStore

end TrainsValkey
