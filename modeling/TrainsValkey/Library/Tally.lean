import Mathlib

/-
Counters by key that drop a key when its count comes to zero.

Such a map tallies a list when it has, for every key that occurs, the number of
its occurrences, and no other key.  The list determines the map, and the
counters add up to the length of the list.
-/

set_option autoImplicit false

namespace TrainsValkey.Library

open Std (ExtTreeMap)

universe u

variable {Key : Type u} [Ord Key] [Std.TransOrd Key] [DecidableEq Key]

def Tally (counts : ExtTreeMap Key Nat) (items : List Key) : Prop :=
  ∀ key, counts[key]? = if items.count key = 0 then none else some (items.count key)

namespace Tally

variable {counts : ExtTreeMap Key Nat} {items : List Key}

theorem empty : Tally (∅ : ExtTreeMap Key Nat) [] := by
  intro key
  simp

theorem getD_eq (tally : Tally counts items) (key : Key) : counts.getD key 0 = items.count key := by
  rw [ExtTreeMap.getD_eq_getD_getElem?, tally key]
  split
  · rename_i none
    exact none.symm
  · rfl

theorem ne_zero (tally : Tally counts items) (key : Key) : counts[key]? ≠ some 0 := by
  rw [tally key]
  split
  · exact Option.some_ne_none 0 |>.symm
  · rename_i some_
    exact fun zero => some_ (Option.some.inj zero)

theorem mem_iff (tally : Tally counts items) (key : Key) : key ∈ counts ↔ key ∈ items := by
  rw [ExtTreeMap.mem_iff_isSome_getElem?, tally key, ← List.count_pos_iff]
  split
  · rename_i none
    simp [none]
  · rename_i some_
    simp [Nat.pos_of_ne_zero some_]

theorem perm {others : List Key} (tally : Tally counts items) (perm : items.Perm others) :
    Tally counts others := by
  intro key
  rw [tally key, perm.count_eq]

variable [Std.LawfulEqOrd Key]

theorem unique {other : ExtTreeMap Key Nat} {others : List Key} (tally : Tally counts items)
    (otherTally : Tally other others) (perm : items.Perm others) : counts = other := by
  apply ExtTreeMap.ext_getElem?
  intro key
  rw [tally key, otherTally key, perm.count_eq]

theorem cons (tally : Tally counts items) (key : Key) :
    Tally (counts.insert key (items.count key + 1)) (key :: items) := by
  intro other
  rw [ExtTreeMap.getElem?_insert]
  by_cases same : key = other
  · subst same
    simp
  · have apart : ¬compare key other = .eq := by simpa using same
    rw [if_neg apart, tally other, List.count_cons_of_ne same]

theorem erase_last {key : Key} (tally : Tally counts (key :: items)) (last : items.count key = 0) :
    Tally (counts.erase key) items := by
  intro other
  rw [ExtTreeMap.getElem?_erase]
  by_cases same : key = other
  · subst same
    simp [last]
  · have apart : ¬compare key other = .eq := by simpa using same
    rw [if_neg apart, tally other, List.count_cons_of_ne same]

theorem tail {key : Key} (tally : Tally counts (key :: items)) (more : items.count key ≠ 0) :
    Tally (counts.insert key (items.count key)) items := by
  intro other
  rw [ExtTreeMap.getElem?_insert]
  by_cases same : key = other
  · subst same
    simp [more]
  · have apart : ¬compare key other = .eq := by simpa using same
    rw [if_neg apart, tally other, List.count_cons_of_ne same]

theorem sum_values (tally : Tally counts items) :
    (counts.toList.map (·.2)).sum = items.length := by
  have values : counts.toList.map (·.2) = counts.keys.map (fun key => items.count key) := by
    rw [← ExtTreeMap.map_fst_toList_eq_keys, List.map_map]
    apply List.map_congr_left
    intro entry member
    have found := ExtTreeMap.mem_toList_iff_getElem?_eq_some.mp member
    rw [tally entry.1] at found
    split at found
    · cases found
    · exact (Option.some.inj found).symm
  have nodup : counts.keys.Nodup := ExtTreeMap.nodup_keys
  have covers : ∀ key ∈ (items : Multiset Key), key ∈ counts.keys.toFinset := by
    intro key member
    rw [List.mem_toFinset, ExtTreeMap.mem_keys, tally.mem_iff]
    exact Multiset.mem_coe.mp member
  have counted := Multiset.sum_count_eq_card covers
  simp only [Multiset.coe_count, Multiset.coe_card] at counted
  rw [values, ← List.sum_toFinset _ nodup, counted]

end Tally

end TrainsValkey.Library
