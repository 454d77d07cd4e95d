import Mathlib.Data.List.Perm.Subperm
import Mathlib.Data.List.Sort

/-
Listings: values that come with the index each of them belongs at.

A listing that gives every index below its length once is the numbered list of
its values in another order, and sorting it by index yields that list.  What
stands at one index can be exchanged, up to the order of the rest.
-/

set_option autoImplicit false

namespace TrainsValkey.Library

universe u

variable {α : Type u}

def numbered (values : List α) : List (Nat × α) := values.zipIdx.map Prod.swap

def byIndex (listing : List (Nat × α)) : List (Nat × α) :=
  listing.mergeSort (fun a b => decide (a.1 ≤ b.1))

@[simp] theorem length_numbered (values : List α) : (numbered values).length = values.length := by
  rw [numbered, List.length_map, List.length_zipIdx]

theorem getElem?_numbered (values : List α) (index : Nat) :
    (numbered values)[index]? = values[index]?.map (fun value => (index, value)) := by
  rw [numbered, List.getElem?_map, List.getElem?_zipIdx, Option.map_map, Nat.zero_add]
  rfl

theorem mem_numbered {values : List α} {index : Nat} {value : α} :
    (index, value) ∈ numbered values ↔ values[index]? = some value := by
  constructor
  · intro member
    obtain ⟨place, found⟩ := List.mem_iff_getElem?.mp member
    rw [getElem?_numbered] at found
    obtain ⟨other, here, same⟩ := Option.map_eq_some_iff.mp found
    obtain ⟨rfl, rfl⟩ := Prod.mk.inj same
    exact here
  · intro here
    apply List.mem_iff_getElem?.mpr
    refine ⟨index, ?_⟩
    rw [getElem?_numbered, here]
    rfl

@[simp] theorem values_numbered (values : List α) : (numbered values).map Prod.snd = values := by
  apply List.ext_getElem?
  intro index
  rw [List.getElem?_map, getElem?_numbered, Option.map_map]
  cases values[index]? with
  | none => rfl
  | some value => rfl

theorem numbered_pairwise (values : List α) :
    (numbered values).Pairwise (fun a b => a.1 < b.1) := by
  rw [List.pairwise_iff_getElem]
  intro low high lowBound highBound less
  have place (index : Nat) (bound : index < (numbered values).length) :
      (numbered values)[index].1 = index := by
    have found := getElem?_numbered values index
    rw [List.getElem?_eq_getElem bound] at found
    obtain ⟨value, _, same⟩ := Option.map_eq_some_iff.mp found.symm
    rw [← same]
  rw [place low lowBound, place high highBound]
  exact less

theorem eq_numbered_iff {listing : List (Nat × α)} :
    listing = numbered (listing.map Prod.snd) ↔
      ∀ (place : Nat) (entry : Nat × α), listing[place]? = some entry → entry.1 = place := by
  constructor
  · intro same place entry found
    rw [same, getElem?_numbered] at found
    obtain ⟨value, _, rfl⟩ := Option.map_eq_some_iff.mp found
    rfl
  · intro placed
    apply List.ext_getElem?
    intro index
    rw [getElem?_numbered, List.getElem?_map, Option.map_map]
    cases found : listing[index]? with
    | none => rfl
    | some entry =>
        have here := placed index entry found
        subst here
        rfl

theorem byIndex_perm (listing : List (Nat × α)) : (byIndex listing).Perm listing :=
  List.mergeSort_perm listing _

theorem byIndex_pairwise (listing : List (Nat × α)) :
    (byIndex listing).Pairwise (fun a b => a.1 ≤ b.1) := by
  have trans : ∀ a b c : Nat × α, decide (a.1 ≤ b.1) = true → decide (b.1 ≤ c.1) = true →
      decide (a.1 ≤ c.1) = true := by
    intro a b c first second
    exact decide_eq_true (Nat.le_trans (of_decide_eq_true first) (of_decide_eq_true second))
  have total : ∀ a b : Nat × α, (decide (a.1 ≤ b.1) || decide (b.1 ≤ a.1)) = true := by
    intro a b
    simpa only [Bool.or_eq_true, decide_eq_true_eq] using Nat.le_total a.1 b.1
  exact (List.pairwise_mergeSort trans total listing).imp of_decide_eq_true

theorem byIndex_eq_numbered_iff {listing : List (Nat × α)} {values : List α} :
    byIndex listing = numbered values ↔ listing.Perm (numbered values) := by
  constructor
  · intro sorted
    rw [← sorted]
    exact (byIndex_perm listing).symm
  · intro perm
    have same := (byIndex_perm listing).trans perm
    refine same.eq_of_pairwise ?_ (byIndex_pairwise listing)
      ((numbered_pairwise values).imp Nat.le_of_lt)
    rintro ⟨index, value⟩ ⟨other, value'⟩ member member' low high
    have same_ : index = other := Nat.le_antisymm low high
    subst same_
    have here := mem_numbered.mp (same.mem_iff.mp member)
    rw [mem_numbered.mp member'] at here
    rw [Option.some.inj here]

theorem exists_rest {values : List α} {index : Nat} {value : α}
    (found : values[index]? = some value) :
    ∃ rest, values.Perm (value :: rest) ∧
      ∀ other, (values.set index other).Perm (other :: rest) := by
  obtain ⟨bound, rfl⟩ := List.getElem?_eq_some_iff.mp found
  refine ⟨values.take index ++ values.drop (index + 1), ?_, fun other => ?_⟩
  · have split := List.take_append_drop index values
    rw [List.drop_eq_getElem_cons bound] at split
    exact (split ▸ List.perm_middle :)
  · rw [List.set_eq_take_append_cons_drop, if_pos bound]
    exact List.perm_middle

theorem length_eq_iff_subset {some all : List α} (distinct : some.Nodup) (distinct' : all.Nodup)
    (within : some ⊆ all) : all.length = some.length ↔ all ⊆ some := by
  have fits := distinct.subperm within
  constructor
  · intro same
    exact (fits.perm_of_length_le (Nat.le_of_eq same)).symm.subset
  · intro back
    exact Nat.le_antisymm (distinct'.subperm back).length_le fits.length_le

end TrainsValkey.Library
