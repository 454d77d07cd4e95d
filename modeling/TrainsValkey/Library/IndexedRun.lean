import Mathlib.Data.List.Basic

/-
Lists whose items carry consecutive indices ending just below a head.

This is the shape of a bounded log that only grows at the back and only
loses items at the front.  Appending at the head and dropping from the
front keep the shape, and selecting by index is dropping a prefix.
-/

set_option autoImplicit false

namespace TrainsValkey.Library

universe u

variable {Item : Type u} (index : Item → Nat)

/-- The items are numbered `head - length, ..., head - 1`, in this order. -/
structure EndsAt (head : Nat) (items : List Item) : Prop where
  fits : items.length ≤ head
  numbered : items.map index = List.range' (head - items.length) items.length

namespace EndsAt

variable {index} {head : Nat} {items : List Item}

theorem nil (head : Nat) : EndsAt index head ([] : List Item) :=
  ⟨Nat.zero_le head, rfl⟩

theorem snoc (ends : EndsAt index head items) {item : Item} (next : index item = head) :
    EndsAt index (head + 1) (items ++ [item]) := by
  have fits := ends.fits
  constructor
  · simp only [List.length_append, List.length_singleton]
    omega
  · have start : head + 1 - (items.length + 1) = head - items.length := by omega
    have last : head - items.length + items.length = head := by omega
    simp only [List.map_append, List.map_singleton, List.length_append,
      List.length_singleton, start, ends.numbered, next, List.range'_1_concat, last]

theorem drop (ends : EndsAt index head items) (count : Nat) :
    EndsAt index head (items.drop count) := by
  have fits := ends.fits
  constructor
  · rw [List.length_drop]
    omega
  · rw [List.map_drop, ends.numbered, List.drop_range', List.length_drop]
    by_cases within : count ≤ items.length
    · congr 1
      omega
    · have empty : items.length - count = 0 := by omega
      rw [empty]
      rfl

theorem index_getElem (ends : EndsAt index head items) {position : Nat}
    (within : position < items.length) :
    index items[position] = head - items.length + position := by
  have numbered : (items.map index)[position]? = some (index items[position]) := by
    rw [List.getElem?_map, List.getElem?_eq_getElem within, Option.map_some]
  rw [ends.numbered, List.getElem?_range' within, Nat.one_mul] at numbered
  exact (Option.some.inj numbered).symm

theorem index_mem (ends : EndsAt index head items) {item : Item} (member : item ∈ items) :
    head - items.length ≤ index item ∧ index item < head := by
  have fits := ends.fits
  have numbered : index item ∈ items.map index := List.mem_map_of_mem member
  rw [ends.numbered, List.mem_range'_1] at numbered
  omega

theorem filter_from (ends : EndsAt index head items) (first : Nat) :
    items.filter (fun item => decide (first ≤ index item)) =
      items.drop (first - (head - items.length)) := by
  induction items with
  | nil => rw [List.drop_nil]; rfl
  | cons item rest ih =>
      have fits := ends.fits
      have tail : EndsAt index head rest := by simpa using ends.drop 1
      have lowest : index item = head - (rest.length + 1) := by
        have numbered := ends.numbered
        rw [List.map_cons, List.length_cons, List.range'_succ] at numbered
        exact (List.cons.inj numbered).1
      simp only [List.length_cons] at fits
      by_cases reached : first ≤ head - (rest.length + 1)
      · have here : first ≤ index item := by omega
        have noneRest : first - (head - rest.length) = 0 := by omega
        have noneAll : first - (head - (rest.length + 1)) = 0 := by omega
        rw [List.filter_cons_of_pos (by simpa using here), ih tail, noneRest,
          List.length_cons, noneAll, List.drop_zero, List.drop_zero]
      · have before : ¬first ≤ index item := by omega
        have shift : first - (head - (rest.length + 1)) =
            first - (head - rest.length) + 1 := by omega
        rw [List.filter_cons_of_neg (by simpa using before), ih tail, List.length_cons,
          shift, List.drop_succ_cons]

end EndsAt

end TrainsValkey.Library
