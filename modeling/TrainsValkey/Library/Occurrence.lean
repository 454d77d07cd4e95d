import Mathlib.Data.List.Count

/-
The occurrences of an element in a list, numbered from the first.

A process that treats each element according to how often it met that element
before is a map over the numbered list.  What it did with one element then
depends on how often the list holds it, and not on where.
-/

set_option autoImplicit false

namespace TrainsValkey.Library

universe u v

variable {α : Type u} [BEq α]

def numberedFrom (seen : List α) : List α → List (α × Nat)
  | [] => []
  | a :: rest => (a, seen.count a) :: numberedFrom (a :: seen) rest

theorem numberedFrom_append (seen first second : List α) :
    numberedFrom seen (first ++ second) =
      numberedFrom seen first ++ numberedFrom (first.reverse ++ seen) second := by
  induction first generalizing seen with
  | nil => rfl
  | cons a first ih =>
      rw [List.cons_append, numberedFrom, numberedFrom, ih, List.reverse_cons,
        List.append_assoc]
      rfl

variable [LawfulBEq α]

/-- The occurrences of one element have consecutive numbers. -/
theorem filter_numberedFrom (seen items : List α) (a : α) :
    (numberedFrom seen items).filter (fun numbered => numbered.1 == a) =
      (List.range' (seen.count a) (items.count a)).map (fun i => (a, i)) := by
  induction items generalizing seen with
  | nil => rfl
  | cons head rest ih =>
      rw [numberedFrom]
      by_cases same : head = a
      · subst same
        rw [List.filter_cons_of_pos (by simp), ih, List.count_cons_self, List.count_cons_self,
          List.range'_succ, List.map_cons]
      · rw [List.filter_cons_of_neg (by simpa using same), ih, List.count_cons_of_ne same,
          List.count_cons_of_ne same]

theorem mem_numberedFrom (items : List α) (a : α) (i : Nat) :
    (a, i) ∈ numberedFrom [] items ↔ i < items.count a := by
  have numbers := filter_numberedFrom [] items a
  have here : (a, i) ∈ (numberedFrom [] items).filter (fun numbered => numbered.1 == a) ↔
      (a, i) ∈ numberedFrom [] items := by
    simp
  rw [← here, numbers]
  simp

omit [LawfulBEq α] in
theorem le_of_mem_numberedFrom {seen items : List α} {a : α} {i : Nat}
    (member : (a, i) ∈ numberedFrom seen items) : seen.count a ≤ i := by
  induction items generalizing seen with
  | nil => cases member
  | cons head rest ih =>
      rcases List.mem_cons.mp member with here | later
      · cases here
        exact Nat.le_refl _
      · exact Nat.le_trans List.count_le_count_cons (ih later)

theorem numberedFrom_split {items : List α} {a : α} {i : Nat} (early : i < items.count a) :
    ∃ before after, numberedFrom [] items = before ++ (a, i) :: after ∧
      ∀ j, (a, j) ∈ after → i < j := by
  have ordered : ∀ (items seen : List α), (numberedFrom seen items).Pairwise
      (fun first second => first.1 = second.1 → first.2 < second.2) := by
    intro items
    induction items with
    | nil => exact fun _ => List.Pairwise.nil
    | cons head rest ih =>
        intro seen
        refine List.Pairwise.cons ?_ (ih (head :: seen))
        intro later member same
        obtain ⟨other, j⟩ := later
        cases same
        have bound := le_of_mem_numberedFrom member
        rw [List.count_cons_self] at bound
        exact bound
  obtain ⟨before, after, split⟩ := List.append_of_mem ((mem_numberedFrom items a i).mpr early)
  refine ⟨before, after, split, ?_⟩
  have later := ordered items []
  rw [split, List.pairwise_append, List.pairwise_cons] at later
  intro j member
  exact later.2.1.1 (a, j) member rfl

section Outcomes

variable {β : Type v} {outcome : α × Nat → Option β} {source : β → α}

theorem count_filterMap
    (faithful : ∀ numbered result, outcome numbered = some result → source result = numbered.1)
    (numbered : List (α × Nat)) (a : α) :
    ((numbered.filterMap outcome).map source).count a =
      (numbered.filter (fun entry => entry.1 == a)).countP (fun entry => (outcome entry).isSome) := by
  induction numbered with
  | nil => rfl
  | cons entry rest ih =>
      cases result : outcome entry with
      | none =>
          rw [List.filterMap_cons_none result, ih]
          by_cases same : entry.1 = a
          · rw [List.filter_cons_of_pos (by simpa using same), List.countP_cons_of_neg]
            simp [result]
          · rw [List.filter_cons_of_neg (by simpa using same)]
      | some value =>
          rw [List.filterMap_cons_some result, List.map_cons, faithful entry value result]
          by_cases same : entry.1 = a
          · rw [List.filter_cons_of_pos (by simpa using same), List.countP_cons_of_pos, same,
              List.count_cons_self, ih]
            simp [result]
          · rw [List.filter_cons_of_neg (by simpa using same), List.count_cons_of_ne same, ih]

theorem count_outcomes
    (faithful : ∀ numbered result, outcome numbered = some result → source result = numbered.1)
    (items : List α) (a : α) :
    (((numberedFrom [] items).filterMap outcome).map source).count a =
      (List.range (items.count a)).countP (fun i => (outcome (a, i)).isSome) := by
  rw [count_filterMap faithful, filter_numberedFrom, List.countP_map, List.count_nil,
    List.range_eq_range']
  rfl

end Outcomes

end TrainsValkey.Library
