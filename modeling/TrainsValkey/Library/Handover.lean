import Mathlib.Data.List.Nodup
import TrainsValkey.Library.ReplayLog

/-
Bringing a consumer into a group that replays one total order.

The members of the group stop at their cuts, a plan takes each of them to one
common position without repeating what all of them have applied, and from there
on everybody is handed the next operations.  A joiner that is handed the same
plan and the same operations stays at a prefix of the order exactly when it had
applied as much as one of the cuts.
-/

set_option autoImplicit false

namespace TrainsValkey.Library

universe u v w

variable {State : Type u} {Op : Type v} {Id : Type w}

/-! ### Streams from other positions -/

section Streams

variable {history : List Op}

theorem Stream.le {first final : Nat} {ops : List Op}
    (handed : Stream history first ops final) : first ≤ final := by
  induction handed with
  | done count => exact Nat.le_refl count
  | again delivered later ih => exact ih
  | next at_count later ih => omega

theorem Stream.append {first middle final : Nat} {ops more : List Op}
    (handed : Stream history first ops middle) (later : Stream history middle more final) :
    Stream history first (ops ++ more) final := by
  induction handed with
  | done count => exact later
  | again delivered _ ih => exact Stream.again delivered (ih later)
  | next at_count _ ih => exact Stream.next at_count (ih later)

theorem Stream.mem_history {first final : Nat} {ops : List Op}
    (handed : Stream history first ops final) {op : Op} (member : op ∈ ops) : op ∈ history := by
  induction handed with
  | done count => cases member
  | again delivered later ih =>
      rcases List.mem_cons.mp member with rfl | rest
      · exact List.mem_of_mem_take delivered
      · exact ih rest
  | next at_count later ih =>
      rcases List.mem_cons.mp member with rfl | rest
      · exact List.mem_of_getElem? at_count
      · exact ih rest

theorem Stream.ahead {first final : Nat} {ops : List Op}
    (handed : Stream history first ops final) {position : Nat} (past : first ≤ position) :
    Stream history position ops (max position final) := by
  induction handed generalizing position with
  | done count =>
      rw [Nat.max_eq_left past]
      exact Stream.done position
  | again delivered later ih =>
      refine Stream.again ?_ (ih past)
      exact (List.take_prefix_take_left past).subset delivered
  | @next count final op rest at_count later ih =>
      by_cases here : count = position
      · subst here
        have reached := later.le
        have moved := ih (Nat.le_refl (count + 1))
        have same : max (count + 1) final = max count final := by omega
        rw [same] at moved
        exact Stream.next at_count moved
      · refine Stream.again ?_ (ih (by omega))
        exact mem_take_of_getElem? at_count (by omega)

theorem Stream.cut {count final : Nat} {kept ops : List Op}
    (handed : Stream history count ops final) (front : kept <+: ops) :
    ∃ reached, Stream history count kept reached := by
  induction handed generalizing kept with
  | done count =>
      rw [List.prefix_nil.mp front]
      exact ⟨count, Stream.done count⟩
  | again delivered later ih =>
      cases kept with
      | nil => exact ⟨_, Stream.done _⟩
      | cons head rest =>
          obtain ⟨rfl, shorter⟩ := List.cons_prefix_cons.mp front
          obtain ⟨reached, stream⟩ := ih shorter
          exact ⟨reached, Stream.again delivered stream⟩
  | next at_count later ih =>
      cases kept with
      | nil => exact ⟨_, Stream.done _⟩
      | cons head rest =>
          obtain ⟨rfl, shorter⟩ := List.cons_prefix_cons.mp front
          obtain ⟨reached, stream⟩ := ih shorter
          exact ⟨reached, Stream.next at_count stream⟩

theorem mem_drop_take {first last position : Nat} {op : Op} (from_ : first ≤ position)
    (below : position < last) (here : history[position]? = some op) :
    op ∈ (history.take last).drop first := by
  have place : ((history.take last).drop first)[position - first]? = some op := by
    rw [List.getElem?_drop, Nat.add_sub_cancel' from_, List.getElem?_take_of_lt below]
    exact here
  exact List.mem_of_getElem? place

theorem position_of_mem_drop {first last : Nat} {op : Op}
    (member : op ∈ (history.take last).drop first) :
    ∃ position, first ≤ position ∧ history[position]? = some op := by
  obtain ⟨place, found⟩ := List.mem_iff_getElem?.mp member
  refine ⟨first + place, Nat.le_add_right first place, ?_⟩
  rw [List.getElem?_drop, List.getElem?_take] at found
  split at found
  · exact found
  · cases found

theorem drop_take_append (history : List Op) {first middle last : Nat} (before : first ≤ middle)
    (after : middle ≤ last) :
    (history.take middle).drop first ++ (history.take last).drop middle =
      (history.take last).drop first := by
  have left : ((history.take last).drop first).take (middle - first) =
      (history.take middle).drop first := by
    rw [List.take_drop, Nat.add_sub_cancel' before, List.take_take, Nat.min_eq_left after]
  have right : ((history.take last).drop first).drop (middle - first) =
      (history.take last).drop middle := by
    rw [List.drop_drop, Nat.add_sub_cancel' before]
  rw [← left, ← right, List.take_append_drop]

end Streams

/-! ### Plans -/

/-- A plan for consumers that stopped at the cuts: it takes each of them to one
position, and everything in it is new to one of them. -/
structure Plan (history : List Op) (cuts : Set Nat) (plan : List Op) (upTo : Nat) : Prop where
  nonempty : cuts.Nonempty
  completes : ∀ cut ∈ cuts, Stream history cut plan upTo
  missing : ∀ op ∈ plan, ∃ cut ∈ cuts, op ∉ history.take cut

section Joining

variable {ident : Op → Id} {apply : State → Op → State} {start : State} {history : List Op}
  {cuts : Set Nat} {plan : List Op} {upTo last base : Nat}

/-- A joiner that applied as much as one of the cuts may be handed the plan. -/
theorem Plan.joins (recovered : Plan history cuts plan upTo)
    {cut : Nat} (member : cut ∈ cuts) (covered : cut ≤ base) (later : upTo ≤ last)
    (within : last ≤ history.length) :
    Stream history base (plan ++ (history.take last).drop upTo) (max base last) :=
  ((recovered.completes cut member).append (Stream.between later within)).ahead covered

theorem foldl_deliver_seen (ident : Op → Id) (apply : State → Op → State)
    (consumer : Consumer State Id) (ops : List Op) (id : Id) :
    id ∈ (ops.foldl (Consumer.deliver ident apply) consumer).seen ↔
      id ∈ consumer.seen ∨ ∃ op ∈ ops, ident op = id := by
  induction ops generalizing consumer with
  | nil => simp
  | cons op rest ih =>
      have delivered : id ∈ (consumer.deliver ident apply op).seen ↔
          id ∈ consumer.seen ∨ ident op = id := by
        by_cases repeated : ident op ∈ consumer.seen
        · rw [Consumer.deliver_seen ident apply consumer op repeated]
          constructor
          · exact Or.inl
          · rintro (old | rfl)
            · exact old
            · exact repeated
        · rw [Consumer.deliver_fresh ident apply consumer op repeated, Set.mem_insert_iff]
          constructor
          · rintro (rfl | old)
            · exact Or.inr rfl
            · exact Or.inl old
          · rintro (old | rfl)
            · exact Or.inr old
            · exact Or.inl rfl
      rw [List.foldl_cons, ih, delivered, List.exists_mem_cons_iff, or_assoc]

/-- A consumer that is handed operations beyond its position, and none at it,
has not applied a front of the history. -/
theorem AtPrefix.skips (distinct : (history.map ident).Nodup) {consumer : Consumer State Id}
    (holds : AtPrefix ident apply start history consumer) {ops : List Op} {first : Nat}
    (ahead : consumer.count < first)
    (beyond : ∀ op ∈ ops, ∃ position, first ≤ position ∧ history[position]? = some op)
    (handed : ops ≠ []) (count : Nat) :
    (ops.foldl (Consumer.deliver ident apply) consumer).seen ≠ seenBefore ident history count := by
  intro reached
  have seen (id : Id) := foldl_deliver_seen ident apply consumer ops id
  rw [reached, holds.seen] at seen
  obtain ⟨op, member⟩ := List.exists_mem_of_ne_nil ops handed
  obtain ⟨position, further, here⟩ := beyond op member
  have below := (mem_seenBefore_iff distinct here).mp
    ((seen (ident op)).mpr (Or.inr ⟨op, member, rfl⟩))
  have bound := (List.getElem?_eq_some_iff.mp here).1
  have missed : history[consumer.count]? = some history[consumer.count] :=
    List.getElem?_eq_getElem (by omega)
  have expected := (mem_seenBefore_iff distinct missed).mpr
    (Nat.lt_trans (Nat.lt_of_lt_of_le ahead further) below)
  rcases (seen (ident history[consumer.count])).mp expected with old | ⟨other, given, same⟩
  · exact not_seenBefore distinct missed old
  · obtain ⟨place, later, there⟩ := beyond other given
    have samePlace := position_unique distinct there missed same
    omega

/-- A joiner behind every cut misses the operation at its own position: the
plan does not repeat it, and what follows the plan comes after it. -/
theorem Plan.leaves_gap (recovered : Plan history cuts plan upTo)
    (distinct : (history.map ident).Nodup) {consumer : Consumer State Id}
    (holds : AtPrefix ident apply start history consumer)
    (behind : ∀ cut ∈ cuts, consumer.count < cut) (later : upTo < last)
    (within : last ≤ history.length) :
    ¬AtPrefix ident apply start history
      ((plan ++ (history.take last).drop upTo).foldl (Consumer.deliver ident apply) consumer) := by
  intro reached
  obtain ⟨cut, cutMember⟩ := recovered.nonempty
  have cutBound := (recovered.completes cut cutMember).le
  have cutBehind := behind cut cutMember
  have seen (id : Id) := foldl_deliver_seen ident apply consumer
    (plan ++ (history.take last).drop upTo) id
  rw [reached.seen, holds.seen] at seen
  have atUpTo : history[upTo]? = some history[upTo] := List.getElem?_eq_getElem (by omega)
  have atBase : history[consumer.count]? = some history[consumer.count] :=
    List.getElem?_eq_getElem (by omega)
  -- the first operation after the plan was applied, so everything before it should be
  have applied := (seen (ident history[upTo])).mpr (Or.inr ⟨history[upTo],
    List.mem_append_right _ (mem_drop_take (by omega) later atUpTo), rfl⟩)
  have beyond := (mem_seenBefore_iff distinct atUpTo).mp applied
  have expected := (mem_seenBefore_iff distinct atBase).mpr (Nat.lt_trans
    (Nat.lt_of_lt_of_le cutBehind cutBound) beyond)
  rcases (seen (ident history[consumer.count])).mp expected with old | ⟨op, member, same⟩
  · exact not_seenBefore distinct atBase old
  · rcases List.mem_append.mp member with planned | following
    · obtain ⟨other, otherMember, fresh⟩ := recovered.missing op planned
      have inHistory := (recovered.completes cut cutMember).mem_history planned
      obtain ⟨place, atPlace⟩ := List.mem_iff_getElem?.mp inHistory
      have samePlace := position_unique distinct atPlace atBase same
      subst samePlace
      exact fresh (mem_take_of_getElem? atPlace (behind other otherMember))
    · obtain ⟨place, afterPlan, atPlace⟩ := position_of_mem_drop following
      have samePlace := position_unique distinct atPlace atBase same
      omega

end Joining

end TrainsValkey.Library
