import Mathlib.Data.List.Nodup
import Mathlib.Data.Set.Insert

/-
Replaying one total order at least once.

A consumer holds a state, the set of identities it has applied, and how many
operations it has applied.  Delivering an operation whose identity was seen
changes nothing; any other delivery applies it.  When the identities of the
history are pairwise distinct, a consumer that stands at a prefix of the
history stays at a prefix whatever mixture of repeated operations and next
operations it is handed.
-/

set_option autoImplicit false

namespace TrainsValkey.Library

universe u v w

structure Consumer (State : Type u) (Id : Type w) where
  state : State
  seen : Set Id
  count : Nat

variable {State : Type u} {Op : Type v} {Id : Type w}

section Delivery

variable (ident : Op → Id) (apply : State → Op → State)

def replay (start : State) (history : List Op) : State := history.foldl apply start

theorem replay_append (start : State) (first second : List Op) :
    replay apply start (first ++ second) = replay apply (replay apply start first) second :=
  List.foldl_append

def seenBefore (history : List Op) (count : Nat) : Set Id :=
  {id | ∃ op ∈ history.take count, ident op = id}

open Classical in
noncomputable def Consumer.deliver (consumer : Consumer State Id) (op : Op) :
    Consumer State Id :=
  if ident op ∈ consumer.seen then consumer
  else
    { state := apply consumer.state op
      seen := insert (ident op) consumer.seen
      count := consumer.count + 1 }

theorem Consumer.deliver_seen (consumer : Consumer State Id) (op : Op)
    (repeated : ident op ∈ consumer.seen) :
    consumer.deliver ident apply op = consumer := by
  rw [deliver, if_pos repeated]

theorem Consumer.deliver_fresh (consumer : Consumer State Id) (op : Op)
    (fresh : ident op ∉ consumer.seen) :
    consumer.deliver ident apply op =
      { state := apply consumer.state op
        seen := insert (ident op) consumer.seen
        count := consumer.count + 1 } := by
  rw [deliver, if_neg fresh]

/-- The consumer has applied exactly the first `count` operations. -/
structure AtPrefix (start : State) (history : List Op) (consumer : Consumer State Id) :
    Prop where
  within : consumer.count ≤ history.length
  state : consumer.state = replay apply start (history.take consumer.count)
  seen : consumer.seen = seenBefore ident history consumer.count

/-- What a consumer that stands at a prefix may be handed: operations it has
applied already, in any order, mixed with the next ones in order. -/
inductive Stream (history : List Op) : Nat → List Op → Nat → Prop
  | done (count : Nat) : Stream history count [] count
  | again {count final : Nat} {op : Op} {rest : List Op}
      (delivered : op ∈ history.take count) (later : Stream history count rest final) :
      Stream history count (op :: rest) final
  | next {count final : Nat} {op : Op} {rest : List Op}
      (at_count : history[count]? = some op)
      (later : Stream history (count + 1) rest final) :
      Stream history count (op :: rest) final

end Delivery

section Prefixes

variable {ident : Op → Id} {apply : State → Op → State} {start : State}
  {history : List Op}

theorem take_succ_of_getElem? {count : Nat} {op : Op} (at_count : history[count]? = some op) :
    history.take (count + 1) = history.take count ++ [op] := by
  rw [List.take_add_one, at_count]
  rfl

theorem seenBefore_succ {count : Nat} {op : Op} (at_count : history[count]? = some op) :
    seenBefore ident history (count + 1) =
      insert (ident op) (seenBefore ident history count) := by
  ext id
  simp only [seenBefore, take_succ_of_getElem? at_count, List.mem_append,
    List.mem_singleton, Set.mem_ofPred_eq, Set.mem_insert_iff]
  constructor
  · rintro ⟨found, earlier | rfl, same⟩
    · exact Or.inr ⟨found, earlier, same⟩
    · exact Or.inl same.symm
  · rintro (rfl | ⟨found, earlier, same⟩)
    · exact ⟨op, Or.inr rfl, rfl⟩
    · exact ⟨found, Or.inl earlier, same⟩

theorem mem_take_of_getElem? {position count : Nat} {op : Op}
    (here : history[position]? = some op) (below : position < count) :
    op ∈ history.take count := by
  apply List.mem_of_getElem?
  rw [List.getElem?_take_of_lt below]
  exact here

theorem position_unique (distinct : (history.map ident).Nodup) {first second : Nat} {op other : Op}
    (here : history[first]? = some op) (there : history[second]? = some other)
    (same : ident op = ident other) : first = second := by
  have bound : first < (history.map ident).length := by
    rw [List.length_map]
    exact (List.getElem?_eq_some_iff.mp here).1
  apply (List.getElem?_inj bound distinct).mp
  rw [List.getElem?_map, List.getElem?_map, here, there, Option.map_some, Option.map_some, same]

theorem mem_seenBefore_iff (distinct : (history.map ident).Nodup) {position count : Nat} {op : Op}
    (here : history[position]? = some op) :
    ident op ∈ seenBefore ident history count ↔ position < count := by
  constructor
  · rintro ⟨earlier, member, same⟩
    obtain ⟨place, within, found⟩ := List.mem_take_iff_getElem.mp member
    have there : history[place]? = some earlier := by
      rw [List.getElem?_eq_getElem (by omega), found]
    have samePosition := position_unique distinct there here same
    omega
  · intro below
    exact ⟨op, mem_take_of_getElem? here below, rfl⟩

/-- Distinct identities make the next operation new to a consumer that has
applied everything before it. -/
theorem not_seenBefore (distinct : (history.map ident).Nodup) {count : Nat} {op : Op}
    (at_count : history[count]? = some op) :
    ident op ∉ seenBefore ident history count := by
  rw [mem_seenBefore_iff distinct at_count]
  exact Nat.lt_irrefl count

theorem AtPrefix.deliver_next (distinct : (history.map ident).Nodup)
    {consumer : Consumer State Id} (holds : AtPrefix ident apply start history consumer)
    {op : Op} (at_count : history[consumer.count]? = some op) :
    AtPrefix ident apply start history (consumer.deliver ident apply op) ∧
      (consumer.deliver ident apply op).count = consumer.count + 1 := by
  have fresh : ident op ∉ consumer.seen := by
    rw [holds.seen]
    exact not_seenBefore distinct at_count
  rw [Consumer.deliver_fresh ident apply consumer op fresh]
  refine ⟨⟨?_, ?_, ?_⟩, rfl⟩
  · have bound := (List.getElem?_eq_some_iff.mp at_count).1
    exact bound
  · rw [take_succ_of_getElem? at_count, replay_append, ← holds.state]
    rfl
  · rw [seenBefore_succ at_count, ← holds.seen]

/-- The run rule for streams: whatever holds at a prefix and is kept by a
repeated and by a next operation holds, after a stream, at the prefix it ends
at. -/
theorem Stream.foldl {Reached : Type u} {deliver : Reached → Op → Reached}
    {Standing : Reached → Nat → Prop}
    (again : ∀ reached count op, Standing reached count → op ∈ history.take count →
      Standing (deliver reached op) count)
    (next : ∀ reached count op, Standing reached count → history[count]? = some op →
      Standing (deliver reached op) (count + 1))
    {reached : Reached} {ops : List Op} {count final : Nat}
    (handed : Stream history count ops final) (standing : Standing reached count) :
    Standing (ops.foldl deliver reached) final := by
  induction handed generalizing reached with
  | done count => exact standing
  | again delivered later ih =>
      rw [List.foldl_cons]
      exact ih (again _ _ _ standing delivered)
  | next at_count later ih =>
      rw [List.foldl_cons]
      exact ih (next _ _ _ standing at_count)

theorem Stream.split {first second : List Op} {count final : Nat}
    (handed : Stream history count (first ++ second) final) :
    ∃ middle, Stream history count first middle ∧ Stream history middle second final := by
  induction first generalizing count with
  | nil => exact ⟨count, Stream.done count, handed⟩
  | cons op rest ih =>
      cases handed with
      | again delivered later =>
          obtain ⟨middle, front, back⟩ := ih later
          exact ⟨middle, Stream.again delivered front, back⟩
      | next at_count later =>
          obtain ⟨middle, front, back⟩ := ih later
          exact ⟨middle, Stream.next at_count front, back⟩

theorem AtPrefix.unique {first second : Consumer State Id}
    (firstAt : AtPrefix ident apply start history first)
    (secondAt : AtPrefix ident apply start history second)
    (sameCount : first.count = second.count) : first = second := by
  cases first with
  | mk state seen count =>
      cases second with
      | mk otherState otherSeen otherCount =>
          have counts : count = otherCount := sameCount
          subst counts
          have states : state = otherState := firstAt.state.trans secondAt.state.symm
          have seens : seen = otherSeen := firstAt.seen.trans secondAt.seen.symm
          rw [states, seens]

theorem Stream.between {first final : Nat} (ordered : first ≤ final)
    (within : final ≤ history.length) :
    Stream history first ((history.take final).drop first) final := by
  obtain ⟨gap, rfl⟩ := Nat.exists_eq_add_of_le ordered
  induction gap generalizing first with
  | zero =>
      have nothing : (history.take (first + 0)).drop first = [] := by simp
      rw [nothing]
      exact Stream.done first
  | succ gap ih =>
      have bound : first < history.length := by omega
      have at_first : history[first]? = some history[first] :=
        List.getElem?_eq_getElem bound
      have split : (history.take (first + (gap + 1))).drop first =
          history[first] :: (history.take (first + 1 + gap)).drop (first + 1) := by
        have same : first + (gap + 1) = first + 1 + gap := by omega
        rw [same, List.drop_eq_getElem_cons (by simp; omega), List.getElem_take]
      rw [split]
      apply Stream.next at_first
      have moved := @ih (first + 1) (by omega) (by omega)
      have same : first + (gap + 1) = first + 1 + gap := by omega
      rw [same]
      exact moved

end Prefixes

end TrainsValkey.Library
