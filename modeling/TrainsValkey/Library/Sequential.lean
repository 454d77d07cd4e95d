import Mathlib.Data.Fintype.Basic
import TrainsValkey.Library.ReplayLog

/-
Sequential consistency of an object that is replicated by replaying one total
order of updates.

Every process talks to a replica of its own, which may lag.  A call is placed
in the order by where its update stands, or by how many updates its replica had
replayed when it answered a query.  When each process's places go forward and
no two calls claim one update, the places are a serialization: the updates in
the total order, and between two of them the queries that saw exactly what
stands before.
-/

set_option autoImplicit false

namespace TrainsValkey.Library

universe u v w x y

/-- An object as a single process would use it. -/
structure SerialObject (State : Type u) (Op : Type v) (Query : Type w) (Answer : Type x) where
  apply : State → Op → State
  updated : State → Op → Answer
  answer : State → Query → Answer

/-- A finished call with the answer its process got. -/
inductive Call (Op : Type v) (Query : Type w) (Answer : Type x) where
  | update (op : Op) (answer : Answer)
  | query (query : Query) (answer : Answer)

variable {State : Type u} {Op : Type v} {Query : Type w} {Answer : Type x}

def Call.updates (calls : List (Call Op Query Answer)) : List Op :=
  calls.filterMap (fun call =>
    match call with
    | .update op _ => some op
    | .query _ _ => none)

namespace SerialObject

variable (object : SerialObject State Op Query Answer)

/-- One call after the other, every answer is the object's own. -/
def Legal : State → List (Call Op Query Answer) → Prop
  | _, [] => True
  | state, .update op answer :: rest =>
      answer = object.updated state op ∧ Legal (object.apply state op) rest
  | state, .query query answer :: rest =>
      answer = object.answer state query ∧ Legal state rest

/-- The processes' calls, interleaved with updates that nobody got an answer
to, are a legal run of the object; the updates stand in the given order. -/
def SequentiallyConsistent {Process : Type y} [DecidableEq Process] (start : State)
    (history : List Op) (sessions : Process → List (Call Op Query Answer)) : Prop :=
  ∃ whole : List (Option Process × Call Op Query Answer),
    object.Legal start (whole.map Prod.snd) ∧
      Call.updates (whole.map Prod.snd) = history ∧
      ∀ process, (whole.filter (fun entry => entry.1 = some process)).map Prod.snd =
        sessions process

end SerialObject

/-! ### Lists in the order of a key -/

theorem flatMap_filter_key {α : Type u} (key : α → Nat) {items : List α}
    (ordered : items.Pairwise (fun first second => key first ≤ key second)) (bound : Nat)
    (below : ∀ item ∈ items, key item < bound) :
    (List.range bound).flatMap (fun at_ => items.filter (fun item => key item = at_)) = items := by
  induction bound generalizing items with
  | zero =>
      cases items with
      | nil => rfl
      | cons item rest => exact absurd (below item List.mem_cons_self) (Nat.not_lt_zero _)
  | succ bound ih =>
      have front : (List.range bound).flatMap
          (fun at_ => items.filter (fun item => key item = at_)) =
            items.filter (fun item => key item < bound) := by
        have shorter := ih (ordered.filter (fun item => decide (key item < bound)))
          (fun item member => by simpa using (List.mem_filter.mp member).2)
        rw [← shorter]
        apply List.flatMap_congr
        intro at_ member
        rw [List.filter_filter]
        apply List.filter_congr
        intro item _
        have within := List.mem_range.mp member
        by_cases here : key item = at_
        · simp [here, within]
        · simp [here]
      rw [List.range_succ, List.flatMap_append, front, List.flatMap_singleton]
      clear front ih
      induction items with
      | nil => rfl
      | cons item rest ih =>
          have later := ih ordered.of_cons
            (fun other member => below other (List.mem_cons_of_mem _ member))
          rcases Nat.lt_or_ge (key item) bound with early | late
          · have apart : key item ≠ bound := Nat.ne_of_lt early
            rw [List.filter_cons_of_pos (by simpa using early),
              List.filter_cons_of_neg (by simpa using apart), List.cons_append, later]
          · -- everything behind the item has its key or more, and no more is left
            have last : ∀ other ∈ item :: rest, key other = bound := by
              intro other member
              have upper := below other member
              rcases List.mem_cons.mp member with rfl | behind
              · omega
              · have least := List.rel_of_pairwise_cons ordered behind
                omega
            have none_ : (item :: rest).filter (fun other => key other < bound) = [] := by
              rw [List.filter_eq_nil_iff]
              intro other member
              simp [last other member]
            have all : (item :: rest).filter (fun other => key other = bound) = item :: rest := by
              rw [List.filter_eq_self]
              intro other member
              simp [last other member]
            rw [none_, all, List.nil_append]

theorem flatMap_only {α : Type u} {β : Type v} (give : α → List β) {members : List α}
    (distinct : members.Nodup) {giver : α} (present : giver ∈ members)
    (others : ∀ member ∈ members, member ≠ giver → give member = []) :
    members.flatMap give = give giver := by
  induction members with
  | nil => cases present
  | cons first rest ih =>
      obtain ⟨notIn, distinctRest⟩ := List.nodup_cons.mp distinct
      rw [List.flatMap_cons]
      rcases List.mem_cons.mp present with rfl | inRest
      · have nothing : rest.flatMap give = [] := by
          rw [List.flatMap_eq_nil_iff]
          intro member inRest
          refine others member (List.mem_cons_of_mem _ inRest) ?_
          intro same
          exact notIn (same ▸ inRest)
        rw [nothing, List.append_nil]
      · have nothing : give first = [] := by
          refine others first List.mem_cons_self ?_
          intro same
          exact notIn (same ▸ inRest)
        rw [nothing, List.nil_append]
        exact ih distinctRest inRest (fun member later =>
          others member (List.mem_cons_of_mem _ later))

/-! ### Legal runs -/

namespace SerialObject

variable {object : SerialObject State Op Query Answer}

theorem updates_append (first second : List (Call Op Query Answer)) :
    Call.updates (first ++ second) = Call.updates first ++ Call.updates second :=
  List.filterMap_append

theorem legal_append (state : State) (first second : List (Call Op Query Answer)) :
    object.Legal state (first ++ second) ↔
      object.Legal state first ∧
        object.Legal (replay object.apply state (Call.updates first)) second := by
  induction first generalizing state with
  | nil => exact ⟨fun legal => ⟨True.intro, legal⟩, And.right⟩
  | cons call rest ih =>
      cases call with
      | update op answer =>
          rw [List.cons_append, Legal, Legal, ih, and_assoc]
          rfl
      | query query answer =>
          rw [List.cons_append, Legal, Legal, ih, and_assoc]
          rfl

theorem legal_queries {state : State} {calls : List (Call Op Query Answer)}
    (each : ∀ call ∈ calls, ∃ query, call = .query query (object.answer state query)) :
    object.Legal state calls ∧ Call.updates calls = [] := by
  induction calls with
  | nil => exact ⟨True.intro, rfl⟩
  | cons call rest ih =>
      obtain ⟨query, rfl⟩ := each call List.mem_cons_self
      obtain ⟨legal, none_⟩ := ih
        (fun other member => each other (List.mem_cons_of_mem _ member))
      exact ⟨⟨rfl, legal⟩, none_⟩

end SerialObject

/-! ### Placed calls -/

/-- A call and its place: the position of its update, or how many updates its
query saw. -/
structure PlacedCall (Op : Type v) (Query : Type w) (Answer : Type x) where
  call : Call Op Query Answer
  place : Nat

namespace PlacedCall

def before (placed : PlacedCall Op Query Answer) : Nat := placed.place

def after (placed : PlacedCall Op Query Answer) : Nat :=
  match placed.call with
  | .update _ _ => placed.place + 1
  | .query _ _ => placed.place

/-- Queries have even keys; the update at a position stands behind the queries
that did not see it. -/
def key (placed : PlacedCall Op Query Answer) : Nat :=
  match placed.call with
  | .update _ _ => 2 * placed.place + 1
  | .query _ _ => 2 * placed.place

def Fits (object : SerialObject State Op Query Answer) (start : State) (history : List Op)
    (placed : PlacedCall Op Query Answer) : Prop :=
  match placed.call with
  | .update op answer =>
      history[placed.place]? = some op ∧
        answer = object.updated (replay object.apply start (history.take placed.place)) op
  | .query query answer =>
      placed.place ≤ history.length ∧
        answer = object.answer (replay object.apply start (history.take placed.place)) query

theorem key_le {first second : PlacedCall Op Query Answer}
    (ordered : first.after ≤ second.before) : first.key ≤ second.key := by
  unfold after before at ordered
  unfold key
  revert ordered
  cases first.call <;> cases second.call <;> intro ordered <;> simp only at ordered ⊢ <;> omega

theorem key_even {placed : PlacedCall Op Query Answer} {seen : Nat}
    (even : placed.key = 2 * seen) :
    placed.place = seen ∧ ∃ query answer, placed.call = .query query answer := by
  unfold key at even
  cases called : placed.call with
  | update op answer =>
      rw [called] at even
      simp only at even
      omega
  | query query answer =>
      rw [called] at even
      simp only at even
      exact ⟨by omega, query, answer, rfl⟩

theorem key_odd {placed : PlacedCall Op Query Answer} {position : Nat}
    (odd : placed.key = 2 * position + 1) :
    placed.place = position ∧ ∃ op answer, placed.call = .update op answer := by
  unfold key at odd
  cases called : placed.call with
  | update op answer =>
      rw [called] at odd
      simp only at odd
      exact ⟨by omega, op, answer, rfl⟩
  | query query answer =>
      rw [called] at odd
      simp only at odd
      omega

theorem key_lt {object : SerialObject State Op Query Answer} {start : State} {history : List Op}
    {placed : PlacedCall Op Query Answer} (fits : placed.Fits object start history) :
    placed.key < 2 * history.length + 1 := by
  unfold Fits at fits
  unfold key
  cases called : placed.call with
  | update op answer =>
      rw [called] at fits
      have bound := (List.getElem?_eq_some_iff.mp fits.1).1
      simp only
      omega
  | query query answer =>
      rw [called] at fits
      have bound := fits.1
      simp only at bound ⊢
      omega

end PlacedCall

/-! ### The serialization -/

section Serialization

variable {Process : Type y} [Fintype Process] [DecidableEq Process]
  (object : SerialObject State Op Query Answer) (start : State) (history : List Op)
  (sessions : Process → List (PlacedCall Op Query Answer))

noncomputable def claimed (key : Nat) : List (Option Process × Call Op Query Answer) :=
  Finset.univ.toList.flatMap (fun process =>
    ((sessions process).filter (fun placed => placed.key = key)).map
      (fun placed => (some process, placed.call)))

def unclaimed (key : Nat) : List (Option Process × Call Op Query Answer) :=
  (history[key / 2]?).toList.map (fun op =>
    (none, .update op (object.updated (replay object.apply start (history.take (key / 2))) op)))

open Classical in
noncomputable def slot (key : Nat) : List (Option Process × Call Op Query Answer) :=
  if key % 2 = 1 ∧ claimed sessions key = [] then unclaimed object start history key
  else claimed sessions key

noncomputable def serialization : List (Option Process × Call Op Query Answer) :=
  (List.range (2 * history.length + 1)).flatMap (slot object start history sessions)

variable {object start history sessions}

omit [DecidableEq Process] in
theorem mem_claimed {key : Nat} {entry : Option Process × Call Op Query Answer} :
    entry ∈ claimed sessions key ↔
      ∃ process, ∃ placed ∈ sessions process, placed.key = key ∧
        entry = (some process, placed.call) := by
  simp only [claimed, List.mem_flatMap, Finset.mem_toList, Finset.mem_univ, true_and,
    List.mem_map, List.mem_filter, decide_eq_true_eq]
  constructor
  · intro ⟨process, placed, ⟨member, here⟩, same⟩
    exact ⟨process, placed, member, here, same.symm⟩
  · intro ⟨process, placed, member, here, same⟩
    exact ⟨process, placed, ⟨member, here⟩, same.symm⟩

theorem claimed_process (key : Nat) (process : Process) :
    ((claimed sessions key).filter (fun entry => entry.1 = some process)).map Prod.snd =
      ((sessions process).filter (fun placed => placed.key = key)).map PlacedCall.call := by
  rw [claimed, List.filter_flatMap, List.map_flatMap]
  have own := flatMap_only
    (fun member => ((((sessions member).filter (fun placed => placed.key = key)).map
      (fun placed => ((some member, placed.call) : Option Process × Call Op Query Answer))).filter
        (fun entry => entry.1 = some process)).map Prod.snd)
    (Finset.nodup_toList Finset.univ) (Finset.mem_toList.mpr (Finset.mem_univ process)) ?_
  · rw [own, List.filter_map, List.map_map]
    simp [Function.comp_def]
  · intro member _ other
    rw [List.filter_map]
    simp [Function.comp_def, other]

theorem slot_process (key : Nat) (process : Process) :
    ((slot object start history sessions key).filter
        (fun entry => entry.1 = some process)).map Prod.snd =
      ((sessions process).filter (fun placed => placed.key = key)).map PlacedCall.call := by
  unfold slot
  split
  · rename_i free
    have nothing : ((sessions process).filter (fun placed => placed.key = key)).map
        PlacedCall.call = [] := by
      rw [← claimed_process key process, free.2]
      rfl
    rw [nothing, List.filter_eq_nil_iff.mpr ?_]
    · rfl
    · intro entry member
      obtain ⟨op, _, rfl⟩ := List.mem_map.mp member
      simp
  · exact claimed_process key process

theorem serialization_process
    (fits : ∀ process, ∀ placed ∈ sessions process, placed.Fits object start history)
    (ordered : ∀ process, (sessions process).Pairwise
      (fun first second => first.after ≤ second.before)) (process : Process) :
    ((serialization object start history sessions).filter
        (fun entry => entry.1 = some process)).map Prod.snd =
      (sessions process).map PlacedCall.call := by
  have whole := flatMap_filter_key PlacedCall.key
    ((ordered process).imp (fun before => PlacedCall.key_le before)) (2 * history.length + 1)
    (fun placed member => PlacedCall.key_lt (fits process placed member))
  rw [serialization, List.filter_flatMap, List.map_flatMap]
  simp only [slot_process]
  rw [← List.map_flatMap, whole]

omit [DecidableEq Process] in
theorem slot_even
    (fits : ∀ process, ∀ placed ∈ sessions process, placed.Fits object start history)
    (seen : Nat) :
    object.Legal (replay object.apply start (history.take seen))
        ((slot object start history sessions (2 * seen)).map Prod.snd) ∧
      Call.updates ((slot object start history sessions (2 * seen)).map Prod.snd) = [] := by
  have even : ¬(2 * seen % 2 = 1 ∧ claimed sessions (2 * seen) = []) := by omega
  rw [slot, if_neg even]
  apply SerialObject.legal_queries
  intro call member
  obtain ⟨entry, inClaimed, rfl⟩ := List.mem_map.mp member
  obtain ⟨process, placed, inSession, here, rfl⟩ := mem_claimed.mp inClaimed
  obtain ⟨rfl, query, answer, called⟩ := PlacedCall.key_even here
  have fit := fits process placed inSession
  unfold PlacedCall.Fits at fit
  rw [called] at fit
  exact ⟨query, called.trans (congrArg (Call.query query) fit.2)⟩

/-- No two calls claim one update. -/
def Unshared (sessions : Process → List (PlacedCall Op Query Answer)) : Prop :=
  ∀ first second, ∀ placed ∈ sessions first, ∀ other ∈ sessions second,
    ∀ position, placed.key = 2 * position + 1 → other.key = 2 * position + 1 → first = second

omit [DecidableEq Process] in
theorem claimed_odd (ordered : ∀ process, (sessions process).Pairwise
      (fun first second => first.after ≤ second.before)) (unshared : Unshared sessions)
    (position : Nat) :
    claimed sessions (2 * position + 1) = [] ∨
      ∃ process, ∃ placed ∈ sessions process, placed.key = 2 * position + 1 ∧
        claimed sessions (2 * position + 1) = [(some process, placed.call)] := by
  -- a process that claims the update does so once
  have once (process : Process) : ∀ placed ∈ sessions process, placed.key = 2 * position + 1 →
      (sessions process).filter (fun other => other.key = 2 * position + 1) = [placed] := by
    have forward := ordered process
    generalize sessions process = calls at forward
    intro placed member here
    induction calls with
    | nil => cases member
    | cons first rest ih =>
        obtain ⟨behind, later⟩ := List.pairwise_cons.mp forward
        by_cases firstHere : first.key = 2 * position + 1
        · obtain ⟨place, op, answer, called⟩ := PlacedCall.key_odd firstHere
          have none_ : ∀ other ∈ rest, ¬other.key = 2 * position + 1 := by
            intro other inRest otherHere
            have step := behind other inRest
            rw [PlacedCall.after, called, PlacedCall.before, place,
              (PlacedCall.key_odd otherHere).1] at step
            exact Nat.not_succ_le_self _ step
          have same : placed = first := by
            rcases List.mem_cons.mp member with same | inRest
            · exact same
            · exact absurd here (none_ placed inRest)
          rw [List.filter_cons_of_pos (by simpa using firstHere), same,
            List.filter_eq_nil_iff.mpr (fun other inRest => by simpa using none_ other inRest)]
        · have inRest : placed ∈ rest := by
            rcases List.mem_cons.mp member with rfl | inRest
            · exact absurd here firstHere
            · exact inRest
          rw [List.filter_cons_of_neg (by simpa using firstHere)]
          exact ih later inRest
  by_cases nobody : claimed sessions (2 * position + 1) = []
  · exact Or.inl nobody
  · right
    obtain ⟨entry, inClaimed⟩ := List.exists_mem_of_ne_nil _ nobody
    obtain ⟨process, placed, inSession, here, rfl⟩ := mem_claimed.mp inClaimed
    refine ⟨process, placed, inSession, here, ?_⟩
    rw [claimed, flatMap_only _ (Finset.nodup_toList Finset.univ)
      (Finset.mem_toList.mpr (Finset.mem_univ process)), once process placed inSession here,
      List.map_singleton]
    intro member _ other
    rw [List.map_eq_nil_iff, List.filter_eq_nil_iff]
    intro call inMember callHere
    exact other (unshared member process call inMember placed inSession position
      (by simpa using callHere) here)

omit [DecidableEq Process] in
theorem slot_odd
    (fits : ∀ process, ∀ placed ∈ sessions process, placed.Fits object start history)
    (ordered : ∀ process, (sessions process).Pairwise
      (fun first second => first.after ≤ second.before)) (unshared : Unshared sessions)
    {position : Nat} {op : Op} (here : history[position]? = some op) :
    (slot object start history sessions (2 * position + 1)).map Prod.snd =
      [.update op (object.updated (replay object.apply start (history.take position)) op)] := by
  have odd : (2 * position + 1) % 2 = 1 := by omega
  have half : (2 * position + 1) / 2 = position := by omega
  rcases claimed_odd ordered unshared position with
    free | ⟨process, placed, inSession, at_, one⟩
  · rw [slot, if_pos ⟨odd, free⟩, unclaimed, half, here]
    rfl
  · have taken : ¬((2 * position + 1) % 2 = 1 ∧ claimed sessions (2 * position + 1) = []) := by
      rw [one]
      simp
    obtain ⟨place, claims, answer, called⟩ := PlacedCall.key_odd at_
    have fit := fits process placed inSession
    unfold PlacedCall.Fits at fit
    rw [called, place] at fit
    obtain ⟨there, replied⟩ := fit
    rw [here] at there
    cases there
    rw [slot, if_neg taken, one, List.map_singleton, called, replied]

omit [DecidableEq Process] in
/-- Up to the queries that saw `seen` updates, the serialization is legal and
has exactly these updates. -/
theorem serialization_legal
    (fits : ∀ process, ∀ placed ∈ sessions process, placed.Fits object start history)
    (ordered : ∀ process, (sessions process).Pairwise
      (fun first second => first.after ≤ second.before)) (unshared : Unshared sessions)
    (seen : Nat) (within : seen ≤ history.length) :
    object.Legal start (((List.range (2 * seen + 1)).flatMap
        (slot object start history sessions)).map Prod.snd) ∧
      Call.updates (((List.range (2 * seen + 1)).flatMap
        (slot object start history sessions)).map Prod.snd) = history.take seen := by
  induction seen with
  | zero =>
      obtain ⟨legal, none_⟩ := slot_even fits 0
      rw [Nat.mul_zero, Nat.zero_add, List.range_one, List.flatMap_singleton, List.take_zero]
      exact ⟨legal, none_⟩
  | succ seen ih =>
      obtain ⟨legal, updates⟩ := ih (Nat.le_of_succ_le within)
      have here : history[seen]? = some history[seen] :=
        List.getElem?_eq_getElem (Nat.lt_of_succ_le within)
      have odd := slot_odd fits ordered unshared here
      obtain ⟨queries, none_⟩ := slot_even fits (seen + 1)
      have keys : List.range (2 * (seen + 1) + 1) =
          List.range (2 * seen + 1) ++ [2 * seen + 1] ++ [2 * (seen + 1)] := by
        rw [← List.range_succ]
        exact List.range_succ
      have moved : replay object.apply start (history.take (seen + 1)) =
          object.apply (replay object.apply start (history.take seen)) history[seen] := by
        rw [take_succ_of_getElem? here, replay_append]
        rfl
      rw [keys, List.flatMap_append, List.flatMap_append, List.flatMap_singleton,
        List.flatMap_singleton, List.map_append, List.map_append, odd]
      constructor
      · rw [SerialObject.legal_append, SerialObject.legal_append, SerialObject.updates_append,
          updates]
        refine ⟨⟨legal, rfl, True.intro⟩, ?_⟩
        rw [moved] at queries
        rw [replay_append]
        exact queries
      · rw [SerialObject.updates_append, SerialObject.updates_append, updates, none_,
          take_succ_of_getElem? here, List.append_nil]
        rfl

/-- Placed calls that go forward in every session and share no update are
sequentially consistent. -/
theorem sequentiallyConsistent_of_placed
    (fits : ∀ process, ∀ placed ∈ sessions process, placed.Fits object start history)
    (ordered : ∀ process, (sessions process).Pairwise
      (fun first second => first.after ≤ second.before)) (unshared : Unshared sessions) :
    object.SequentiallyConsistent start history
      (fun process => (sessions process).map PlacedCall.call) := by
  obtain ⟨legal, updates⟩ :=
    serialization_legal fits ordered unshared history.length (Nat.le_refl _)
  rw [List.take_length] at updates
  exact ⟨serialization object start history sessions, legal, updates,
    serialization_process fits ordered⟩

end Serialization

end TrainsValkey.Library
