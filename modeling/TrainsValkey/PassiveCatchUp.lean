import Mathlib.Data.List.Chain
import TrainsValkey.Driver
import TrainsValkey.LoopbackRing
import TrainsValkey.TotalOrder

/-
A passive replica over many rounds.

Each fetch is answered by a survivor that stands somewhere in the one total
order, tried in the order of the configured addresses.  A survivor serves the
missing tail to a requester it can serve and a full snapshot at its own head to
any other, so after every fetch the replica stands where its server stands.
-/

set_option autoImplicit false

namespace TrainsValkey

open Trains
open Library (Stream)

section Rounds

variable [Trains] {σ : Type} [RedisStore σ]

/-! ### What one fetch does -/

/-- Who answers a fetch: the first survivor that can be reached. -/
def responder (survivors : List (Option (DriverState σ))) : Option (DriverState σ) :=
  survivors.findSome? id

omit [RedisStore σ] in
theorem responder_mem {survivors : List (Option (DriverState σ))} {survivor : DriverState σ}
    (answered : responder survivors = some survivor) : some survivor ∈ survivors := by
  obtain ⟨found, member, same⟩ := List.exists_of_findSome?_eq_some answered
  cases same
  exact member

/-- What importing a survivor's snapshot makes of the passive pieces. -/
def Parts.resetTo (parts : Parts σ) (survivor : DriverState σ) : Parts σ :=
  { store := survivor.store
    dedup := survivor.dedup
    deliveredLog := DeliveredLog.resumedAt survivor.deliveredLog.headIndex
      parts.deliveredLog.cap }

def Parts.servedBy (parts : Parts σ) (survivor : DriverState σ) : Parts σ :=
  if 0 < parts.deliveredLog.headIndex ∧
      survivor.deliveredLog.lowWaterIndex ≤ parts.deliveredLog.headIndex ∧
      parts.deliveredLog.headIndex ≤ survivor.deliveredLog.headIndex then
    parts.deliverAll ((survivor.deliveredLog.entriesFrom parts.deliveredLog.headIndex).map
      DeliveredEntry.op)
  else parts.resetTo survivor

section Fetch

variable [AlwaysSerializable DeliveredEntry]

omit [Trains] in
theorem applyPassiveTail_entries (entries : List DeliveredEntry) (parts : Parts σ)
    (applied : Nat) :
    ∃ count, applyPassiveTail (entries.map serialize) parts applied =
      (.ok count, parts.deliverAll (entries.map DeliveredEntry.op)) := by
  induction entries generalizing parts applied with
  | nil => exact ⟨applied, rfl⟩
  | cons entry rest ih =>
      simp only [List.map_cons, applyPassiveTail, decode_serialize]
      obtain ⟨count, done⟩ := ih (applyDeliveredOpParts entry.op parts).2
        (if (applyDeliveredOpParts entry.op parts).1.isSome then applied + 1 else applied)
      exact ⟨count, done⟩

variable [AlwaysSerializable ReplicaSnapshot]

def answers (survivors : List (Option (DriverState σ))) (have_ : Nat) :
    List (Option StateTransfer) :=
  survivors.map (Option.map (fun survivor => survivor.serveStateTransfer have_))

theorem serveStateTransfer_full (survivor : DriverState σ) {have_ : Nat}
    (outside : ¬(0 < have_ ∧ survivor.deliveredLog.lowWaterIndex ≤ have_ ∧
      have_ ≤ survivor.deliveredLog.headIndex)) :
    survivor.serveStateTransfer have_ =
      { snapshot := serialize survivor.exportSnapshot, tail := [] } :=
  buildStateTransferLazy_full rfl outside

theorem serveStateTransfer_tail (survivor : DriverState σ) {have_ : Nat}
    (inside : 0 < have_ ∧ survivor.deliveredLog.lowWaterIndex ≤ have_ ∧
      have_ ≤ survivor.deliveredLog.headIndex) :
    survivor.serveStateTransfer have_ =
      { snapshot := [], tail := (survivor.deliveredLog.entriesFrom have_).map serialize } :=
  buildStateTransferLazy_tail _ inside

variable [LawfulRedisStore σ]

theorem applyPassiveTransfer_serve (parts : Parts σ) (survivor : DriverState σ) :
    ∃ count, applyPassiveTransfer
        (survivor.serveStateTransfer parts.deliveredLog.headIndex) parts =
      (.ok count, parts.servedBy survivor) := by
  unfold Parts.servedBy
  split
  · rename_i inside
    rw [serveStateTransfer_tail survivor inside]
    exact applyPassiveTail_entries _ parts 0
  · rename_i outside
    rw [serveStateTransfer_full survivor outside]
    refine ⟨0, ?_⟩
    simp only [applyPassiveTransfer, isEmpty_serialize, Bool.false_eq_true, if_false,
      decode_serialize, applyPassiveTail]
    simp only [DriverState.exportSnapshot, LawfulRedisStore.import_export]
    rfl

theorem pollSurvivors_answers (survivors : List (Option (DriverState σ))) (parts : Parts σ) :
    (pollSurvivors (answers survivors parts.deliveredLog.headIndex) parts).2 =
      match responder survivors with
      | some survivor => parts.servedBy survivor
      | none => parts := by
  induction survivors with
  | nil => rfl
  | cons first rest ih =>
      cases first with
      | none => exact ih
      | some survivor =>
          obtain ⟨count, done⟩ := applyPassiveTransfer_serve parts survivor
          simp only [answers, List.map_cons, Option.map_some, pollSurvivors, done]
          rfl

theorem finalSnapshot_answers (survivors : List (Option (DriverState σ))) (parts : Parts σ) :
    finalSnapshotForPromotion (answers survivors 0) parts =
      match responder survivors with
      | some survivor =>
          (some
            { dedup := survivor.dedup
              deliveredLog := (parts.resetTo survivor).deliveredLog
              protocol := exportState survivor.core
              view :=
                { installedView := installedView survivor.vc, dead := survivor.dead.toList } },
            parts.resetTo survivor)
      | none => (none, parts) := by
  induction survivors with
  | nil => rfl
  | cons first rest ih =>
      cases first with
      | none => exact ih
      | some survivor =>
          have full := serveStateTransfer_full survivor (fun inside : 0 < 0 ∧ _ =>
            Nat.lt_irrefl 0 inside.1)
          simp only [answers, List.map_cons, Option.map_some, finalSnapshotForPromotion, full,
            isEmpty_serialize, Bool.false_eq_true, if_false, decode_serialize, applyFinalTail]
          simp only [DriverState.exportSnapshot, LawfulRedisStore.import_export]
          rfl

end Fetch

/-! ### Standing in the total order -/

section Standing

variable {start : σ} {history : List WriteOp} {parts : Parts σ} {survivor : DriverState σ}

theorem resetTo_caughtUp (server : CaughtUp start history survivor.toParts) :
    CaughtUp start history (parts.resetTo survivor) := by
  refine ⟨server.standing, ?_⟩
  intro entry member
  cases member

omit [RedisStore σ] in
theorem resetTo_headIndex :
    (parts.resetTo survivor).deliveredLog.headIndex = survivor.deliveredLog.headIndex := rfl

/-- The pieces before the first fetch: whatever store, and nothing applied. -/
def Parts.fresh (store : σ) : Parts σ := (Passive.new store).toParts

/-- The pieces of a passive replica: untouched, or at a prefix of the order. -/
def Follows (start : σ) (history : List WriteOp) (store : σ) (parts : Parts σ) : Prop :=
  parts = Parts.fresh store ∨ CaughtUp start history parts

variable {store : σ}

/-- Wherever it stood, the replica stands where its server stands. -/
theorem servedBy_caughtUp (distinct : (history.map WriteOp.ident).Nodup)
    (follows : Follows start history store parts)
    (server : CaughtUp start history survivor.toParts) :
    CaughtUp start history (parts.servedBy survivor) ∧
      (parts.servedBy survivor).deliveredLog.headIndex = survivor.deliveredLog.headIndex := by
  unfold Parts.servedBy
  split
  · rename_i inside
    obtain ⟨started, retained, behind⟩ := inside
    rcases follows with rfl | caughtUp
    · exact absurd started (Nat.lt_irrefl 0)
    · have handed := Stream.between behind server.standing.within
      rw [← server.entriesFrom_ops retained behind] at handed
      exact caughtUp.stream distinct handed
  · exact ⟨resetTo_caughtUp server, resetTo_headIndex⟩

/-! ### Not going backwards -/

/-- The index has not decreased and what was applied is still applied. -/
structure NoStepBack (before after : Parts σ) : Prop where
  index : before.deliveredLog.headIndex ≤ after.deliveredLog.headIndex
  applied : ∀ origin requestId, before.dedup.isDup origin requestId = true →
    after.dedup.isDup origin requestId = true

omit [Trains] [RedisStore σ] in
theorem NoStepBack.refl (parts : Parts σ) : NoStepBack parts parts :=
  ⟨Nat.le_refl _, fun _ _ applied => applied⟩

omit [Trains] in
/-- Along one total order the index decides. -/
theorem noStepBack_iff {after : Parts σ} (follows : Follows start history store parts)
    (reached : CaughtUp start history after) :
    NoStepBack parts after ↔ parts.deliveredLog.headIndex ≤ after.deliveredLog.headIndex := by
  constructor
  · exact NoStepBack.index
  · intro forward
    refine ⟨forward, ?_⟩
    intro origin requestId applied
    rcases follows with rfl | caughtUp
    · have unseen : (Parts.fresh store).dedup.isDup origin requestId = false :=
        WriteDedup.isDup_new origin requestId
      rw [unseen] at applied
      cases applied
    · obtain ⟨op, member, same⟩ := (caughtUp.isDup_iff origin requestId).mp applied
      exact (reached.isDup_iff origin requestId).mpr
        ⟨op, (List.take_prefix_take_left forward).subset member, same⟩

end Standing

/-! ### Rounds -/

section Run

variable [AlwaysSerializable DeliveredEntry] [AlwaysSerializable ReplicaSnapshot]

/-- Who answers in one round, in the order the addresses are tried: the poll,
and the final fetch if the round makes one. -/
structure Round (σ : Type) [Trains] where
  polled : List (Option (DriverState σ))
  full : List (Option (DriverState σ))

def Passive.poll (st : Passive σ) (round : Round σ) : Polled × Parts σ :=
  pollSurvivors (answers round.polled st.deliveredLog.headIndex) st.toParts

def Passive.round (promote : Bool) (st : Passive σ) (round : Round σ) :
    Option PromoteSeed × Passive σ :=
  st.tick promote (answers round.polled st.deliveredLog.headIndex) (answers round.full 0)

def Passive.finishes (promote : Bool) (st : Passive σ) (round : Round σ) : Bool :=
  promote && (st.poll round).1.served && !(st.poll round).1.progress &&
    0 < (st.poll round).2.deliveredLog.headIndex && promoteIdleRounds ≤ st.idle + 1

/-- Everything a replica holds from one round to the next, up to its
promotion. -/
def Passive.visited (promote : Bool) : List (Round σ) → Passive σ → List (Parts σ)
  | [], _ => []
  | round :: rest, st =>
      (st.poll round).2 :: (st.round promote round).2.toParts ::
        match (st.round promote round).1 with
        | some _ => []
        | none => visited promote rest (st.round promote round).2

/-- Every fetch is answered by a survivor that is not behind the replica. -/
def Passive.ServedAhead (promote : Bool) : List (Round σ) → Passive σ → Prop
  | [], _ => True
  | round :: rest, st =>
      (∀ survivor, responder round.polled = some survivor →
        st.deliveredLog.headIndex ≤ survivor.deliveredLog.headIndex) ∧
      (st.finishes promote round = true → ∀ survivor, responder round.full = some survivor →
        (st.poll round).2.deliveredLog.headIndex ≤ survivor.deliveredLog.headIndex) ∧
      ((st.round promote round).1 = none →
        ServedAhead promote rest (st.round promote round).2)

variable [LawfulRedisStore σ]

theorem poll_parts (st : Passive σ) (round : Round σ) :
    (st.poll round).2 =
      match responder round.polled with
      | some survivor => st.toParts.servedBy survivor
      | none => st.toParts :=
  pollSurvivors_answers round.polled st.toParts

theorem round_parts (promote : Bool) (st : Passive σ) (round : Round σ) :
    (st.round promote round).2.toParts =
      if st.finishes promote round then
        match responder round.full with
        | some survivor => (st.poll round).2.resetTo survivor
        | none => (st.poll round).2
      else (st.poll round).2 := by
  unfold Passive.round Passive.tick Passive.finishes Passive.poll
  simp only
  generalize pollSurvivors (answers round.polled st.deliveredLog.headIndex) st.toParts = polled
  by_cases idle : (promote && polled.1.served && !polled.1.progress &&
      decide (0 < polled.2.deliveredLog.headIndex)) = true
  · simp only [idle, if_true, Bool.true_and, finalSnapshot_answers]
    by_cases last : promoteIdleRounds ≤ st.idle + 1
    · simp only [last, if_true, decide_true]
      cases responder round.full with
      | none => rfl
      | some survivor => rfl
    · simp only [last, if_false, decide_false, Bool.false_eq_true]
  · simp only [idle, Bool.false_and, if_false, Bool.false_eq_true]

variable {start : σ} {history : List WriteOp} {store : σ}

/-- The poll of a round keeps the replica on the order and goes back exactly
when its server is behind. -/
theorem poll_noStepBack_iff (distinct : (history.map WriteOp.ident).Nodup) {st : Passive σ}
    {round : Round σ} (follows : Follows start history store st.toParts)
    (honest : ∀ survivor, responder round.polled = some survivor →
      CaughtUp start history survivor.toParts) :
    Follows start history store (st.poll round).2 ∧
      (NoStepBack st.toParts (st.poll round).2 ↔
        ∀ survivor, responder round.polled = some survivor →
          st.deliveredLog.headIndex ≤ survivor.deliveredLog.headIndex) := by
  rw [poll_parts]
  cases answered : responder round.polled with
  | none =>
      refine ⟨follows, ?_⟩
      simp [NoStepBack.refl]
  | some survivor =>
      obtain ⟨reached, index⟩ := servedBy_caughtUp distinct follows (honest survivor answered)
      refine ⟨Or.inr reached, ?_⟩
      simp only [noStepBack_iff follows reached, index, Option.some.injEq, forall_eq']

theorem round_noStepBack_iff (promote : Bool) {st : Passive σ} {round : Round σ}
    (follows : Follows start history store (st.poll round).2)
    (honest : ∀ survivor, responder round.full = some survivor →
      CaughtUp start history survivor.toParts) :
    Follows start history store (st.round promote round).2.toParts ∧
      (NoStepBack (st.poll round).2 (st.round promote round).2.toParts ↔
        (st.finishes promote round = true → ∀ survivor, responder round.full = some survivor →
          (st.poll round).2.deliveredLog.headIndex ≤ survivor.deliveredLog.headIndex)) := by
  rw [round_parts]
  cases finishes : st.finishes promote round with
  | false =>
      refine ⟨follows, ?_⟩
      simp [NoStepBack.refl]
  | true =>
      cases answered : responder round.full with
      | none =>
          refine ⟨follows, ?_⟩
          simp [NoStepBack.refl]
      | some survivor =>
          have reached : CaughtUp start history ((st.poll round).2.resetTo survivor) :=
            resetTo_caughtUp (honest survivor answered)
          refine ⟨Or.inr reached, ?_⟩
          simp only [if_true, noStepBack_iff follows reached, resetTo_headIndex, forall_const,
            Option.some.injEq, forall_eq']

theorem visited_chain_iff (promote : Bool) (distinct : (history.map WriteOp.ident).Nodup)
    (rounds : List (Round σ))
    (honest : ∀ round ∈ rounds, ∀ survivor,
      some survivor ∈ round.polled ∨ some survivor ∈ round.full →
        CaughtUp start history survivor.toParts)
    (st : Passive σ) (follows : Follows start history store st.toParts) :
    (∀ parts ∈ st.visited promote rounds, Follows start history store parts) ∧
      (List.IsChain NoStepBack (st.toParts :: st.visited promote rounds) ↔
        st.ServedAhead promote rounds) := by
  induction rounds generalizing st with
  | nil => simp [Passive.visited, Passive.ServedAhead]
  | cons round rest ih =>
      have here := honest round List.mem_cons_self
      obtain ⟨polled, pollIff⟩ := poll_noStepBack_iff distinct follows
        (fun survivor answered => here survivor (Or.inl (responder_mem answered)))
      obtain ⟨reached, roundIff⟩ := round_noStepBack_iff promote polled
        (fun survivor answered => here survivor (Or.inr (responder_mem answered)))
      have later := ih (fun other member => honest other (List.mem_cons_of_mem _ member))
        (st.round promote round).2 reached
      unfold Passive.visited Passive.ServedAhead
      rw [List.isChain_cons_cons, List.isChain_cons_cons, pollIff, roundIff]
      cases seeded : (st.round promote round).1 with
      | some seed =>
          constructor
          · intro parts member
            simp only [List.mem_cons, List.not_mem_nil, or_false] at member
            rcases member with rfl | rfl
            · exact polled
            · exact reached
          · simp
      | none =>
          constructor
          · intro parts member
            simp only [List.mem_cons] at member
            rcases member with rfl | rfl | member
            · exact polled
            · exact reached
            · exact later.1 parts member
          · simp only [forall_const]
            rw [later.2]

/-- A passive replica fed by survivors of one total order always stands at a
prefix of it, and goes backwards in no round exactly when no survivor that
serves it is behind it at that moment. -/
theorem passive_no_step_back_iff (promote : Bool) (store start : σ) (history : List WriteOp)
    (distinct : (history.map WriteOp.ident).Nodup) (rounds : List (Round σ))
    (honest : ∀ round ∈ rounds, ∀ survivor,
      some survivor ∈ round.polled ∨ some survivor ∈ round.full →
        CaughtUp start history survivor.toParts) :
    (∀ parts ∈ (Passive.new store).visited promote rounds, Follows start history store parts) ∧
      (List.IsChain NoStepBack
          (Parts.fresh store :: (Passive.new store).visited promote rounds) ↔
        (Passive.new store).ServedAhead promote rounds) :=
  visited_chain_iff promote distinct rounds honest (Passive.new store) (Or.inl rfl)

end Run

end Rounds

/-! ### Two survivors, one of them behind -/

section Sample

open scoped LoopbackRing

def twoWrites : List WriteOp :=
  [WriteOp.new 0 0 (LoopbackRing.set "a" "1"), WriteOp.new 0 1 (LoopbackRing.set "b" "2")]

def survivorAfter (ops : List WriteOp) : DriverState MemStore :=
  (driverLoop LoopbackRing.plainSecond MemStore.new none
    [.train ⟨0, LoopbackRing.payloads ops⟩]).1

def inFront : DriverState MemStore := survivorAfter twoWrites

def behind : DriverState MemStore := survivorAfter (twoWrites.take 1)

theorem inFront_caughtUp : CaughtUp MemStore.new twoWrites inFront.toParts :=
  ((CaughtUp.initial MemStore.new twoWrites defaultCap).stream (by decide)
    (Stream.next rfl (Stream.next rfl (Stream.done 2)))).1

theorem behind_caughtUp : CaughtUp MemStore.new twoWrites behind.toParts :=
  ((CaughtUp.initial MemStore.new twoWrites defaultCap).stream (by decide)
    (Stream.next rfl (Stream.done 1))).1

def forwardRounds : List (Round MemStore) :=
  [⟨[some behind, some inFront], []⟩, ⟨[none, some inFront], []⟩, ⟨[some inFront], []⟩,
    ⟨[some inFront], [some inFront]⟩]

theorem passive_no_step_back_iff_forward :
    List.IsChain NoStepBack
      (Parts.fresh MemStore.new :: (Passive.new MemStore.new).visited true forwardRounds) := by
  have honest : ∀ round ∈ forwardRounds, ∀ survivor,
      some survivor ∈ round.polled ∨ some survivor ∈ round.full →
        CaughtUp MemStore.new twoWrites survivor.toParts := by
    intro round member survivor answering
    have known : survivor = behind ∨ survivor = inFront := by
      simp only [forwardRounds, List.mem_cons, List.not_mem_nil, or_false] at member
      rcases member with rfl | rfl | rfl | rfl
      · simpa using answering
      · exact Or.inr (by simpa using answering)
      · exact Or.inr (by simpa using answering)
      · exact Or.inr (by simpa using answering)
    rcases known with rfl | rfl
    · exact behind_caughtUp
    · exact inFront_caughtUp
  apply (passive_no_step_back_iff true MemStore.new MemStore.new twoWrites (by decide)
    forwardRounds honest).2.mpr
  have near {bound : Nat} {survivors : List (Option (DriverState MemStore))}
      (first : responder survivors = some inFront) (within : bound ≤ 2) :
      ∀ survivor, responder survivors = some survivor →
        bound ≤ survivor.deliveredLog.headIndex := by
    intro survivor answered
    rw [first] at answered
    cases answered
    exact within
  refine ⟨?_, fun finishes => absurd finishes (by decide), fun _ =>
    ⟨near rfl (by decide), fun finishes => absurd finishes (by decide), fun _ =>
      ⟨near rfl (by decide), fun finishes => absurd finishes (by decide), fun _ =>
        ⟨near rfl (by decide), fun _ => near rfl (by decide), fun _ => True.intro⟩⟩⟩⟩
  intro survivor answered
  exact Nat.zero_le _

def backwardRounds : List (Round MemStore) :=
  [⟨[some inFront, some behind], []⟩, ⟨[none, some behind], []⟩]

def getB : Command := { name := "GET", argv := [asBytes "GET", asBytes "b"] }

/-- The survivor in front fails after the first round, and the second write,
which a reader has seen, is gone. -/
theorem passive_replica_goes_backwards :
    ((Passive.new MemStore.new).visited true backwardRounds).map (fun parts =>
        (parts.deliveredLog.headIndex, parts.store.query ⟨0, 0⟩ getB)) =
      [(2, .bulk (asBytes "2")), (2, .bulk (asBytes "2")), (1, .nil), (1, .nil)] ∧
      ¬List.IsChain NoStepBack
        (Parts.fresh MemStore.new :: (Passive.new MemStore.new).visited true backwardRounds) := by
  refine ⟨by rfl, ?_⟩
  intro chain
  have indices : List.IsChain (· ≤ ·)
      ((Parts.fresh MemStore.new ::
        (Passive.new MemStore.new).visited true backwardRounds).map
          (fun parts => parts.deliveredLog.headIndex)) :=
    List.isChain_map_of_isChain _ (fun _ _ step => step.index) chain
  have values : (Parts.fresh MemStore.new ::
      (Passive.new MemStore.new).visited true backwardRounds).map
        (fun parts => parts.deliveredLog.headIndex) = [0, 2, 2, 1, 1] := by rfl
  rw [values] at indices
  simp at indices

end Sample

end TrainsValkey
