import TrainsValkey.Standby

/-
The task of a rejoining node, from the start of the process on.

It catches up as a standby that refuses every write.  If it may promote itself,
and the transport comes up when it does, its driver takes over; if the transport
does not come up, it is a standby again, with nothing but its store, and may not
promote itself any more.
-/

set_option autoImplicit false

namespace TrainsValkey

open Trains
open Library (Machine)

section Rejoining

variable [Trains] {σ : Type} [RedisStore σ]

/-! ### The task -/

inductive NodeTask (σ : Type) [Trains]
  | passive (promote : Bool) (st : Passive σ)
  | driving (st : DriverState σ)
  | exited (store : σ)

def NodeTask.store : NodeTask σ → σ
  | .passive _ st => st.store
  | .driving st => st.store
  | .exited store => store

/-- What the task takes up: a poll, with whether the transport comes up should
the poll end in a promotion; a turn of the driver's loop, of which a standby
knows client writes only; and the end of the command channel. -/
inductive TaskInput (σ : Type) [Trains]
  | poll (round : Round σ) (transport : Bool)
  | turn (input : DriverInput)
  | closed

def readOnlyReply : Reply := .error "ERR node is rejoining — read-only passive replica"

def refuse : DriverInput → List Event
  | .request req => [.request req.reply, .answer req.reply readOnlyReply]
  | _ => []

/-- The turns that the task takes before its channel closes. -/
def turns : List (TaskInput σ) → List DriverInput
  | [] => []
  | .poll _ _ :: rest => turns rest
  | .turn input :: rest => input :: turns rest
  | .closed :: _ => []

def refusals (inputs : List (TaskInput σ)) : List Event := (turns inputs).flatMap refuse

section Task

variable [Bincode WriteOp] [FloatArith] [AlwaysSerializable DeliveredEntry]
  [AlwaysSerializable ReplicaSnapshot]

def NodeTask.poll (cfg : DriverCfg) (promote : Bool) (st : Passive σ) (round : Round σ)
    (transport : Bool) : NodeTask σ × List Event :=
  match st.round promote round with
  | (none, st) => (.passive promote st, [])
  | (some seed, st) =>
      if transport then
        let (st, events) := driverInit cfg st.store (some seed)
        (.driving st, events)
      else (.passive false (Passive.new st.store), [])

/-- A driver does not poll, and a task that is gone does nothing. -/
def rejoiningNode (cfg : DriverCfg) : Machine (NodeTask σ) (TaskInput σ) Event where
  step task input :=
    match task, input with
    | .passive promote st, .poll round transport => NodeTask.poll cfg promote st round transport
    | .passive promote st, .turn input => (.passive promote st, refuse input)
    | .passive _ st, .closed => (.exited st.store, [])
    | .driving st, .turn input =>
        let (st, events) := driverStep cfg input st
        (.driving st, events)
    | .driving st, .poll _ _ => (.driving st, [])
    | .driving st, .closed => (.exited st.store, [])
    | .exited store, _ => (.exited store, [])

/-! ### Once it drives, it is a driver -/

theorem run_exited (cfg : DriverCfg) (store : σ) (inputs : List (TaskInput σ)) :
    (rejoiningNode cfg).run (.exited store) inputs = (.exited store, []) := by
  induction inputs with
  | nil => rfl
  | cons input rest ih =>
      rw [Machine.run_cons]
      change (((rejoiningNode cfg).run (.exited store) rest).1,
        [] ++ ((rejoiningNode cfg).run (.exited store) rest).2) = _
      rw [ih]
      rfl

theorem run_driving (cfg : DriverCfg) (st : DriverState σ) (inputs : List (TaskInput σ)) :
    ((rejoiningNode cfg).run (.driving st) inputs).1.store =
        ((driver cfg).run st (turns inputs)).1.store ∧
      ((rejoiningNode cfg).run (.driving st) inputs).2 =
        ((driver cfg).run st (turns inputs)).2 := by
  induction inputs generalizing st with
  | nil => exact ⟨rfl, rfl⟩
  | cons input rest ih =>
      cases input with
      | poll round transport => exact ih st
      | turn input =>
          obtain ⟨store, events⟩ := ih (driverStep cfg input st).1
          exact ⟨store, congrArg ((driverStep cfg input st).2 ++ ·) events⟩
      | closed =>
          rw [Machine.run_cons]
          change ((rejoiningNode cfg).run (.exited st.store) rest).1.store = _ ∧
            [] ++ ((rejoiningNode cfg).run (.exited st.store) rest).2 = _
          rw [run_exited]
          exact ⟨rfl, rfl⟩

/-! ### What a promotion takes over -/

variable [LawfulRedisStore σ] {start : σ} {history : List WriteOp}

omit [Bincode WriteOp] [FloatArith] in
theorem round_seed {promote : Bool} {st : Passive σ} {round : Round σ} {seed : PromoteSeed}
    (seeded : (st.round promote round).1 = some seed) :
    promote = true ∧ (st.round promote round).2.toParts =
        ⟨(st.round promote round).2.store, seed.dedup, seed.deliveredLog⟩ ∧
      ∃ survivor, some survivor ∈ round.full ∧
        (st.round promote round).2.toParts = (st.poll round).2.resetTo survivor := by
  unfold Passive.poll
  unfold Passive.round Passive.tick at seeded ⊢
  simp only at seeded ⊢
  generalize pollSurvivors (answers round.polled st.deliveredLog.headIndex) st.toParts = polled
    at seeded ⊢
  by_cases idle : (promote && polled.1.served && !polled.1.progress &&
      decide (0 < polled.2.deliveredLog.headIndex)) = true
  · simp only [idle, if_true, finalSnapshot_answers] at seeded ⊢
    by_cases last : promoteIdleRounds ≤ st.idle + 1
    · simp only [last, if_true] at seeded ⊢
      have promoted : promote = true := by
        cases promote with
        | true => rfl
        | false => cases idle
      cases answered : responder round.full with
      | none =>
          rw [answered] at seeded
          cases seeded
      | some survivor =>
          rw [answered] at seeded
          cases seeded
          exact ⟨promoted, rfl, survivor, responder_mem answered, rfl⟩
    · rw [if_neg last] at seeded
      cases seeded
  · rw [if_neg idle] at seeded
    cases seeded

omit [Bincode WriteOp] [FloatArith] in
theorem round_follows (promote : Bool) (distinct : (history.map WriteOp.ident).Nodup)
    {st : Passive σ} {round : Round σ} {store : σ}
    (follows : Follows start history store st.toParts)
    (honest : ∀ survivor, some survivor ∈ round.polled ∨ some survivor ∈ round.full →
      CaughtUp start history survivor.toParts) :
    Follows start history store (st.round promote round).2.toParts := by
  have polled := (poll_noStepBack_iff distinct follows (fun survivor answered =>
    honest survivor (Or.inl (responder_mem answered)))).1
  exact (round_noStepBack_iff promote polled (fun survivor answered =>
    honest survivor (Or.inr (responder_mem answered)))).1

/-! ### The life of the node -/

/-- Every survivor that answers stands on the order. -/
def Honest (start : σ) (history : List WriteOp) (inputs : List (TaskInput σ)) : Prop :=
  ∀ round transport, .poll round transport ∈ inputs → ∀ survivor,
    some survivor ∈ round.polled ∨ some survivor ∈ round.full →
      CaughtUp start history survivor.toParts

/-- Up to here the task was a standby that might still promote itself, and the
next round does so, with `seed` and the store beside it. -/
structure Promotes (start : σ) (history : List WriteOp) (cfg : DriverCfg) (before : NodeTask σ)
    (earlier : List (TaskInput σ)) (round : Round σ) (seed : PromoteSeed) (store : σ) :
    Prop where
  stoodBy : ∃ st, (rejoiningNode cfg).run before earlier = (.passive true st, refusals earlier) ∧
    (st.round true round).1 = some seed ∧ (st.round true round).2.store = store
  caughtUp : CaughtUp start history ⟨store, seed.dedup, seed.deliveredLog⟩

/-- The pieces of a standby: on the order, or with nothing applied beside the
store it began with, or beside the store that a promotion had taken over when
the transport did not come up. -/
inductive Held (start : σ) (history : List WriteOp) (cfg : DriverCfg) (promote : Bool)
    (store : σ) (before : NodeTask σ) (inputs : List (TaskInput σ)) : Bool → Parts σ → Prop
  | following {now : Bool} {parts : Parts σ} (caughtUp : CaughtUp start history parts) :
      Held start history cfg promote store before inputs now parts
  | untouched : Held start history cfg promote store before inputs promote (Parts.fresh store)
  | left {earlier later : List (TaskInput σ)} {round : Round σ} {seed : PromoteSeed} {taken : σ}
      (split : inputs = earlier ++ .poll round false :: later)
      (promotes : Promotes start history cfg before earlier round seed taken) :
      Held start history cfg promote store before inputs false (Parts.fresh taken)

/-- A run without a promotion that succeeds. -/
structure StoodBy (start : σ) (history : List WriteOp) (cfg : DriverCfg) (promote : Bool)
    (store : σ) (before : NodeTask σ) (inputs : List (TaskInput σ))
    (reached : NodeTask σ × List Event) : Prop where
  refused : reached.2 = refusals inputs
  standing : ∀ now st, reached.1 = .passive now st →
    Held start history cfg promote store before inputs now st.toParts
  exited : ∀ last, reached.1 = .exited last → ∃ now parts, parts.store = last ∧
    Held start history cfg promote store before inputs now parts
  idle : ∀ st, reached.1 ≠ .driving st

/-- A run in which the task took over `seed` and the store beside it in front
of `later`. -/
structure Joined (start : σ) (history : List WriteOp) (cfg : DriverCfg) (before : NodeTask σ)
    (inputs : List (TaskInput σ)) (reached : NodeTask σ × List Event)
    (earlier : List (TaskInput σ)) (round : Round σ) (later : List (TaskInput σ))
    (seed : PromoteSeed) (taken : σ) : Prop where
  split : inputs = earlier ++ .poll round true :: later
  promotes : Promotes start history cfg before earlier round seed taken
  events : reached.2 = refusals earlier ++ (driverLoop cfg taken (some seed) (turns later)).2
  store_eq : reached.1.store = (driverLoop cfg taken (some seed) (turns later)).1.store

def Life (start : σ) (history : List WriteOp) (cfg : DriverCfg) (promote : Bool) (store : σ)
    (before : NodeTask σ) (inputs : List (TaskInput σ)) (reached : NodeTask σ × List Event) :
    Prop :=
  StoodBy start history cfg promote store before inputs reached ∨
    ∃ earlier round later seed taken,
      Joined start history cfg before inputs reached earlier round later seed taken

/-! ### A step that leaves the node a standby -/

section Cons

variable {cfg : DriverCfg} {before next : NodeTask σ} {input : TaskInput σ}
  {rest : List (TaskInput σ)} {emitted : List Event} {promote nextPromote : Bool}
  {store nextStore : σ}

omit [LawfulRedisStore σ] in
theorem run_cons_standby (step : (rejoiningNode cfg).step before input = (next, emitted))
    (others : List (TaskInput σ)) :
    (rejoiningNode cfg).run before (input :: others) =
      (((rejoiningNode cfg).run next others).1,
        emitted ++ ((rejoiningNode cfg).run next others).2) := by
  rw [Machine.run_cons, step]

omit [LawfulRedisStore σ] in
theorem Promotes.cons {earlier : List (TaskInput σ)} {round : Round σ} {seed : PromoteSeed}
    {taken : σ} (step : (rejoiningNode cfg).step before input = (next, emitted))
    (refused : ∀ others, refusals (input :: others) = emitted ++ refusals others)
    (promotes : Promotes start history cfg next earlier round seed taken) :
    Promotes start history cfg before (input :: earlier) round seed taken := by
  obtain ⟨st, reached, seeded, base⟩ := promotes.stoodBy
  refine ⟨⟨st, ?_, seeded, base⟩, promotes.caughtUp⟩
  rw [run_cons_standby step, reached, refused]

omit [LawfulRedisStore σ] in
theorem Held.cons {now : Bool} {parts : Parts σ}
    (step : (rejoiningNode cfg).step before input = (next, emitted))
    (refused : ∀ others, refusals (input :: others) = emitted ++ refusals others)
    (origin : Held start history cfg promote store before (input :: rest) nextPromote
      (Parts.fresh nextStore))
    (held : Held start history cfg nextPromote nextStore next rest now parts) :
    Held start history cfg promote store before (input :: rest) now parts := by
  cases held with
  | following caughtUp => exact Held.following caughtUp
  | untouched => exact origin
  | @left earlier later round seed taken split promotes =>
      have whole : input :: rest = (input :: earlier) ++ .poll round false :: later := by
        rw [split, List.cons_append]
      exact Held.left whole (promotes.cons step refused)

omit [LawfulRedisStore σ] in
theorem Life.cons (step : (rejoiningNode cfg).step before input = (next, emitted))
    (refused : ∀ others, refusals (input :: others) = emitted ++ refusals others)
    (origin : Held start history cfg promote store before (input :: rest) nextPromote
      (Parts.fresh nextStore))
    (life : Life start history cfg nextPromote nextStore next rest
      ((rejoiningNode cfg).run next rest)) :
    Life start history cfg promote store before (input :: rest)
      ((rejoiningNode cfg).run before (input :: rest)) := by
  rw [run_cons_standby step rest]
  rcases life with stoodBy | ⟨earlier, round, later, seed, taken, joined⟩
  · left
    refine ⟨?_, ?_, ?_, stoodBy.idle⟩
    · rw [refused, ← stoodBy.refused]
    · intro now st same
      exact Held.cons step refused origin (stoodBy.standing now st same)
    · intro last same
      obtain ⟨now, parts, kept, held⟩ := stoodBy.exited last same
      exact ⟨now, parts, kept, Held.cons step refused origin held⟩
  · right
    refine ⟨input :: earlier, round, later, seed, taken, ?_, joined.promotes.cons step refused,
      ?_, joined.store_eq⟩
    · rw [joined.split, List.cons_append]
    · change emitted ++ _ = _
      rw [joined.events, refused, List.append_assoc]

end Cons

/-! ### The whole life -/

omit [LawfulRedisStore σ] in
theorem Held.of_follows {cfg : DriverCfg} {promote : Bool} {store : σ} {before : NodeTask σ}
    {inputs : List (TaskInput σ)} {parts : Parts σ}
    (follows : Follows start history store parts) :
    Held start history cfg promote store before inputs promote parts := by
  rcases follows with rfl | caughtUp
  · exact Held.untouched
  · exact Held.following caughtUp

theorem rejoiningNode_run (cfg : DriverCfg) (distinct : (history.map WriteOp.ident).Nodup)
    (inputs : List (TaskInput σ)) (honest : Honest start history inputs) (promote : Bool)
    (st : Passive σ) {store : σ} (follows : Follows start history store st.toParts) :
    Life start history cfg promote store (.passive promote st) inputs
      ((rejoiningNode cfg).run (.passive promote st) inputs) := by
  induction inputs generalizing promote st store with
  | nil =>
      left
      refine ⟨rfl, ?_, ?_, ?_⟩
      · intro now reached same
        cases same
        exact Held.of_follows follows
      · intro last same
        cases same
      · intro reached same
        cases same
  | cons input rest ih =>
      have later := ih (fun round transport member =>
        honest round transport (List.mem_cons_of_mem _ member))
      cases input with
      | turn input =>
          exact Life.cons rfl (fun _ => rfl) Held.untouched (later promote st follows)
      | closed =>
          left
          have gone : (rejoiningNode cfg).run (.passive promote st) (.closed :: rest) =
              (.exited st.store, []) := by
            rw [Machine.run_cons]
            change (((rejoiningNode cfg).run (.exited st.store) rest).1,
              [] ++ ((rejoiningNode cfg).run (.exited st.store) rest).2) = _
            rw [run_exited]
            rfl
          rw [gone]
          refine ⟨rfl, ?_, ?_, ?_⟩
          · intro now reached same
            cases same
          · intro last same
            cases same
            exact ⟨promote, st.toParts, rfl, Held.of_follows follows⟩
          · intro reached same
            cases same
      | poll round transport =>
          have answering := honest round transport List.mem_cons_self
          cases seeded : (st.round promote round).1 with
          | none =>
              have step : (rejoiningNode cfg).step (.passive promote st) (.poll round transport) =
                  (.passive promote (st.round promote round).2, []) := by
                change NodeTask.poll cfg promote st round transport = _
                unfold NodeTask.poll
                rw [← Prod.eta (st.round promote round), seeded]
              exact Life.cons step (fun _ => rfl) Held.untouched
                (later promote _ (round_follows promote distinct follows answering))
          | some seed =>
              obtain ⟨promoted, pieces, survivor, answers, taken⟩ := round_seed seeded
              subst promoted
              have promotes : Promotes start history cfg (.passive true st) [] round seed
                  (st.round true round).2.store := by
                refine ⟨⟨st, rfl, seeded, rfl⟩, ?_⟩
                rw [← pieces, taken]
                exact resetTo_caughtUp (answering survivor (Or.inr answers))
              cases transport with
              | false =>
                  have step : (rejoiningNode cfg).step (.passive true st) (.poll round false) =
                      (.passive false (Passive.new (st.round true round).2.store), []) := by
                    change NodeTask.poll cfg true st round false = _
                    unfold NodeTask.poll
                    rw [← Prod.eta (st.round true round), seeded]
                    rfl
                  exact Life.cons step (fun _ => rfl) (Held.left rfl promotes)
                    (later false _ (Or.inl rfl))
              | true =>
                  right
                  have step : (rejoiningNode cfg).step (.passive true st) (.poll round true) =
                      (.driving (driverInit cfg (st.round true round).2.store (some seed)).1,
                        (driverInit cfg (st.round true round).2.store (some seed)).2) := by
                    change NodeTask.poll cfg true st round true = _
                    unfold NodeTask.poll
                    rw [← Prod.eta (st.round true round), seeded]
                    rfl
                  obtain ⟨stores, events⟩ := run_driving cfg
                    (driverInit cfg (st.round true round).2.store (some seed)).1 rest
                  refine ⟨[], round, rest, seed, _, rfl, promotes, ?_, ?_⟩
                  · rw [Machine.run_cons, step]
                    exact congrArg ((driverInit cfg _ (some seed)).2 ++ ·) events
                  · rw [Machine.run_cons, step]
                    exact stores

/-- A rejoining node refuses every write until it has joined, and keeps the
store it began with until a transfer brings it to the order, and the one it was
promoted with if the transport does not come up; it joins only by a promotion,
of which none before has failed, from pieces that stand on the order; and from
then on it does what a promoted driver does. -/
theorem rejoiningNode_life (cfg : DriverCfg) (promote : Bool) (store start : σ)
    (history : List WriteOp) (distinct : (history.map WriteOp.ident).Nodup)
    (inputs : List (TaskInput σ)) (honest : Honest start history inputs) :
    Life start history cfg promote store (.passive promote (Passive.new store)) inputs
      ((rejoiningNode cfg).run (.passive promote (Passive.new store)) inputs) :=
  rejoiningNode_run cfg distinct inputs honest promote (Passive.new store) (Or.inl rfl)

end Task

end Rejoining

/-! ### A node that joins at its second idle poll -/

section Sample

open scoped LoopbackRing

def joiningInputs : List (TaskInput MemStore) :=
  let asks (reply : Sender) : TaskInput MemStore :=
    .turn (.request { now := ⟨0, 0⟩, argv := LoopbackRing.set "k" "v", reply })
  [asks 7] ++ forwardRounds.map (TaskInput.poll · true) ++ [asks 8]

def joiningNode : NodeTask MemStore := .passive true (Passive.new MemStore.new)

theorem rejoiningNode_life_joining :
    Life MemStore.new twoWrites LoopbackRing.ringThird true MemStore.new joiningNode joiningInputs
      ((rejoiningNode LoopbackRing.ringThird).run joiningNode joiningInputs) := by
  have honest : Honest MemStore.new twoWrites joiningInputs := by
    intro round transport member survivor answering
    obtain ⟨polled, _⟩ : round ∈ forwardRounds ∧ transport = true := by
      simpa [joiningInputs] using member
    have known : survivor = behind ∨ survivor = inFront := by
      simp only [forwardRounds, List.mem_cons, List.not_mem_nil, or_false] at polled
      rcases polled with rfl | rfl | rfl | rfl
      · simpa using answering
      · exact Or.inr (by simpa using answering)
      · exact Or.inr (by simpa using answering)
      · exact Or.inr (by simpa using answering)
    rcases known with rfl | rfl
    · exact behind_caughtUp
    · exact inFront_caughtUp
  exact rejoiningNode_life LoopbackRing.ringThird true MemStore.new MemStore.new twoWrites
    (by decide) joiningInputs honest

end Sample

end TrainsValkey
