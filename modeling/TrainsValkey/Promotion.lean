import Mathlib.Logic.Relation
import TrainsValkey.DriverTrace
import TrainsValkey.Library.Handover
import TrainsValkey.PassiveCatchUp

/-
The promotion of a passive replica to a member of the ring.

The survivors deliver one total order and keep delivering while the rejoiner
takes its final snapshot, spawns its transport, starts its driver and asks to
be re-admitted.  Each gathered survivor stops at its cut when it freezes for
the re-admission; the recovery plan is computed from the cuts, and the ring
delivers to the new member from the end of the plan on.
-/

set_option autoImplicit false

namespace TrainsValkey

open Trains
open Library (Action AtPrefix Plan Stream)
open Library.Action (Keeps)

section Promotion

variable [Trains] {σ : Type} [RedisStore σ]

/-! ### What a driver's pieces are made of -/

def deliveredIn (trace : List Event) : List WriteOp :=
  trace.filterMap (fun event =>
    match event with
    | .delivered op => some op
    | _ => none)

theorem deliveredIn_append (first second : List Event) :
    deliveredIn (first ++ second) = deliveredIn first ++ deliveredIn second :=
  List.filterMap_append

def Delivering (start : Parts σ) (st : DriverState σ) (trace : List Event) : Prop :=
  st.toParts = start.deliverAll (deliveredIn trace)

theorem deliveringProperty (id : ProcId) (start : Parts σ) :
    ClientProperty id (Delivering start) where
  deliver op := by
    intro st trace delivering
    have moved : (deliverOp id op st).1.toParts = st.toParts.deliver op ∧
        deliveredIn (deliverOp id op st).2 = [op] := by
      cases dup : st.dedup.isDup op.origin op.requestId with
      | true =>
          rw [deliverOp_dup dup, Parts.deliver_dup dup]
          exact ⟨rfl, rfl⟩
      | false =>
          rw [deliverOp_fresh dup]
          cases st.waitingClient id op with
          | none => exact ⟨rfl, rfl⟩
          | some client => exact ⟨rfl, rfl⟩
    unfold Delivering Parts.deliverAll at delivering ⊢
    rw [deliveredIn_append, moved.1, moved.2, List.foldl_append, ← delivering]
    rfl
  silent delivering same := same.parts.trans delivering
  quietEvent event delivering isQuiet := by
    unfold Delivering at delivering ⊢
    rw [delivering, deliveredIn_append]
    cases event <;> first | exact congrArg _ (List.append_nil _).symm | cases isQuiet

theorem update_caughtUp {ι : Type} [DecidableEq ι] {start : σ} {history : List WriteOp}
    {survivors : ι → DriverState σ} {i : ι} {st : DriverState σ}
    (each : ∀ i, CaughtUp start history (survivors i).toParts)
    (here : CaughtUp start history st.toParts) :
    ∀ k, CaughtUp start history (Function.update survivors i st k).toParts := by
  intro k
  by_cases same : k = i
  · subst same
    rw [Function.update_self]
    exact here
  · rw [Function.update_of_ne same]
    exact each k

variable [Bincode WriteOp] [FloatArith]

theorem handleWriteRequest_delivering (start : Parts σ) (id : ProcId) (req : WriteRequest) :
    Keeps (Delivering start) (handleWriteRequest id req) := by
  apply (deliveringProperty id start).writeRequest
  · intro st trace reply delivering
    unfold Delivering at delivering ⊢
    rw [delivering, deliveredIn_append]
    exact congrArg _ (List.append_nil _).symm
  · intro st trace argv clientReply delivering
    unfold Delivering at delivering ⊢
    rw [deliveredIn_append]
    exact delivering.trans (congrArg _ (List.append_nil _).symm)

variable [AlwaysSerializable DeliveredEntry] [AlwaysSerializable ReplicaSnapshot]

theorem driverStep_parts (cfg : DriverCfg) (input : DriverInput) (st : DriverState σ) :
    (driverStep cfg input st).1.toParts =
      st.toParts.deliverAll (deliveredIn (driverStep cfg input st).2) :=
  (deliveringProperty cfg.id st.toParts).driverStep
    (handleWriteRequest_delivering st.toParts cfg.id) input st [] rfl

theorem driverInit_parts (cfg : DriverCfg) (store : σ) (seed : PromoteSeed) :
    (driverInit cfg store (some seed)).1.toParts =
      Parts.deliverAll ⟨store, seed.dedup, seed.deliveredLog⟩
        (deliveredIn (driverInit cfg store (some seed)).2) := by
  have started := (deliveringProperty cfg.id ⟨store, seed.dedup, seed.deliveredLog⟩).driverLoop
    (handleWriteRequest_delivering _ cfg.id) store (some seed) rfl []
  simp only [driverLoop, Library.Machine.run_nil, List.append_nil] at started
  exact started

/-! ### The hand-off -/

/-- The rejoiner on its way: polling; with its final snapshot, taken at `base`,
before its driver runs; waiting to be re-admitted; and a member that was taken
up to `upTo` and was handed the live deliveries before `live`. -/
inductive Rejoiner (σ : Type) [Trains]
  | passive (parts : Parts σ)
  | fetched (base : Nat) (seed : PromoteSeed) (store : σ)
  | waiting (base : Nat) (st : DriverState σ)
  | member (base upTo live : Nat) (st : DriverState σ)

structure Handoff (σ ι : Type) [Trains] where
  survivors : ι → DriverState σ
  /-- How much a survivor had delivered when it froze for the re-admission. -/
  cut : ι → Option Nat
  node : Rejoiner σ

variable {ι : Type}

def Handoff.cuts (h : Handoff σ ι) (gathered : Set ι) : Set Nat :=
  {position | ∃ i ∈ gathered, h.cut i = some position}

variable [DecidableEq ι]

def Handoff.turn (cfgs : ι → DriverCfg) (i : ι) (input : DriverInput) (h : Handoff σ ι) :
    Handoff σ ι :=
  { h with
    survivors := Function.update h.survivors i (driverStep (cfgs i) input (h.survivors i)).1 }

/-- One step of the hand-off.  Survivors take turns at any time, and what they
deliver continues the order.  The rejoiner's driver delivers nothing before the
install token, then the plan, then the order from the end of the plan on. -/
inductive HandoffStep (cfgs : ι → DriverCfg) (own : DriverCfg) (gathered : Set ι)
    (history : List WriteOp) : Handoff σ ι → Handoff σ ι → Prop
  | survivor (h : Handoff σ ι) (i : ι) (input : DriverInput) (final : Nat)
      (handed : Stream history (h.survivors i).deliveredLog.headIndex
        (deliveredIn (driverStep (cfgs i) input (h.survivors i)).2) final) :
      HandoffStep cfgs own gathered history h (h.turn cfgs i input)
  | fetch (h : Handoff σ ι) (parts fetched : Parts σ) (reached : List (Option ι))
      (seed : PromoteSeed) (phase : h.node = .passive parts)
      (found : finalSnapshotForPromotion
        (answers (reached.map (Option.map h.survivors)) 0) parts = (some seed, fetched)) :
      HandoffStep cfgs own gathered history h
        { h with node := .fetched fetched.deliveredLog.headIndex seed fetched.store }
  | start (h : Handoff σ ι) (base : Nat) (seed : PromoteSeed) (store : σ)
      (phase : h.node = .fetched base seed store)
      (silent : deliveredIn (driverInit own store (some seed)).2 = []) :
      HandoffStep cfgs own gathered history h
        { h with node := .waiting base (driverInit own store (some seed)).1 }
  | wait (h : Handoff σ ι) (base : Nat) (st : DriverState σ) (input : DriverInput)
      (phase : h.node = .waiting base st)
      (silent : deliveredIn (driverStep own input st).2 = []) :
      HandoffStep cfgs own gathered history h
        { h with node := .waiting base (driverStep own input st).1 }
  | freeze (h : Handoff σ ι) (base : Nat) (st : DriverState σ) (i : ι) (body : TokenBody)
      (phase : h.node = .waiting base st) (open_ : h.cut i = none)
      (silent : deliveredIn
        (driverStep (cfgs i) (.token (.reAdmitGather own.id body)) (h.survivors i)).2 = []) :
      HandoffStep cfgs own gathered history h
        { h.turn cfgs i (.token (.reAdmitGather own.id body)) with
          cut := Function.update h.cut i (some (h.survivors i).deliveredLog.headIndex) }
  | install (h : Handoff σ ι) (base upTo : Nat) (st : DriverState σ) (body : TokenBody)
      (phase : h.node = .waiting base st) (frozen : ∀ i ∈ gathered, h.cut i ≠ none)
      (recovered : Plan history (h.cuts gathered)
        (deliveredIn (driverStep own (.token (.reAdmitInstall own.id body)) st).2) upTo) :
      HandoffStep cfgs own gathered history h
        { h with
          node := .member base upTo upTo
            (driverStep own (.token (.reAdmitInstall own.id body)) st).1 }
  | live (h : Handoff σ ι) (base upTo live next : Nat) (st : DriverState σ)
      (input : DriverInput) (phase : h.node = .member base upTo live st)
      (forward : live ≤ next) (within : next ≤ history.length)
      (handed : deliveredIn (driverStep own input st).2 = (history.take next).drop live) :
      HandoffStep cfgs own gathered history h
        { h with node := .member base upTo next (driverStep own input st).1 }

/-! ### What every hand-off keeps -/

variable {start : σ} {history : List WriteOp}

/-- Where the rejoiner stands; once it is a member, what it was handed since
its snapshot. -/
def Rejoiner.Tracks (start : σ) (history : List WriteOp) (cuts : Set Nat) : Rejoiner σ → Prop
  | .passive _ => True
  | .fetched base seed store =>
      CaughtUp start history ⟨store, seed.dedup, seed.deliveredLog⟩ ∧
        seed.deliveredLog.headIndex = base
  | .waiting base st =>
      CaughtUp start history st.toParts ∧ st.deliveredLog.headIndex = base
  | .member base upTo live st =>
      ∃ joined plan, CaughtUp start history joined ∧ joined.deliveredLog.headIndex = base ∧
        Plan history cuts plan upTo ∧ upTo ≤ live ∧ (live = upTo ∨ live ≤ history.length) ∧
          st.toParts = joined.deliverAll (plan ++ (history.take live).drop upTo)

structure Handoff.Kept (start : σ) (history : List WriteOp) (gathered : Set ι)
    (h : Handoff σ ι) : Prop where
  survivors : ∀ i, CaughtUp start history (h.survivors i).toParts
  node : h.node.Tracks start history (h.cuts gathered)

theorem driverStep_caughtUp (distinct : (history.map WriteOp.ident).Nodup) (cfg : DriverCfg)
    (input : DriverInput) {st : DriverState σ} (caughtUp : CaughtUp start history st.toParts)
    {final : Nat} (handed : Stream history st.deliveredLog.headIndex
      (deliveredIn (driverStep cfg input st).2) final) :
    CaughtUp start history (driverStep cfg input st).1.toParts := by
  rw [driverStep_parts]
  exact (caughtUp.stream distinct handed).1

variable [LawfulRedisStore σ]

theorem HandoffStep.keeps (distinct : (history.map WriteOp.ident).Nodup)
    {cfgs : ι → DriverCfg} {own : DriverCfg} {gathered : Set ι} {before after : Handoff σ ι}
    (step : HandoffStep cfgs own gathered history before after)
    (kept : before.Kept start history gathered) : after.Kept start history gathered := by
  cases step with
  | survivor i input final handed =>
      refine ⟨?_, kept.node⟩
      exact update_caughtUp kept.survivors
        (driverStep_caughtUp distinct _ input (kept.survivors i) handed)
  | fetch parts fetched reached seed phase found =>
      refine ⟨kept.survivors, ?_⟩
      rw [finalSnapshot_answers] at found
      cases answered : responder (reached.map (Option.map before.survivors)) with
      | none =>
          rw [answered] at found
          cases found
      | some survivor =>
          rw [answered] at found
          cases found
          obtain ⟨answer, _, same⟩ := List.mem_map.mp (responder_mem answered)
          cases answer with
          | none => cases same
          | some i =>
              cases same
              exact ⟨resetTo_caughtUp (kept.survivors i), rfl⟩
  | start base seed store phase silent =>
      refine ⟨kept.survivors, ?_⟩
      have tracks := kept.node
      rw [phase] at tracks
      have same := driverInit_parts own store seed
      rw [silent] at same
      constructor
      · rw [same]
        exact tracks.1
      · exact (congrArg (fun parts => parts.deliveredLog.headIndex) same).trans tracks.2
  | wait base st input phase silent =>
      refine ⟨kept.survivors, ?_⟩
      have tracks := kept.node
      rw [phase] at tracks
      have same := driverStep_parts own input st
      rw [silent] at same
      constructor
      · rw [same]
        exact tracks.1
      · exact (congrArg (fun parts => parts.deliveredLog.headIndex) same).trans tracks.2
  | freeze base st i body phase open_ silent =>
      have tracks := kept.node
      rw [phase] at tracks
      refine ⟨update_caughtUp kept.survivors ?_, ?_⟩
      · rw [driverStep_parts, silent]
        exact kept.survivors i
      · simp only [Handoff.turn, phase]
        exact tracks
  | install base upTo st body phase frozen recovered =>
      refine ⟨kept.survivors, ?_⟩
      have tracks := kept.node
      rw [phase] at tracks
      refine ⟨st.toParts, _, tracks.1, tracks.2, recovered, Nat.le_refl _, Or.inl rfl, ?_⟩
      rw [driverStep_parts]
      have nothing : (history.take upTo).drop upTo = [] :=
        List.drop_eq_nil_of_le (List.length_take_le upTo history)
      rw [nothing, List.append_nil]
  | live base upTo live next st input phase forward within handed =>
      refine ⟨kept.survivors, ?_⟩
      have tracks := kept.node
      rw [phase] at tracks
      obtain ⟨joined, plan, caughtUp, atBase, recovered, past, _, sameParts⟩ := tracks
      refine ⟨joined, plan, caughtUp, atBase, recovered, Nat.le_trans past forward,
        Or.inr within, ?_⟩
      rw [driverStep_parts, sameParts, handed, ← Parts.deliverAll_append, List.append_assoc,
        Library.drop_take_append history past forward]

/-! ### The promoted member -/

omit [Trains] [Bincode WriteOp] [FloatArith] [AlwaysSerializable DeliveredEntry]
  [AlwaysSerializable ReplicaSnapshot] [LawfulRedisStore σ] in
/-- Pieces that were handed a plan and live deliveries after it stand on the
order exactly when they were as far as one of the cuts. -/
theorem joined_caughtUp_iff (distinct : (history.map WriteOp.ident).Nodup) {joined : Parts σ}
    (caughtUp : CaughtUp start history joined) {cuts : Set Nat} {plan : List WriteOp}
    {upTo live : Nat} (recovered : Plan history cuts plan upTo) (first : upTo < live)
    (within : live ≤ history.length) :
    CaughtUp start history (joined.deliverAll (plan ++ (history.take live).drop upTo)) ↔
      ∃ cut ∈ cuts, cut ≤ joined.deliveredLog.headIndex := by
  constructor
  · intro stands
    by_contra uncovered
    have behind : ∀ cut ∈ cuts, joined.consumer.count < cut := by
      intro cut member
      apply Nat.lt_of_not_le
      intro covered
      exact uncovered ⟨cut, member, covered⟩
    apply recovered.leaves_gap distinct caughtUp.standing behind first within
    rw [← Parts.deliverAll_consumer]
    exact stands.standing
  · rintro ⟨cut, member, covered⟩
    have handed := recovered.joins member covered (Nat.le_of_lt first) within
    exact (caughtUp.stream distinct handed).1

theorem handoff_kept {cfgs : ι → DriverCfg} {own : DriverCfg} {gathered : Set ι}
    (distinct : (history.map WriteOp.ident).Nodup) {before after : Handoff σ ι}
    (reached : Relation.ReflTransGen (HandoffStep cfgs own gathered history) before after)
    (kept : before.Kept start history gathered) : after.Kept start history gathered := by
  induction reached with
  | refl => exact kept
  | tail earlier step ih => exact step.keeps distinct ih

/-- Once a promoted member was handed its first live delivery, it holds a
gap-free prefix of the order, numbered as the survivors number it, exactly when
some gathered survivor had delivered no more at its freeze than the member's
snapshot covers. -/
theorem promotion_gap_free_iff (cfgs : ι → DriverCfg) (own : DriverCfg) (gathered : Set ι)
    (start : σ) (history : List WriteOp) (distinct : (history.map WriteOp.ident).Nodup)
    (survivors : ι → DriverState σ) (each : ∀ i, CaughtUp start history (survivors i).toParts)
    (parts : Parts σ) (h : Handoff σ ι)
    (reached : Relation.ReflTransGen (HandoffStep cfgs own gathered history)
      ⟨survivors, fun _ => none, .passive parts⟩ h)
    (base upTo live : Nat) (st : DriverState σ) (member : h.node = .member base upTo live st)
    (first : upTo < live) :
    CaughtUp start history st.toParts ↔
      ∃ i ∈ gathered, ∃ position ≤ base, h.cut i = some position := by
  have kept : h.Kept start history gathered := handoff_kept distinct reached ⟨each, True.intro⟩
  have tracks := kept.node
  rw [member] at tracks
  obtain ⟨joined, plan, caughtUp, rfl, recovered, _, bounded, sameParts⟩ := tracks
  have within : live ≤ history.length := by omega
  rw [sameParts, joined_caughtUp_iff distinct caughtUp recovered first within]
  constructor
  · rintro ⟨cut, ⟨i, inGathered, cutHere⟩, covered⟩
    exact ⟨i, inGathered, cut, covered, cutHere⟩
  · rintro ⟨i, inGathered, position, covered, cutHere⟩
    exact ⟨position, ⟨i, inGathered, cutHere⟩, covered⟩

end Promotion

/-! ### Two survivors and a rejoiner -/

section Sample

open scoped LoopbackRing

def write (requestId : Nat) (key : String) : WriteOp :=
  WriteOp.new 1 requestId (LoopbackRing.set key "v")

def threeOps : List WriteOp := [write 0 "a", write 1 "b", write 2 "c"]

def carry (ops : List WriteOp) : DriverInput := .train ⟨1, LoopbackRing.payloads ops⟩

def survivorCfgs (i : Fin 2) : DriverCfg := LoopbackRing.ringCfg (i.val + 1) (by
  have bound := i.isLt
  change i.val + 1 < 3
  omega)

def rejoinerCfg : DriverCfg := LoopbackRing.ringFirst

def handoffStart : Handoff MemStore (Fin 2) :=
  { survivors := fun i => (driverLoop (survivorCfgs i) MemStore.new none
      [carry (threeOps.take 1), .confirmCrash 0]).1
    cut := fun _ => none
    node := .passive (Parts.fresh MemStore.new) }

theorem handoffStart_caughtUp :
    ∀ i, CaughtUp MemStore.new threeOps (handoffStart.survivors i).toParts := by
  have stands : CaughtUp MemStore.new threeOps
      (Parts.deliverAll ⟨MemStore.new, WriteDedup.new, DeliveredLog.new defaultCap⟩
        (threeOps.take 1)) :=
    ((CaughtUp.initial MemStore.new threeOps defaultCap).stream (by decide)
      (Stream.next rfl (Stream.done 1))).1
  exact Fin.forall_fin_two.mpr ⟨stands, stands⟩

def SampleReach : Handoff MemStore (Fin 2) → Handoff MemStore (Fin 2) → Prop :=
  Relation.ReflTransGen (HandoffStep survivorCfgs rejoinerCfg Set.univ threeOps)

def firstSeed : PromoteSeed :=
  { dedup := (handoffStart.survivors 0).dedup
    deliveredLog := ((Parts.fresh MemStore.new).resetTo (handoffStart.survivors 0)).deliveredLog
    protocol := exportState (handoffStart.survivors 0).core
    view :=
      { installedView := installedView (handoffStart.survivors 0).vc
        dead := (handoffStart.survivors 0).dead.toList } }

def asked : DriverState MemStore :=
  (driverInit rejoinerCfg (handoffStart.survivors 0).store (some firstSeed)).1

def asking : Handoff MemStore (Fin 2) := { handoffStart with node := .waiting 1 asked }

theorem reaches_asking : SampleReach handoffStart asking := by
  have fetched : HandoffStep survivorCfgs rejoinerCfg Set.univ threeOps handoffStart
      { handoffStart with node := .fetched 1 firstSeed (handoffStart.survivors 0).store } :=
    .fetch handoffStart (Parts.fresh MemStore.new) _ [some 0] firstSeed rfl
      (finalSnapshot_answers [some (handoffStart.survivors 0)] (Parts.fresh MemStore.new))
  exact (Relation.ReflTransGen.single fetched).tail (.start _ _ _ _ rfl (by decide))

def Handoff.freezes (i : Fin 2) (h : Handoff MemStore (Fin 2)) : Handoff MemStore (Fin 2) :=
  { h.turn survivorCfgs i (.token (.reAdmitGather 0 [])) with
    cut := Function.update h.cut i (some (h.survivors i).deliveredLog.headIndex) }

/-- The second survivor delivers the second write, then both freeze. -/
def covered : Handoff MemStore (Fin 2) :=
  ((asking.turn survivorCfgs 1 (carry [write 1 "b"])).freezes 0).freezes 1

/-- Both survivors deliver the second write, then both freeze. -/
def uncovered : Handoff MemStore (Fin 2) :=
  (((asking.turn survivorCfgs 0 (carry [write 1 "b"])).turn survivorCfgs 1
    (carry [write 1 "b"])).freezes 0).freezes 1

theorem reaches_covered : SampleReach handoffStart covered :=
  ((reaches_asking.tail
    (.survivor asking 1 (carry [write 1 "b"]) 2 (.next (by decide) (.done 2)))).tail
      (.freeze _ _ _ 0 [] rfl rfl (by decide))).tail (.freeze _ _ _ 1 [] rfl rfl (by decide))

theorem reaches_uncovered : SampleReach handoffStart uncovered :=
  (((reaches_asking.tail
    (.survivor asking 0 (carry [write 1 "b"]) 2 (.next (by decide) (.done 2)))).tail
      (.survivor _ 1 (carry [write 1 "b"]) 2 (.next (by decide) (.done 2)))).tail
        (.freeze _ _ _ 0 [] rfl rfl (by decide))).tail (.freeze _ _ _ 1 [] rfl rfl (by decide))

def installed (plan : List WriteOp) : DriverState MemStore :=
  (driverStep rejoinerCfg (.token (.reAdmitInstall 0 (LoopbackRing.payloads plan))) asked).1

def promoted (plan : List WriteOp) : DriverState MemStore :=
  (driverStep rejoinerCfg (carry [write 2 "c"]) (installed plan)).1

theorem covered_plan : Plan threeOps (covered.cuts Set.univ) [write 1 "b"] 2 := by
  have cuts : ∀ i, covered.cut i = some (i.val + 1) := by decide
  have known : ∀ cut ∈ covered.cuts Set.univ, cut = 1 ∨ cut = 2 := by
    intro cut member
    obtain ⟨i, _, here⟩ := member
    rw [cuts] at here
    cases here
    omega
  refine ⟨⟨1, 0, Set.mem_univ 0, cuts 0⟩, ?_, ?_⟩
  · intro cut member
    rcases known cut member with rfl | rfl
    · exact .next (by decide) (.done 2)
    · exact .again (by decide) (.done 2)
  · intro op member
    refine ⟨1, ⟨0, Set.mem_univ 0, cuts 0⟩, ?_⟩
    rw [List.mem_singleton.mp member]
    decide

theorem uncovered_plan : Plan threeOps (uncovered.cuts Set.univ) [] 2 := by
  have cuts : ∀ i, uncovered.cut i = some 2 := by decide
  refine ⟨⟨2, 0, Set.mem_univ 0, cuts 0⟩, ?_, ?_⟩
  · intro cut member
    obtain ⟨i, _, here⟩ := member
    rw [cuts] at here
    cases here
    exact .done 2
  · intro op member
    cases member

theorem reaches_promoted {frozen : Handoff MemStore (Fin 2)} {plan : List WriteOp}
    (reached : SampleReach handoffStart frozen) (phase : frozen.node = .waiting 1 asked)
    (cuts : ∀ i, frozen.cut i ≠ none) (recovered : Plan threeOps (frozen.cuts Set.univ) plan 2)
    (delivered : deliveredIn (driverStep rejoinerCfg
      (.token (.reAdmitInstall 0 (LoopbackRing.payloads plan))) asked).2 = plan)
    (handed : deliveredIn (driverStep rejoinerCfg (carry [write 2 "c"]) (installed plan)).2 =
      (threeOps.take 3).drop 2) :
    SampleReach handoffStart { frozen with node := .member 1 2 3 (promoted plan) } := by
  rw [← delivered] at recovered
  exact (reached.tail (.install frozen 1 2 asked (LoopbackRing.payloads plan) phase
    (fun i _ => cuts i) recovered)).tail
      (.live _ 1 2 2 3 (installed plan) (carry [write 2 "c"]) rfl (by decide) (by decide) handed)

theorem promotion_gap_free_iff_covered :
    CaughtUp MemStore.new threeOps (promoted [write 1 "b"]).toParts :=
  (promotion_gap_free_iff survivorCfgs rejoinerCfg Set.univ MemStore.new threeOps (by decide)
    handoffStart.survivors handoffStart_caughtUp (Parts.fresh MemStore.new) _
    (reaches_promoted reaches_covered rfl (by decide) covered_plan (by decide) (by decide))
    1 2 3 (promoted [write 1 "b"]) rfl (by decide)).mpr
      ⟨0, Set.mem_univ 0, 1, Nat.le_refl 1, by decide⟩

/-- The second write reached both survivors after the snapshot and before they
froze.  No plan repeats it, and the promoted member gives its number to the
third. -/
theorem promoted_member_misses_write :
    (∃ h, SampleReach handoffStart h ∧ h.node = .member 1 2 3 (promoted []) ∧
        ∀ i, h.cut i = some 2) ∧
      (promoted []).deliveredLog.entries.map DeliveredEntry.op = [write 2 "c"] ∧
      (promoted []).deliveredLog.entries.map DeliveredEntry.index = [1] ∧
      threeOps[1]? = some (write 1 "b") ∧
      ¬CaughtUp MemStore.new threeOps (promoted []).toParts := by
  refine ⟨⟨_, reaches_promoted reaches_uncovered rfl (by decide) uncovered_plan (by decide)
    (by decide), rfl, by decide⟩, by decide, by decide, by decide, ?_⟩
  intro caughtUp
  have logged := caughtUp.logged ⟨1, write 2 "c"⟩ (by decide)
  revert logged
  decide

end Sample

end TrainsValkey
