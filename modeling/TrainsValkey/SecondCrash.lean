import TrainsValkey.RingTarget

/-
Excluding a node that was excluded before.

The failure detector keeps a node confirmed until it hears from it, and only a
train the node issued counts as a life sign.  The driver removes a re-admitted
node from its dead set without a word to the detector, so the evidence against
a node that it confirmed itself and re-admitted since is ignored.
-/

set_option autoImplicit false

namespace TrainsValkey

open Std (ExtTreeMap ExtTreeSet)
open Trains
open Library (Action)
open Library.Action (Keeps Frames)

/-! ### What the driver relies on in the detector -/

section Laws

variable [Trains]

structure DetectorView where
  threshold : Detector → Nat
  weight : Detector → Nat
  strikes : Detector → ProcId → Nat

/-- How a detector takes a piece of evidence.  It confirms no node but the one
it answers, it answers a node as soon as the evidence against it reaches the
threshold, and until then it remembers the evidence. -/
structure TakesEvidence (view : DetectorView)
    (record : Detector → ProcId → Detector × Option ProcId) (amount : Detector → Nat) : Prop where
  threshold : ∀ detector victim, view.threshold (record detector victim).1 =
    view.threshold detector
  weight : ∀ detector victim, view.weight (record detector victim).1 = view.weight detector
  confirms : ∀ detector victim v, isConfirmed (record detector victim).1 v = true →
    isConfirmed detector v = true ∨ (record detector victim).2 = some v
  enough : ∀ detector victim, isConfirmed detector victim = false →
    view.threshold detector ≤ view.strikes detector victim + amount detector →
      (record detector victim).2 = some victim
  remembers : ∀ detector victim v, isConfirmed detector v = false →
    (record detector victim).2 ≠ some v →
      view.strikes detector v + (if victim = v then amount detector else 0) ≤
        view.strikes (record detector victim).1 v

structure DetectorLaws (view : DetectorView) : Prop where
  newThreshold : ∀ threshold weight, view.threshold (newDetector threshold weight) = threshold
  newWeight : ∀ threshold weight, view.weight (newDetector threshold weight) = weight
  newConfirmed : ∀ threshold weight v, isConfirmed (newDetector threshold weight) v = false
  aliveThreshold : ∀ detector alive, view.threshold (noteAlive detector alive) =
    view.threshold detector
  aliveWeight : ∀ detector alive, view.weight (noteAlive detector alive) = view.weight detector
  aliveConfirmed : ∀ detector alive v, isConfirmed (noteAlive detector alive) v = true →
    isConfirmed detector v = true
  gapHint : TakesEvidence view recordGapHint (fun _ => 1)
  disconnect : TakesEvidence view recordDisconnect view.weight

structure Tuned (view : DetectorView) (detector : Detector) : Prop where
  threshold : view.threshold detector = strikeThreshold
  weight : view.weight detector = disconnectWeight

variable {view : DetectorView}

theorem TakesEvidence.tuned {record : Detector → ProcId → Detector × Option ProcId}
    {amount : Detector → Nat} (takes : TakesEvidence view record amount) {detector : Detector}
    (tuned : Tuned view detector) (victim : ProcId) : Tuned view (record detector victim).1 := by
  constructor
  · rw [takes.threshold]
    exact tuned.threshold
  · rw [takes.weight]
    exact tuned.weight

theorem DetectorLaws.alive_tuned (laws : DetectorLaws view) {detector : Detector}
    (tuned : Tuned view detector) (alive : ProcId) : Tuned view (noteAlive detector alive) := by
  constructor
  · rw [laws.aliveThreshold]
    exact tuned.threshold
  · rw [laws.aliveWeight]
    exact tuned.weight

theorem DetectorLaws.new_tuned (laws : DetectorLaws view) :
    Tuned view (newDetector strikeThreshold disconnectWeight) :=
  ⟨laws.newThreshold _ _, laws.newWeight _ _⟩

end Laws

section SecondCrash

variable [Trains] {σ : Type} [RedisStore σ] [Bincode WriteOp]

/-! ### The dead set and the detector -/

section Standing

variable (cfg : DriverCfg)

omit [RedisStore σ] [Bincode WriteOp] in
theorem retargetSuccessor_dead (st : DriverState σ) :
    (retargetSuccessor cfg st).1.dead = st.dead ∧
      (retargetSuccessor cfg st).1.detector = st.detector := by
  unfold retargetSuccessor
  simp only
  split
  · exact ⟨rfl, rfl⟩
  · exact ⟨rfl, rfl⟩

omit [RedisStore σ] [Bincode WriteOp] in
theorem exclude_dead (victim : Nat) (st : DriverState σ) :
    (∀ v, v ∈ (exclude cfg victim st).1.dead ↔ v ∈ st.dead ∨ v = victim) ∧
      (exclude cfg victim st).1.detector = st.detector := by
  unfold exclude
  split
  · rename_i isDead
    refine ⟨fun v => ?_, rfl⟩
    constructor
    · exact Or.inl
    · rintro (member | rfl)
      · exact member
      · exact ExtTreeSet.contains_iff_mem.mp isDead
  · obtain ⟨dead, detector⟩ := retargetSuccessor_dead cfg
      { st with
        dead := st.dead.insert victim
        core := confirmCrash (setFrozen st.core true) victim }
    refine ⟨fun v => ?_, detector⟩
    rw [dead, ExtTreeSet.mem_insert, compare_eq_iff_eq, or_comm, eq_comm]

omit [RedisStore σ] [Bincode WriteOp] in
theorem readmission_dead (rejoiner : Nat) (st : DriverState σ) :
    (∀ v, v ∈ ( readmit cfg rejoiner st).1.dead ↔ v ∈ st.dead ∧ v ≠ rejoiner) ∧
      ( readmit cfg rejoiner st).1.detector = st.detector := by
  unfold readmit
  split
  · rename_i absent
    refine ⟨fun v => ?_, rfl⟩
    constructor
    · intro member
      refine ⟨member, ?_⟩
      rintro rfl
      rw [ExtTreeSet.contains_iff_mem.mpr member] at absent
      cases absent
    · exact And.left
  · obtain ⟨dead, detector⟩ := retargetSuccessor_dead cfg
      { st with
        dead := st.dead.erase rejoiner
        core := readmitNode (setFrozen st.core true) rejoiner }
    refine ⟨fun v => ?_, detector⟩
    rw [dead, ExtTreeSet.mem_erase, ne_eq, compare_eq_iff_eq, and_comm, ne_comm]

omit [RedisStore σ] [Bincode WriteOp] in
theorem DriverState.standing_parts {before after : DriverState σ}
    (same : after.standing = before.standing) :
    after.dead = before.dead ∧ after.detector = before.detector := by
  obtain ⟨detector, membership⟩ := Prod.mk.inj same
  exact ⟨(Prod.mk.inj membership).1, detector⟩

theorem runViewChange_dead (machine : DriverState σ → ViewChange × List TokenAction)
    (st : DriverState σ) :
    (runViewChange cfg machine st).1.dead = st.dead ∧
      (runViewChange cfg machine st).1.detector = st.detector :=
  DriverState.standing_parts (runViewChange_frames cfg machine st).1

theorem handleCrashConfirmed_dead (confirmed : ProcId) (st : DriverState σ) :
    (∀ v, v ∈ (handleCrashConfirmed cfg confirmed st).1.dead ↔ v ∈ st.dead ∨ v = confirmed) ∧
      (handleCrashConfirmed cfg confirmed st).1.detector = st.detector := by
  obtain ⟨dead, detector⟩ := exclude_dead cfg confirmed st
  obtain ⟨sameDead, sameDetector⟩ := runViewChange_dead cfg
    (fun st => onConfirm st.vc confirmed (recoveryReport st.core)) (exclude cfg confirmed st).1
  constructor
  · intro v
    unfold handleCrashConfirmed Action.andThen
    simp only
    rw [sameDead]
    exact dead v
  · exact sameDetector.trans detector

theorem processHints_dead (hints : List ProcId) (st : DriverState σ) {v : ProcId}
    (dead : v ∈ st.dead) : v ∈ (processHints cfg hints st).1.dead := by
  induction hints generalizing st with
  | nil => exact dead
  | cons victim rest ih =>
      unfold processHints
      split
      · exact ih st dead
      · split
        · exact ih _ dead
        · rename_i detector confirmed hinted
          split
          · exact ih _ (((handleCrashConfirmed_dead cfg confirmed _).1 v).mpr (Or.inl dead))
          · exact ih _ dead

end Standing

/-! ### Excluding a node on evidence -/

/-- Enough evidence against the node, gathered by gap hints or by one signal
that the successor is unreachable, puts it into the dead set. -/
structure Excludable [FloatArith] [AlwaysSerializable DeliveredEntry]
    [AlwaysSerializable ReplicaSnapshot] (cfg : DriverCfg) (st : DriverState σ)
    (v : ProcId) : Prop where
  hinted : ∀ hints, strikeThreshold ≤ hints.count v → v ∈ (processHints cfg hints st).1.dead
  unreachable : ∀ addr, cfg.ringAddrs.findIdx? (fun a => a = addr) = some v →
    v ∈ (driverStep cfg (.unreachable addr) st).1.dead

/-- Whom the detector holds confirmed is excluded. -/
structure Covered (view : DetectorView) (v : ProcId) (st : DriverState σ) : Prop where
  tuned : Tuned view st.detector
  excluded : isConfirmed st.detector v = true → v ∈ st.dead

variable {cfg : DriverCfg} {view : DetectorView} {v : ProcId}

/-- A confirmation that has not been acted on yet. -/
structure Answered (view : DetectorView) (v : ProcId) (answer : Option ProcId)
    (st : DriverState σ) : Prop where
  tuned : Tuned view st.detector
  excluded : isConfirmed st.detector v = true → v ∈ st.dead ∨ answer = some v

omit [RedisStore σ] [Bincode WriteOp] in
theorem Covered.answered {st : DriverState σ} (covered : Covered view v st)
    {record : Detector → ProcId → Detector × Option ProcId} {amount : Detector → Nat}
    (takes : TakesEvidence view record amount) (victim : ProcId) :
    Answered view v (record st.detector victim).2
      { st with detector := (record st.detector victim).1 } := by
  constructor
  · exact takes.tuned covered.tuned victim
  · intro confirmed
    rcases takes.confirms st.detector victim v confirmed with before | answered
    · exact Or.inl (covered.excluded before)
    · exact Or.inr answered

omit [RedisStore σ] [Bincode WriteOp] in
theorem Answered.unanswered {st : DriverState σ} (answered : Answered view v none st) :
    Covered view v st := by
  refine ⟨answered.tuned, fun confirmed => ?_⟩
  rcases answered.excluded confirmed with dead | impossible
  · exact dead
  · cases impossible

theorem Answered.acted {st : DriverState σ} {victim : ProcId}
    (answered : Answered view v (some victim) st) :
    Covered view v (handleCrashConfirmed cfg victim st).1 := by
  obtain ⟨dead, detector⟩ := handleCrashConfirmed_dead cfg victim st
  constructor
  · rw [detector]
    exact answered.tuned
  · intro confirmed
    rw [detector] at confirmed
    refine (dead v).mpr ?_
    rcases answered.excluded confirmed with before | named
    · exact Or.inl before
    · exact Or.inr (Option.some.inj named).symm

omit [RedisStore σ] [Bincode WriteOp] in
theorem Covered.same {before after : DriverState σ} (covered : Covered view v before)
    (same : after.standing = before.standing) : Covered view v after := by
  obtain ⟨dead, detector⟩ := DriverState.standing_parts same
  constructor
  · rw [detector]
    exact covered.tuned
  · rw [detector, dead]
    exact covered.excluded

omit [RedisStore σ] [Bincode WriteOp] in
theorem Covered.framed {action : Action (DriverState σ) Event}
    (frames : Frames DriverState.standing Event.isRetarget action) {st : DriverState σ}
    (covered : Covered view v st) : Covered view v (action st).1 :=
  covered.same (frames st).1

section Hints

variable (laws : DetectorLaws view) (reconfig : cfg.reconfig = true)

include laws reconfig

theorem processHints_covered (hints : List ProcId) {st : DriverState σ}
    (covered : Covered view v st) : Covered view v (processHints cfg hints st).1 := by
  induction hints generalizing st with
  | nil => exact covered
  | cons victim rest ih =>
      have taken := covered.answered laws.gapHint victim
      unfold processHints
      split
      · exact ih covered
      · split
        · rename_i detector hinted
          rw [hinted] at taken
          exact ih taken.unanswered
        · rename_i detector confirmed hinted
          rw [hinted] at taken
          exact ih taken.acted

omit [RedisStore σ] [Bincode WriteOp] reconfig in
theorem unanswered_hint {detector : Detector} (tuned : Tuned view detector)
    (unconfirmed : isConfirmed detector v = false) {victim : ProcId} {rest : List ProcId}
    (enough : strikeThreshold ≤ view.strikes detector v + (victim :: rest).count v)
    (hinted : 0 < (victim :: rest).count v)
    (unanswered : (recordGapHint detector victim).2 ≠ some v) :
    isConfirmed (recordGapHint detector victim).1 v = false ∧
      strikeThreshold ≤ view.strikes (recordGapHint detector victim).1 v + rest.count v ∧
        0 < rest.count v := by
  have remembered := laws.gapHint.remembers detector victim v unconfirmed unanswered
  refine ⟨?_, ?_⟩
  · by_contra confirmed
    rw [Bool.not_eq_false] at confirmed
    rcases laws.gapHint.confirms detector victim v confirmed with before | answered
    · rw [unconfirmed] at before
      cases before
    · exact unanswered answered
  · by_cases same : victim = v
    · subst same
      have short : view.strikes detector victim + 1 < strikeThreshold := by
        by_contra reaches
        rw [← tuned.threshold, Nat.not_lt] at reaches
        exact unanswered (laws.gapHint.enough detector victim unconfirmed reaches)
      rw [List.count_cons_self] at enough
      rw [if_pos rfl] at remembered
      omega
    · rw [List.count_cons_of_ne same] at enough hinted
      rw [if_neg same] at remembered
      omega

theorem processHints_excludes (hints : List ProcId) {st : DriverState σ}
    (tuned : Tuned view st.detector) (unconfirmed : isConfirmed st.detector v = false)
    (enough : strikeThreshold ≤ view.strikes st.detector v + hints.count v)
    (hinted : 0 < hints.count v) : v ∈ (processHints cfg hints st).1.dead := by
  induction hints generalizing st with
  | nil => cases hinted
  | cons victim rest ih =>
      have later := unanswered_hint laws tuned unconfirmed enough hinted
      have tunedLater := laws.gapHint.tuned tuned victim
      unfold processHints
      split
      · rename_i known
        have other : victim ≠ v := by
          rintro rfl
          rw [unconfirmed] at known
          cases known
        rw [List.count_cons_of_ne other] at enough hinted
        exact ih tuned unconfirmed enough hinted
      · split
        · rename_i detector answered
          rw [answered] at later tunedLater
          obtain ⟨stillNot, enoughLeft, hintLeft⟩ := later (by simp)
          exact ih tunedLater stillNot enoughLeft hintLeft
        · rename_i detector confirmed answered
          rw [answered] at later tunedLater
          obtain ⟨dead, sameDetector⟩ := handleCrashConfirmed_dead cfg confirmed
            { st with detector }
          by_cases named : confirmed = v
          · exact processHints_dead cfg rest _ ((dead v).mpr (Or.inr named.symm))
          · obtain ⟨stillNot, enoughLeft, hintLeft⟩ := later (by simpa using named)
            refine ih ?_ ?_ ?_ hintLeft
            · rw [sameDetector]
              exact tunedLater
            · rw [sameDetector]
              exact stillNot
            · rw [sameDetector]
              exact enoughLeft

end Hints

theorem processHints_ignores {st : DriverState σ} (confirmed : isConfirmed st.detector v = true)
    (count : Nat) : (processHints cfg (List.replicate count v) st).1 = st := by
  induction count with
  | zero => rfl
  | succ count ih =>
      rw [List.replicate_succ]
      unfold processHints
      rw [if_pos confirmed]
      exact ih

/-! ### One turn of the driver -/

/-- When the turn re-admits the node, the detector does not hold it
confirmed. -/
def ReadmitsCleared (v : ProcId) (st : DriverState σ) : DriverInput → Prop
  | .token msg => msg.rejoiner = some v → v ∈ st.dead → isConfirmed st.detector v = false
  | _ => True

theorem Covered.viewChange {st : DriverState σ} (covered : Covered view v st)
    (machine : DriverState σ → ViewChange × List TokenAction) :
    Covered view v (runViewChange cfg machine st).1 :=
  covered.framed (runViewChange_frames cfg machine)

omit [RedisStore σ] [Bincode WriteOp] in
theorem Covered.afterExclude {st : DriverState σ} (covered : Covered view v st) (victim : Nat) :
    Covered view v (exclude cfg victim st).1 := by
  obtain ⟨dead, detector⟩ := exclude_dead cfg victim st
  constructor
  · rw [detector]
    exact covered.tuned
  · intro confirmed
    rw [detector] at confirmed
    exact (dead v).mpr (Or.inl (covered.excluded confirmed))

omit [RedisStore σ] [Bincode WriteOp] in
theorem Covered.afterReadmission {st : DriverState σ} (covered : Covered view v st)
    {rejoiner : Nat}
    (cleared : rejoiner = v → v ∈ st.dead → isConfirmed st.detector v = false) :
    Covered view v ( readmit cfg rejoiner st).1 := by
  obtain ⟨dead, detector⟩ := readmission_dead cfg rejoiner st
  constructor
  · rw [detector]
    exact covered.tuned
  · intro confirmed
    rw [detector] at confirmed
    have wasDead := covered.excluded confirmed
    refine (dead v).mpr ⟨wasDead, ?_⟩
    rintro rfl
    rw [cleared rfl wasDead] at confirmed
    cases confirmed

theorem handleVc_covered {st : DriverState σ} (covered : Covered view v st) {msg : Token}
    (cleared : ReadmitsCleared v st (.token msg)) : Covered view v (handleVc cfg msg st).1 := by
  cases msg with
  | gather victim body => exact (covered.afterExclude victim).viewChange _
  | install victim body => exact (covered.afterExclude victim).viewChange _
  | reAdmitGather rejoiner body =>
      exact (covered.afterReadmission (fun same => cleared (congrArg some same))).viewChange _
  | reAdmitInstall rejoiner body =>
      exact (covered.afterReadmission (fun same => cleared (congrArg some same))).viewChange _

theorem onInput_covered (laws : DetectorLaws view) (reconfig : cfg.reconfig = true)
    {st : DriverState σ} (covered : Covered view v st) (input : Input Train) :
    Covered view v (onInput cfg input st).1 :=
  processHints_covered laws reconfig _ (covered.framed (stepAndPump_frames cfg.id input))

section Turn

variable [FloatArith] [AlwaysSerializable DeliveredEntry] [AlwaysSerializable ReplicaSnapshot]

theorem Covered.excludable (laws : DetectorLaws view) (reconfig : cfg.reconfig = true)
    {st : DriverState σ} (covered : Covered view v st) (alive : v ∉ st.dead) :
    Excludable cfg st v := by
  have unconfirmed : isConfirmed st.detector v = false := by
    by_contra confirmed
    rw [Bool.not_eq_false] at confirmed
    exact alive (covered.excluded confirmed)
  constructor
  · intro hints enough
    have hinted : 0 < hints.count v := Nat.lt_of_lt_of_le (by decide) enough
    exact processHints_excludes laws reconfig hints covered.tuned unconfirmed (by omega) hinted
  · intro addr here
    have answered := laws.disconnect.enough st.detector v unconfirmed
    rw [covered.tuned.threshold, covered.tuned.weight] at answered
    have confirmed := answered (by unfold disconnectWeight; omega)
    simp only [driverStep]
    rw [reconfig, here]
    simp only
    split
    · rename_i isDead
      exact ExtTreeSet.contains_iff_mem.mp isDead
    · rw [show recordDisconnect st.detector v = ((recordDisconnect st.detector v).1, some v) from
        Prod.ext rfl confirmed]
      exact ((handleCrashConfirmed_dead cfg v _).1 v).mpr (Or.inr rfl)

theorem Excludable.unconfirmed {st : DriverState σ} (excludable : Excludable cfg st v)
    (alive : v ∉ st.dead) : isConfirmed st.detector v = false := by
  by_contra confirmed
  rw [Bool.not_eq_false] at confirmed
  have hinted := excludable.hinted (List.replicate strikeThreshold v)
    (by rw [List.count_replicate_self])
  rw [processHints_ignores confirmed] at hinted
  exact alive hinted

theorem driverStep_covered (laws : DetectorLaws view) (reconfig : cfg.reconfig = true)
    {st : DriverState σ} (covered : Covered view v st) {input : DriverInput}
    (cleared : ReadmitsCleared v st input) : Covered view v (driverStep cfg input st).1 := by
  cases input with
  | request req => exact covered.framed (handleWriteRequest_frames cfg.id req)
  | train train =>
      refine onInput_covered laws reconfig ?_ _
      exact ⟨laws.alive_tuned covered.tuned _,
        fun confirmed => covered.excluded (laws.aliveConfirmed _ _ _ confirmed)⟩
  | token msg =>
      simp only [driverStep]
      rw [if_pos reconfig]
      exact handleVc_covered covered cleared
  | unreachable addr =>
      simp only [driverStep]
      split
      · rename_i victim _ _
        have taken := covered.answered laws.disconnect victim
        split
        · exact covered
        · split
          · rename_i answered
            rw [answered] at taken
            exact taken.acted
          · rename_i answered
            rw [answered] at taken
            exact taken.unanswered
      · exact covered
  | tick => exact onInput_covered laws reconfig covered .tick
  | snapshotRequest have_ => exact covered.same rfl
  | confirmCrash victim =>
      simp only [driverStep]
      rw [if_pos reconfig]
      exact (covered.afterExclude victim).viewChange _

/-- A turn that re-admits the node leaves it alive, and what the detector holds
against it stays. -/
theorem readmission_turn (reconfig : cfg.reconfig = true) (st : DriverState σ) {msg : Token}
    (rejoins : msg.rejoiner = some v) :
    v ∉ (driverStep cfg (.token msg) st).1.dead ∧
      (driverStep cfg (.token msg) st).1.detector = st.detector := by
  obtain ⟨dead, detector⟩ := readmission_dead cfg v st
  obtain ⟨sameDead, sameDetector⟩ :=
    runViewChange_dead cfg (readmitToken msg) ( readmit cfg v st).1
  have turn : (driverStep cfg (.token msg) st).1 =
      (runViewChange cfg (readmitToken msg) ( readmit cfg v st).1).1 := by
    simp only [driverStep]
    rw [if_pos reconfig, handleVc, rejoins]
    rfl
  rw [turn]
  constructor
  · rw [sameDead]
    intro member
    exact ((dead v).mp member).2 rfl
  · exact sameDetector.trans detector

theorem readmitsCleared_of_excludable (reconfig : cfg.reconfig = true) {st : DriverState σ}
    {input : DriverInput}
    (again : v ∉ (driverStep cfg input st).1.dead → Excludable cfg (driverStep cfg input st).1 v) :
    ReadmitsCleared v st input := by
  cases input with
  | token msg =>
      intro rejoins _
      obtain ⟨alive, detector⟩ := readmission_turn reconfig st rejoins
      have unconfirmed := (again alive).unconfirmed alive
      rw [detector] at unconfirmed
      exact unconfirmed
  | _ => exact True.intro

/-! ### Runs -/

omit [FloatArith] [AlwaysSerializable DeliveredEntry] [AlwaysSerializable ReplicaSnapshot] in
theorem driverInit_covered (laws : DetectorLaws view) (cfg : DriverCfg) (store : σ)
    (promote : Option PromoteSeed) : Covered view v (driverInit cfg store promote).1 := by
  have fresh : ∀ st : DriverState σ,
      st.detector = newDetector strikeThreshold disconnectWeight → Covered view v st := by
    intro st new
    constructor
    · rw [new]
      exact laws.new_tuned
    · intro confirmed
      rw [new, laws.newConfirmed] at confirmed
      cases confirmed
  cases promote with
  | some seed => exact (fresh _ rfl).viewChange _
  | none =>
      unfold driverInit
      simp only
      split
      · exact fresh _ rfl
      · exact fresh _ rfl

/-- In every state of a run enough evidence excludes the node if it is not
excluded, exactly when it is never re-admitted while the detector holds it
confirmed. -/
theorem excludable_again_iff (laws : DetectorLaws view) (cfg : DriverCfg)
    (reconfig : cfg.reconfig = true) (store : σ) (promote : Option PromoteSeed)
    (inputs : List DriverInput) (v : ProcId) :
    (∀ before, before <+: inputs → v ∉ (driverLoop cfg store promote before).1.dead →
      Excludable cfg (driverLoop cfg store promote before).1 v) ↔
    ∀ before input, before ++ [input] <+: inputs →
      ReadmitsCleared v (driverLoop cfg store promote before).1 input := by
  have kept : ∀ (st : DriverState σ) (input : DriverInput), Covered view v st →
      ReadmitsCleared v st input → Covered view v ((driver cfg).step st input).1 :=
    fun _ _ covered cleared => driverStep_covered laws reconfig covered cleared
  have safe : ∀ st : DriverState σ, Covered view v st → v ∉ st.dead → Excludable cfg st v :=
    fun _ covered alive => covered.excludable laws reconfig alive
  have needed : ∀ (st : DriverState σ) (input : DriverInput),
      (v ∉ ((driver cfg).step st input).1.dead →
        Excludable cfg ((driver cfg).step st input).1 v) → ReadmitsCleared v st input :=
    fun _ _ again => readmitsCleared_of_excludable reconfig again
  exact (driver cfg).run_safe_iff kept safe needed (driverInit_covered laws cfg store promote)
    inputs

end Turn

end SecondCrash

/-! ### A detector that counts -/

namespace CountingRing

structure Counter where
  threshold : Nat
  weight : Nat
  strikes : List ProcId
  confirmed : List ProcId

namespace Counter

def isConfirmed (counter : Counter) (victim : ProcId) : Bool :=
  counter.confirmed.contains victim

def noteAlive (counter : Counter) (alive : ProcId) : Counter :=
  { counter with
    strikes := counter.strikes.filter (fun v => v != alive)
    confirmed := counter.confirmed.filter (fun v => v != alive) }

def record (amount : Nat) (counter : Counter) (victim : ProcId) : Counter × Option ProcId :=
  if counter.isConfirmed victim then (counter, none)
  else
    let strikes := List.replicate amount victim ++ counter.strikes
    if counter.threshold ≤ strikes.count victim then
      ({ counter with strikes, confirmed := victim :: counter.confirmed }, some victim)
    else ({ counter with strikes }, none)

end Counter

abbrev trains : Trains :=
  { LoopbackRing.trains with
    Detector := Counter
    newDetector := fun threshold weight =>
      { threshold, weight, strikes := [], confirmed := [] }
    noteAlive := Counter.noteAlive
    isConfirmed := Counter.isConfirmed
    recordGapHint := Counter.record 1
    recordDisconnect := fun counter => counter.record counter.weight }

scoped instance : Trains := trains

scoped instance : FloatArith := LoopbackRing.wholeFloats

scoped instance : Bincode WriteOp := WireFormat.bincodeWriteOp

scoped instance : AlwaysSerializable MemStore := WireFormat.serializableMemStore

scoped instance : AlwaysSerializable DeliveredEntry := WireFormat.serializableDeliveredEntry

scoped instance : AlwaysSerializable ReplicaSnapshot :=
  WireFormat.serializableReplicaSnapshot Library.Codec.nat

def view : DetectorView where
  threshold := Counter.threshold
  weight := Counter.weight
  strikes counter v := counter.strikes.count v

theorem Counter.record_cases (amount : Nat) (counter : Counter) (victim : ProcId) :
    (counter.isConfirmed victim = true ∧ counter.record amount victim = (counter, none)) ∨
    (counter.threshold ≤ counter.strikes.count victim + amount ∧
      counter.record amount victim =
        ({ counter with
            strikes := List.replicate amount victim ++ counter.strikes
            confirmed := victim :: counter.confirmed }, some victim)) ∨
    (¬counter.threshold ≤ counter.strikes.count victim + amount ∧
      counter.record amount victim =
        ({ counter with strikes := List.replicate amount victim ++ counter.strikes }, none)) := by
  have counted : (List.replicate amount victim ++ counter.strikes).count victim =
      counter.strikes.count victim + amount := by
    rw [List.count_append, List.count_replicate_self, Nat.add_comm]
  unfold Counter.record
  split
  · rename_i known
    exact Or.inl ⟨known, rfl⟩
  · simp only [counted]
    split
    · rename_i reached
      exact Or.inr (Or.inl ⟨reached, rfl⟩)
    · rename_i short
      exact Or.inr (Or.inr ⟨short, rfl⟩)

theorem count_struck (amount : Nat) (victim v : ProcId) (strikes : List ProcId) :
    (List.replicate amount victim ++ strikes).count v =
      strikes.count v + (if victim = v then amount else 0) := by
  rw [List.count_append, List.count_replicate, Nat.add_comm]
  simp only [beq_iff_eq]

theorem record_takes (amount : Counter → Nat) :
    TakesEvidence view (fun counter => counter.record (amount counter)) amount := by
  constructor
  · intro counter victim
    rcases counter.record_cases (amount counter) victim with
      ⟨_, known⟩ | ⟨_, answered⟩ | ⟨_, counted⟩
    · exact congrArg (fun taken => taken.1.threshold) known
    · exact congrArg (fun taken => taken.1.threshold) answered
    · exact congrArg (fun taken => taken.1.threshold) counted
  · intro counter victim
    rcases counter.record_cases (amount counter) victim with
      ⟨_, known⟩ | ⟨_, answered⟩ | ⟨_, counted⟩
    · exact congrArg (fun taken => taken.1.weight) known
    · exact congrArg (fun taken => taken.1.weight) answered
    · exact congrArg (fun taken => taken.1.weight) counted
  · intro counter victim v confirmed
    rcases counter.record_cases (amount counter) victim with
      ⟨_, known⟩ | ⟨_, answered⟩ | ⟨_, counted⟩
    · simp only [known] at confirmed
      exact Or.inl confirmed
    · simp only [answered] at confirmed ⊢
      rcases List.mem_cons.mp (List.contains_iff_mem.mp confirmed) with named | before
      · exact Or.inr (congrArg some named.symm)
      · exact Or.inl (List.contains_iff_mem.mpr before)
    · simp only [counted] at confirmed
      exact Or.inl confirmed
  · intro counter victim unconfirmed enough
    rcases counter.record_cases (amount counter) victim with
      ⟨known, _⟩ | ⟨_, answered⟩ | ⟨short, _⟩
    · rw [show counter.isConfirmed victim = false from unconfirmed] at known
      cases known
    · exact congrArg Prod.snd answered
    · exact absurd enough short
  · intro counter victim v unconfirmed unanswered
    rcases counter.record_cases (amount counter) victim with
      ⟨known, same⟩ | ⟨_, answered⟩ | ⟨_, counted⟩
    · have other : victim ≠ v := by
        rintro rfl
        rw [show counter.isConfirmed victim = false from unconfirmed] at known
        cases known
      simp only [same, if_neg other]
      exact Nat.le_refl _
    · simp only [answered]
      exact (count_struck (amount counter) victim v counter.strikes).ge
    · simp only [counted]
      exact (count_struck (amount counter) victim v counter.strikes).ge

theorem laws : DetectorLaws view where
  newThreshold _ _ := rfl
  newWeight _ _ := rfl
  newConfirmed _ _ _ := rfl
  aliveThreshold _ _ := rfl
  aliveWeight _ _ := rfl
  aliveConfirmed counter alive v confirmed := by
    have kept := List.contains_iff_mem.mp confirmed
    exact List.contains_iff_mem.mpr (List.mem_filter.mp kept).1
  gapHint := record_takes (fun _ => 1)
  disconnect := record_takes Counter.weight

def addrs : List SocketAddr := [⟨0, 7000⟩, ⟨0, 7001⟩, ⟨0, 7002⟩]

theorem first_idInRing : 0 < ringSize := by decide

theorem addrs_wholeRing : addrs = [] ∨ addrs.length = ringSize := Or.inr rfl

def first : DriverCfg where
  id := 0
  mode := .totalOrder
  issueInitial := false
  ringAddrs := addrs
  idInRing := first_idInRing
  wholeRing := addrs_wholeRing

def heardFrom : List DriverInput :=
  [.unreachable ⟨0, 7001⟩, .train ⟨1, []⟩, .token (.reAdmitGather 1 [])]

def silent : List DriverInput :=
  [.unreachable ⟨0, 7001⟩, .token (.reAdmitGather 1 [])]

theorem heardFrom_cleared : ∀ before input, before ++ [input] <+: heardFrom →
    ReadmitsCleared 1 (driverLoop first MemStore.new none before).1 input := by
  intro before input step
  obtain ⟨rest, same⟩ := step
  unfold heardFrom at same
  rcases before with _ | ⟨cut, _ | ⟨train, _ | ⟨token, more⟩⟩⟩
  · obtain ⟨rfl, _⟩ := List.cons.inj same
    exact True.intro
  · obtain ⟨rfl, later⟩ := List.cons.inj same
    obtain ⟨rfl, _⟩ := List.cons.inj later
    exact True.intro
  · obtain ⟨rfl, later⟩ := List.cons.inj same
    obtain ⟨rfl, last⟩ := List.cons.inj later
    obtain ⟨rfl, _⟩ := List.cons.inj last
    intro _ _
    decide
  · have length := congrArg List.length same
    simp at length

theorem excludable_again_heard :
    1 ∉ (driverLoop first MemStore.new none heardFrom).1.dead ∧
      Excludable first (driverLoop first MemStore.new none heardFrom).1 1 := by
  have alive : 1 ∉ (driverLoop first MemStore.new none heardFrom).1.dead := by decide
  have again := (excludable_again_iff laws first rfl MemStore.new none heardFrom 1).mpr
    heardFrom_cleared
  exact ⟨alive, again heardFrom List.prefix_rfl alive⟩

/-- After the re-admission neither three hints nor an unreachable successor
exclude the node. -/
theorem silent_not_excludable :
    1 ∉ (driverLoop first MemStore.new none silent).1.dead ∧
      1 ∉ (processHints first [1, 1, 1] (driverLoop first MemStore.new none silent).1).1.dead ∧
      1 ∉ (driverStep first (.unreachable ⟨0, 7001⟩)
        (driverLoop first MemStore.new none silent).1).1.dead ∧
      ¬∀ before, before <+: silent → 1 ∉ (driverLoop first MemStore.new none before).1.dead →
        Excludable first (driverLoop first MemStore.new none before).1 1 := by
  have alive : 1 ∉ (driverLoop first MemStore.new none silent).1.dead := by decide
  refine ⟨alive, by decide, by decide, ?_⟩
  intro excludable
  have hinted := (excludable silent List.prefix_rfl alive).hinted [1, 1, 1] (by decide)
  revert hinted
  decide

end CountingRing

end TrainsValkey
