import TrainsValkey.FaultPlan

/-
Which schedules put their faults in force exactly in their windows.

Rules of the `OUTPUT` chain add up, so partitions may overlap in any way.  A
root queueing discipline belongs to one event at a time: the netem events of a
machine must be over, one by one, before the next is injected.
-/

set_option autoImplicit false

namespace TrainsValkey.FaultSequencer

open TrainsValkey.Library

/-! ### What an event is meant to put in force -/

inductive Effect (T : Type) where
  | drop (machine dst : String)
  | shape (machine : String) (netem : Netem T)
deriving DecidableEq

namespace Effect

variable {T : Type}

def machine : Effect T → String
  | .drop machine _ => machine
  | .shape machine _ => machine

def InForce (iface : String) (world : World T) : Effect T → Prop
  | .drop machine dst => dst ∈ (world machine).output
  | .shape machine netem => (world machine).root iface = some netem

def add (iface : String) : Effect T → Command T
  | .drop _ dst => .dropAdd dst
  | .shape _ netem => .qdiscAdd iface netem

def remove (iface : String) : Effect T → Command T
  | .drop _ dst => .dropDelete dst
  | .shape _ _ => .qdiscDel iface

def dropOn (machine : String) : Effect T → Option String
  | .drop other dst => if other = machine then some dst else none
  | .shape _ _ => none

def shapeOn (machine : String) : Effect T → Option (Netem T)
  | .drop _ _ => none
  | .shape other netem => if other = machine then some netem else none

end Effect

section Effects

variable {T : Type}

/-- A partition drops the packets of node `from`, a netem event shapes those of
`target`; the other kinds touch neither rules nor disciplines. -/
def Event.effect (ev : Event T) (ctx : Ctx) : Option (Effect T) :=
  match ev.kind with
  | .partition => do
      let machine ← ctx.instanceOf ev.frm
      let dst ← ctx.ip ev.toNode
      some (.drop machine dst)
  | .netemLoss => (ctx.instanceOf ev.target).map (fun machine => .shape machine (.loss ev.pct))
  | .netemLatency => (ctx.instanceOf ev.target).map (fun machine => .shape machine (.delay ev.ms))
  | _ => none

def Schedule.effectAt (sched : Schedule T) (ctx : Ctx) (index : Nat) : Option (Effect T) :=
  (sched.events[index]?).bind (fun ev => ev.effect ctx)

structure Schedule.Lists (sched : Schedule T) (ctx : Ctx) (index : Nat) (ev : Event T)
    (effect : Effect T) : Prop where
  event : sched.events[index]? = some ev
  effect : ev.effect ctx = some effect

variable [LinearOrder T] [Zero T] [Add T]

/-- The window of an event: from its offset, for its duration or for good. -/
def Event.Covers (ev : Event T) (time : T) : Prop :=
  ev.atOffset ≤ time ∧ (0 < ev.duration → time < ev.atOffset + ev.duration)

/-- The faults of a schedule are in force exactly in their windows. -/
structure Schedule.FaultsInForce (accepts : Netem T → Bool) (ctx : Ctx) (sched : Schedule T) :
    Prop where
  active : ∀ index ev effect, sched.Lists ctx index ev effect → ∀ time, ev.Covers time →
    effect.InForce ctx.iface (sched.worldAt accepts ctx time)
  /-- After it, it is not, unless another event with the same effect covers the time. -/
  healed : ∀ index ev effect, sched.Lists ctx index ev effect → 0 < ev.duration →
    ∀ time, ev.atOffset + ev.duration ≤ time →
      effect.InForce ctx.iface (sched.worldAt accepts ctx time) →
        ∃ index' ev', index' ≠ index ∧ sched.Lists ctx index' ev' effect ∧ ev'.Covers time
  injected : ∀ index ev effect, sched.Lists ctx index ev effect →
    ∃ earlier call later, sched.calls ctx = earlier ++ call :: later ∧
      call.mark = .start index ∧ call.time = ev.atOffset ∧ call.instanceId = effect.machine ∧
      (worldAfter accepts earlier effect.machine).completes accepts call.commands = true
  /-- A heal leaves in force what the other events have in force that were injected and not
  healed. -/
  kept : ∀ earlier call later index, sched.calls ctx = earlier ++ call :: later →
    call.mark = .stop index → ∀ index' ev effect, index' ≠ index →
      sched.Lists ctx index' ev effect → index' ∈ live (earlier.map Call.mark) →
        effect.InForce ctx.iface (worldAfter accepts earlier) →
          effect.InForce ctx.iface (worldAfter accepts (earlier ++ [call]))

/-- One of two events on the same machine's discipline is over before the other
is injected.  At equal times the actions keep the order of the listing. -/
def Event.Apart (ctx : Ctx) (first second : Event T) : Prop :=
  ∀ machine netem netem', first.effect ctx = some (.shape machine netem) →
    second.effect ctx = some (.shape machine netem') →
      0 < first.duration ∧ first.atOffset + first.duration ≤ second.atOffset ∨
        0 < second.duration ∧ second.atOffset + second.duration < first.atOffset

structure Schedule.Compatible (accepts : Netem T → Bool) (ctx : Ctx) (sched : Schedule T) :
    Prop where
  clocks : (∃ ev ∈ sched.events, ev.effect ctx ≠ none) →
    ∀ ev ∈ sched.events, ev.kind = .clockSkew → ev.secs ≠ none
  /-- A partition that also has a `target` has it on the machine of `from`. -/
  targets : ∀ ev ∈ sched.events, ev.kind = .partition →
    ctx.instanceOf ev.node = ctx.instanceOf ev.frm
  accepted : ∀ ev ∈ sched.events, ∀ machine netem, ev.effect ctx = some (.shape machine netem) →
    accepts netem = true
  apart : sched.events.Pairwise (Event.Apart ctx)

end Effects

/-! ### What the scripts do -/

namespace Effect

variable {T : Type} {effect : Effect T} {machine : String}

theorem dropOn_eq_some {dst : String} :
    effect.dropOn machine = some dst ↔ effect = .drop machine dst := by
  cases effect with
  | drop other dst' =>
      by_cases same : other = machine
      · simp [dropOn, same]
      · simp [dropOn, same]
  | shape other netem => simp [dropOn]

theorem shapeOn_eq_some {netem : Netem T} :
    effect.shapeOn machine = some netem ↔ effect = .shape machine netem := by
  cases effect with
  | drop other dst => simp [shapeOn]
  | shape other netem' =>
      by_cases same : other = machine
      · simp [shapeOn, same]
      · simp [shapeOn, same]

end Effect

section Scripts

variable {T : Type} {ev : Event T} {ctx : Ctx} {effect : Effect T}

theorem faults_of_effect (meant : ev.effect ctx = some effect) :
    faults ev ctx ev.kind =
      some ([effect.add ctx.iface, .echo], [effect.remove ctx.iface, .echo]) := by
  unfold Event.effect at meant
  cases kind : ev.kind with
  | partition =>
      simp only [kind, bind, Option.bind_eq_some_iff, Option.some.injEq] at meant
      obtain ⟨machine, _, dst, resolved, rfl⟩ := meant
      simp only [faults, fPartition, resolved, Option.map_some, Effect.add, Effect.remove]
  | netemLoss =>
      simp only [kind, Option.map_eq_some_iff] at meant
      obtain ⟨machine, _, rfl⟩ := meant
      rfl
  | netemLatency =>
      simp only [kind, Option.map_eq_some_iff] at meant
      obtain ⟨machine, _, rfl⟩ := meant
      rfl
  | killProxy => simp [kind] at meant
  | clockSkew => simp [kind] at meant
  | restartProxy => simp [kind] at meant
  | other name => simp [kind] at meant

variable [LinearOrder T] [Zero T] {ringSize : Int}

theorem effect_of_partition (formed : ev.WellFormed ringSize) (fits : ctx.Fits ringSize)
    (kind : ev.kind = .partition) :
    ∃ machine dst, ctx.instanceOf ev.frm = some machine ∧
      ev.effect ctx = some (.drop machine dst) := by
  obtain ⟨inRing, inRing'⟩ := formed.pair (by rw [kind]; rfl)
  obtain ⟨machine, resolved⟩ := pyIndex_of_inRing fits.instances inRing
  obtain ⟨dst, resolved'⟩ := pyIndex_of_inRing fits.ips inRing'
  refine ⟨machine, dst, resolved, ?_⟩
  simp only [Event.effect, kind, bind, Ctx.instanceOf, Ctx.ip, resolved, resolved',
    Option.bind_some]

theorem instanceOf_target (formed : ev.WellFormed ringSize) (fits : ctx.Fits ringSize)
    (single : ev.kind.isPair = false) :
    ∃ machine, ctx.instanceOf ev.target = some machine ∧ ctx.instanceOf ev.node = some machine := by
  obtain ⟨machine, resolved⟩ := pyIndex_of_inRing fits.instances (formed.single single)
  obtain ⟨index, same, _, _⟩ := formed.single single
  have node : ev.node = ev.target := by
    rw [Event.node, same]
    rfl
  exact ⟨machine, resolved, node ▸ resolved⟩

theorem run_of_no_effect (formed : ev.WellFormed ringSize) (fits : ctx.Fits ringSize)
    (meant : ev.effect ctx = none) {scripts : Script T × Script T}
    (generated : faults ev ctx ev.kind = some scripts) (accepts : Netem T → Bool)
    (kernel : Kernel T) :
    kernel.run accepts scripts.1 = kernel ∧ kernel.run accepts scripts.2 = kernel := by
  cases kind : ev.kind with
  | partition =>
      obtain ⟨machine, dst, _, impossible⟩ := effect_of_partition formed fits kind
      cases meant.symm.trans impossible
  | netemLoss =>
      obtain ⟨machine, resolved, _⟩ := instanceOf_target formed fits (by rw [kind]; rfl)
      simp [Event.effect, kind, resolved] at meant
  | netemLatency =>
      obtain ⟨machine, resolved, _⟩ := instanceOf_target formed fits (by rw [kind]; rfl)
      simp [Event.effect, kind, resolved] at meant
  | killProxy =>
      rw [kind] at generated
      cases generated
      exact ⟨rfl, rfl⟩
  | clockSkew =>
      rw [kind] at generated
      obtain ⟨secs, _, rfl⟩ := Option.map_eq_some_iff.mp generated
      exact ⟨rfl, rfl⟩
  | restartProxy =>
      rw [kind] at generated
      cases generated
      exact ⟨rfl, rfl⟩
  | other name => exact absurd kind (formed.known name)

end Scripts

theorem completes_add_iff {T : Type} {effect : Effect T} {accepts : Netem T → Bool}
    {world : World T} {iface : String} :
    (world effect.machine).completes accepts [effect.add iface, .echo] = true ↔
      ∀ machine netem, effect = .shape machine netem →
        (world machine).root iface = none ∧ accepts netem = true := by
  cases effect with
  | drop machine dst => simp [Effect.add, Kernel.completes, Kernel.succeeds]
  | shape machine netem =>
      simp [Effect.add, Effect.machine, Kernel.completes, Kernel.succeeds]

/-! ### Rules and disciplines against the live events -/

section Tracks

variable {T : Type} (iface : String) (effectAt : Nat → Option (Effect T))

def dropsAt (machine : String) (index : Nat) : Option String :=
  (effectAt index).bind (Effect.dropOn machine)

def shapesAt (machine : String) (index : Nat) : Option (Netem T) :=
  (effectAt index).bind (Effect.shapeOn machine)

/-- Each machine drops to the destinations of its live partitions, counted with
their repetitions, and has the one discipline of its live netem events. -/
structure Tracks (world : World T) (running : Multiset Nat) : Prop where
  drops : ∀ machine, (↑(world machine).output : Multiset String) =
    running.filterMap (dropsAt effectAt machine)
  shapes : ∀ machine, (↑((world machine).root iface).toList : Multiset (Netem T)) =
    running.filterMap (shapesAt effectAt machine)

variable {iface effectAt} {world : World T} {running : Multiset Nat} {index : Nat}
  {effect : Effect T}

theorem tracks_clean : Tracks iface effectAt World.clean 0 :=
  ⟨fun _ => rfl, fun _ => rfl⟩

section Held

variable {machine other : String}

theorem dropsAt_eq {dst : String} (means : effectAt index = some (.drop machine dst)) :
    dropsAt effectAt machine index = some dst := by
  rw [dropsAt, means]
  exact if_pos rfl

theorem shapesAt_eq {netem : Netem T} (means : effectAt index = some (.shape machine netem)) :
    shapesAt effectAt machine index = some netem := by
  rw [shapesAt, means]
  exact if_pos rfl

theorem none_elsewhere (means : effectAt index = some effect) (different : other ≠ effect.machine) :
    dropsAt effectAt other index = none ∧ shapesAt effectAt other index = none := by
  rw [dropsAt, shapesAt, means]
  cases effect with
  | drop machine dst => exact ⟨if_neg (Ne.symm different), rfl⟩
  | shape machine netem => exact ⟨rfl, if_neg (Ne.symm different)⟩

theorem shapesAt_drop {dst : String} (means : effectAt index = some (.drop machine dst)) :
    shapesAt effectAt other index = none := by
  rw [shapesAt, means]
  rfl

theorem dropsAt_shape {netem : Netem T} (means : effectAt index = some (.shape machine netem)) :
    dropsAt effectAt other index = none := by
  rw [dropsAt, means]
  rfl

theorem dropsAt_none (means : effectAt index = none) : dropsAt effectAt other index = none := by
  rw [dropsAt, means]
  rfl

theorem shapesAt_none (means : effectAt index = none) : shapesAt effectAt other index = none := by
  rw [shapesAt, means]
  rfl

end Held

namespace Tracks

/-- An effect is in force exactly when an event that means it is live. -/
theorem inForce_iff (tracks : Tracks iface effectAt world running) :
    effect.InForce iface world ↔ ∃ index ∈ running, effectAt index = some effect := by
  cases effect with
  | drop machine dst =>
      change dst ∈ (world machine).output ↔ _
      rw [← Multiset.mem_coe, tracks.drops machine, Multiset.mem_filterMap]
      simp only [dropsAt, Option.bind_eq_some_iff, Effect.dropOn_eq_some, exists_eq_right]
  | shape machine netem =>
      change (world machine).root iface = some netem ↔ _
      rw [← Option.mem_toList, ← Multiset.mem_coe, tracks.shapes machine,
        Multiset.mem_filterMap]
      simp only [shapesAt, Option.bind_eq_some_iff, Effect.shapeOn_eq_some, exists_eq_right]

theorem root_none_iff (tracks : Tracks iface effectAt world running) (machine : String) :
    (world machine).root iface = none ↔
      ∀ index ∈ running, ∀ netem, effectAt index ≠ some (.shape machine netem) := by
  constructor
  · intro free index live netem means
    have held : (Effect.shape machine netem).InForce iface world :=
      tracks.inForce_iff.mpr ⟨index, live, means⟩
    cases held.symm.trans free
  · intro untouched
    cases root : (world machine).root iface with
    | none => rfl
    | some netem =>
        have held : (Effect.shape machine netem).InForce iface world := root
        obtain ⟨index, live, means⟩ := tracks.inForce_iff.mp held
        exact absurd means (untouched index live netem)

variable {accepts : Netem T → Bool}

theorem put (tracks : Tracks iface effectAt world running) {machine : String} {kernel : Kernel T}
    {running' : Multiset Nat}
    (drops : (↑kernel.output : Multiset String) = running'.filterMap (dropsAt effectAt machine))
    (shapes : (↑(kernel.root iface).toList : Multiset (Netem T)) =
      running'.filterMap (shapesAt effectAt machine))
    (elsewhere : ∀ other, other ≠ machine →
      running'.filterMap (dropsAt effectAt other) = running.filterMap (dropsAt effectAt other) ∧
        running'.filterMap (shapesAt effectAt other) =
          running.filterMap (shapesAt effectAt other)) :
    Tracks iface effectAt (Function.update world machine kernel) running' := by
  constructor
  · intro other
    by_cases same : other = machine
    · subst other
      rwa [Function.update_self]
    · rw [Function.update_of_ne same, (elsewhere other same).1, tracks.drops other]
  · intro other
    by_cases same : other = machine
    · subst other
      rwa [Function.update_self]
    · rw [Function.update_of_ne same, (elsewhere other same).2, tracks.shapes other]

theorem start (tracks : Tracks iface effectAt world running) (means : effectAt index = some effect)
    (free : ∀ machine netem, effect = .shape machine netem →
      (world machine).root iface = none ∧ accepts netem = true) :
    Tracks iface effectAt
      (Function.update world effect.machine
        ((world effect.machine).exec accepts (effect.add iface))) (index ::ₘ running) := by
  have elsewhere : ∀ other, other ≠ effect.machine →
      (index ::ₘ running).filterMap (dropsAt effectAt other) =
          running.filterMap (dropsAt effectAt other) ∧
        (index ::ₘ running).filterMap (shapesAt effectAt other) =
          running.filterMap (shapesAt effectAt other) := by
    intro other different
    obtain ⟨drops, shapes⟩ := none_elsewhere means different
    exact ⟨Multiset.filterMap_cons_none _ _ drops, Multiset.filterMap_cons_none _ _ shapes⟩
  cases effect with
  | drop machine dst =>
      simp only [Effect.machine, Effect.add] at elsewhere ⊢
      refine tracks.put ?_ ?_ elsewhere
      · rw [Multiset.filterMap_cons_some _ _ _ (dropsAt_eq means), ← tracks.drops machine]
        exact Multiset.coe_eq_coe.mpr (List.perm_append_singleton dst _)
      · rw [Multiset.filterMap_cons_none _ _ (shapesAt_drop means), ← tracks.shapes machine]
        rfl
  | shape machine netem =>
      obtain ⟨root, accepted⟩ := free machine netem rfl
      have succeeds : (world machine).succeeds accepts (.qdiscAdd iface netem) = true := by
        rw [Kernel.succeeds, root, accepted]
        rfl
      have added : (world machine).exec accepts (.qdiscAdd iface netem) =
          ⟨Function.update (world machine).root iface (some netem), (world machine).output⟩ := by
        rw [Kernel.exec, if_pos succeeds]
      simp only [Effect.machine, Effect.add] at elsewhere ⊢
      refine tracks.put ?_ ?_ elsewhere
      · rw [Multiset.filterMap_cons_none _ _ (dropsAt_shape means), ← tracks.drops machine]
        rw [added]
      · rw [Multiset.filterMap_cons_some _ _ _ (shapesAt_eq means), ← tracks.shapes machine, root]
        simp only [added, Function.update_self]
        rfl

theorem stop (tracks : Tracks iface effectAt world running) (member : index ∈ running)
    (means : effectAt index = some effect) :
    Tracks iface effectAt
      (Function.update world effect.machine
        ((world effect.machine).exec accepts (effect.remove iface))) (running.erase index) := by
  have elsewhere : ∀ other, other ≠ effect.machine →
      (running.erase index).filterMap (dropsAt effectAt other) =
          running.filterMap (dropsAt effectAt other) ∧
        (running.erase index).filterMap (shapesAt effectAt other) =
          running.filterMap (shapesAt effectAt other) := by
    intro other different
    obtain ⟨drops, shapes⟩ := none_elsewhere means different
    exact ⟨filterMap_erase_none _ drops, filterMap_erase_none _ shapes⟩
  cases effect with
  | drop machine dst =>
      simp only [Effect.machine, Effect.remove] at elsewhere ⊢
      refine tracks.put ?_ ?_ elsewhere
      · have held := tracks.drops machine
        rw [filterMap_erase_some _ member (dropsAt_eq means)] at held
        change (↑((world machine).output.erase dst) : Multiset String) = _
        rw [← Multiset.coe_erase, held, Multiset.erase_cons_head]
      · rw [filterMap_erase_none _ (shapesAt_drop means), ← tracks.shapes machine]
        rfl
  | shape machine netem =>
      simp only [Effect.machine, Effect.remove] at elsewhere ⊢
      refine tracks.put ?_ ?_ elsewhere
      · rw [filterMap_erase_none _ (dropsAt_shape means), ← tracks.drops machine]
        rfl
      · have held := tracks.shapes machine
        rw [filterMap_erase_some _ member (shapesAt_eq means)] at held
        -- the interface has one discipline, so no other live event has one on it
        have one : Multiset.card (↑((world machine).root iface).toList : Multiset (Netem T)) ≤ 1 :=
          Option.length_toList_le
        rw [held, Multiset.card_cons] at one
        have rest : Multiset.card ((running.erase index).filterMap (shapesAt effectAt machine)) = 0 :=
          Nat.le_zero.mp (Nat.le_of_succ_le_succ one)
        simp only [Multiset.card_eq_zero.mp rest, Kernel.exec, Function.update_self]
        rfl

theorem start_none (tracks : Tracks iface effectAt world running) (means : effectAt index = none) :
    Tracks iface effectAt world (index ::ₘ running) := by
  constructor
  · intro other
    rw [Multiset.filterMap_cons_none _ _ (dropsAt_none means), tracks.drops other]
  · intro other
    rw [Multiset.filterMap_cons_none _ _ (shapesAt_none means), tracks.shapes other]

theorem stop_none (tracks : Tracks iface effectAt world running) (means : effectAt index = none) :
    Tracks iface effectAt world (running.erase index) := by
  constructor
  · intro other
    rw [filterMap_erase_none _ (dropsAt_none means), tracks.drops other]
  · intro other
    rw [filterMap_erase_none _ (shapesAt_none means), tracks.shapes other]

end Tracks

end Tracks

end TrainsValkey.FaultSequencer
