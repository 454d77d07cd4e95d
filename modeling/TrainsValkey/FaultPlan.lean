import TrainsValkey.FaultSequencer

/-
What the sequencer does with a schedule it accepts: which actions the plan has
and in which order, and which calls they become.
-/

set_option autoImplicit false

namespace TrainsValkey.FaultSequencer

open TrainsValkey.Library

/-! ### Well-formed events -/

section WellFormed

variable {T : Type} [LinearOrder T] [Zero T]

def InRing (ringSize : Int) (node : Option Int) : Prop :=
  ∃ index, node = some index ∧ 0 ≤ index ∧ index < ringSize

structure Event.WellFormed (ringSize : Int) (ev : Event T) : Prop where
  known : ∀ name, ev.kind ≠ .other name
  offset : 0 ≤ ev.atOffset
  duration : 0 ≤ ev.duration
  pair : ev.kind.isPair = true → InRing ringSize ev.frm ∧ InRing ringSize ev.toNode
  single : ev.kind.isPair = false → InRing ringSize ev.target

theorem checkNode_ok {ringSize node : Int} {index : Nat} :
    checkNode ringSize node index = .ok () ↔ 0 ≤ node ∧ node < ringSize := by
  unfold checkNode
  split
  · next inside => exact ⟨fun _ => inside, fun _ => rfl⟩
  · next outside =>
      constructor
      · intro impossible
        cases impossible
      · intro inside
        exact absurd inside outside

omit [LinearOrder T] [Zero T] in
theorem checkNodes_ok {ringSize : Int} {ev : Event T} {index : Nat}
    (ok : checkNodes ringSize ev index = .ok ()) :
    (ev.kind.isPair = true → InRing ringSize ev.frm ∧ InRing ringSize ev.toNode) ∧
      (ev.kind.isPair = false → InRing ringSize ev.target) := by
  unfold checkNodes at ok
  split at ok
  · next isPair =>
      refine ⟨fun _ => ?_, fun single => absurd isPair (by simp [single])⟩
      split at ok
      · next frm toNode sameFrm sameTo =>
          cases first : checkNode ringSize frm index with
          | error _ =>
              rw [first] at ok
              cases ok
          | ok _ =>
              rw [first] at ok
              exact ⟨⟨frm, sameFrm, checkNode_ok.mp first⟩, ⟨toNode, sameTo, checkNode_ok.mp ok⟩⟩
      · cases ok
  · next notPair =>
      refine ⟨fun isPair => absurd isPair notPair, fun _ => ?_⟩
      split at ok
      · next target same => exact ⟨target, same, checkNode_ok.mp ok⟩
      · cases ok

theorem validateEvent_ok {ringSize : Int} {ev : Event T} {index : Nat}
    (ok : validateEvent ringSize ev index = .ok ()) : ev.WellFormed ringSize := by
  unfold validateEvent at ok
  split at ok
  · cases ok
  · next known =>
      split at ok
      · cases ok
      · next notNegative =>
          obtain ⟨pair, single⟩ := checkNodes_ok ok
          rw [not_or, not_lt, not_lt] at notNegative
          exact ⟨known, notNegative.1, notNegative.2, pair, single⟩

theorem validateFrom_ok {ringSize : Int} {index : Nat} {events : List (Event T)}
    (ok : validateFrom ringSize index events = .ok ()) :
    ∀ ev ∈ events, ev.WellFormed ringSize := by
  induction events generalizing index with
  | nil =>
      intro ev member
      cases member
  | cons first rest ih =>
      unfold validateFrom at ok
      cases head : validateEvent ringSize first index with
      | error _ =>
          rw [head] at ok
          cases ok
      | ok _ =>
          rw [head] at ok
          intro ev member
          rcases List.mem_cons.mp member with rfl | later
          · exact validateEvent_ok head
          · exact ih ok ev later

theorem Schedule.validate_ok {sched : Schedule T} (ok : sched.validate = .ok ()) :
    ∀ ev ∈ sched.events, ev.WellFormed sched.ringSize := by
  unfold Schedule.validate at ok
  split at ok
  · cases ok
  · exact validateFrom_ok ok

end WellFormed

structure Ctx.Fits (ctx : Ctx) (ringSize : Int) : Prop where
  instances : ringSize ≤ ctx.instances.length
  ips : ringSize ≤ ctx.ips.length

theorem buildCtx_fits {T : Type} {instances ips : List String} {sched : Schedule T} {ctx : Ctx}
    (built : buildCtx instances ips sched = some ctx) : ctx.Fits sched.ringSize := by
  unfold buildCtx at built
  split at built
  · cases built
  · next enough =>
      obtain rfl := Option.some.inj built
      rw [not_or, not_lt, not_lt] at enough
      exact ⟨enough.1, enough.2⟩

theorem pyIndex_of_inRing {ringSize : Int} {α : Type} {items : List α} {node : Option Int}
    (enough : ringSize ≤ items.length) (inRing : InRing ringSize node) :
    ∃ item, node.bind (pyIndex items) = some item := by
  obtain ⟨index, rfl, least, most⟩ := inRing
  have within : index.toNat < items.length := by omega
  refine ⟨items[index.toNat], ?_⟩
  rw [Option.bind_some, pyIndex, if_pos least, List.getElem?_eq_getElem within]

/-! ### The actions of a plan -/

section Plan

variable {T : Type} [LinearOrder T] [Zero T] [Add T]

/-- The order in which the marks are listed before the sort. -/
def markRank : Mark Nat → Nat
  | .start index => 2 * index
  | .stop index => 2 * index + 1

def Planned (ctx : Ctx) (events : List (Event T)) (first : Nat) (act : Action T) : Prop :=
  ∃ index ev scripts, events[index]? = some ev ∧ faults ev ctx ev.kind = some scripts ∧
    act ∈ actionsOf ev (first + index) scripts

theorem mem_actionsOf {ev : Event T} {index : Nat} {scripts : Script T × Script T}
    {act : Action T} : act ∈ actionsOf ev index scripts ↔
      act = injectAction ev index scripts.1 ∨
        (scripts.2.isEmpty = false ∧ 0 < ev.duration) ∧ act = healAction ev index scripts.2 := by
  unfold actionsOf
  rw [List.mem_cons]
  split
  · next heals =>
      rw [List.mem_singleton]
      exact or_congr_right (by simp only [heals, and_self, true_and])
  · next permanent =>
      simp only [permanent, false_and, or_false, List.not_mem_nil]

theorem actionsOf_rank {ev : Event T} {index : Nat} {scripts : Script T × Script T}
    {act : Action T} (member : act ∈ actionsOf ev index scripts) :
    2 * index ≤ markRank act.mark ∧ markRank act.mark < 2 * (index + 1) := by
  rcases mem_actionsOf.mp member with rfl | ⟨_, rfl⟩
  · exact ⟨Nat.le_refl _, Nat.mul_lt_mul_of_pos_left (Nat.lt_succ_self index) Nat.two_pos⟩
  · exact ⟨Nat.le_succ _, Nat.lt_succ_self _⟩

theorem actionsOf_ranked (ev : Event T) (index : Nat) (scripts : Script T × Script T) :
    (actionsOf ev index scripts).Pairwise (fun a b => markRank a.mark < markRank b.mark) := by
  unfold actionsOf
  split
  · exact List.pairwise_pair.mpr (Nat.lt_succ_self _)
  · exact List.pairwise_singleton _ _

theorem expand_cons {ctx : Ctx} {first : Nat} {ev : Event T} {evs : List (Event T)}
    {acts : List (Action T)} : expand ctx first (ev :: evs) = some acts ↔
      ∃ scripts rest, faults ev ctx ev.kind = some scripts ∧
        expand ctx (first + 1) evs = some rest ∧ actionsOf ev first scripts ++ rest = acts := by
  rw [expand]
  simp only [bind, Option.bind_eq_some_iff, Option.some.injEq]
  constructor
  · intro found
    obtain ⟨scripts, made, rest, expanded, same⟩ := found
    exact ⟨scripts, rest, made, expanded, same⟩
  · intro found
    obtain ⟨scripts, rest, made, expanded, same⟩ := found
    exact ⟨scripts, made, rest, expanded, same⟩

theorem expand_isSome_iff {ctx : Ctx} (first : Nat) {evs : List (Event T)} :
    (∃ acts, expand ctx first evs = some acts) ↔
      ∀ ev ∈ evs, ∃ scripts, faults ev ctx ev.kind = some scripts := by
  induction evs generalizing first with
  | nil => simp [expand]
  | cons ev evs ih =>
      rw [List.forall_mem_cons, ← ih (first + 1)]
      constructor
      · intro found
        obtain ⟨acts, expanded⟩ := found
        obtain ⟨scripts, rest, made, later, _⟩ := expand_cons.mp expanded
        exact ⟨⟨scripts, made⟩, rest, later⟩
      · intro found
        obtain ⟨⟨scripts, made⟩, rest, later⟩ := found
        exact ⟨_, expand_cons.mpr ⟨scripts, rest, made, later, rfl⟩⟩

theorem mem_expand_iff {ctx : Ctx} {first : Nat} {evs : List (Event T)} {acts : List (Action T)}
    (expanded : expand ctx first evs = some acts) (act : Action T) :
    act ∈ acts ↔ Planned ctx evs first act := by
  induction evs generalizing first acts with
  | nil =>
      cases expanded
      simp [Planned]
  | cons ev evs ih =>
      obtain ⟨scripts, rest, made, later, rfl⟩ := expand_cons.mp expanded
      rw [List.mem_append, ih later]
      constructor
      · intro either
        rcases either with here | ⟨index, ev', scripts', listed, made', member⟩
        · exact ⟨0, ev, scripts, rfl, made, here⟩
        · refine ⟨index + 1, ev', scripts', listed, made', ?_⟩
          rwa [Nat.add_right_comm, Nat.add_assoc] at member
      · intro found
        obtain ⟨index, ev', scripts', listed, made', member⟩ := found
        cases index with
        | zero =>
            obtain rfl := Option.some.inj listed
            obtain rfl := Option.some.inj (made.symm.trans made')
            exact .inl member
        | succ index =>
            refine .inr ⟨index, ev', scripts', listed, made', ?_⟩
            rwa [Nat.add_right_comm, Nat.add_assoc]

theorem expand_ranked {ctx : Ctx} {first : Nat} {evs : List (Event T)} {acts : List (Action T)}
    (expanded : expand ctx first evs = some acts) :
    acts.Pairwise (fun a b => markRank a.mark < markRank b.mark) := by
  induction evs generalizing first acts with
  | nil =>
      cases expanded
      exact List.Pairwise.nil
  | cons ev evs ih =>
      obtain ⟨scripts, rest, made, later, rfl⟩ := expand_cons.mp expanded
      refine List.pairwise_append.mpr ⟨actionsOf_ranked ev first scripts, ih later, ?_⟩
      intro act member act' member'
      obtain ⟨index, ev', scripts', _, _, inside⟩ := (mem_expand_iff later act').mp member'
      have below := (actionsOf_rank member).2
      have above := (actionsOf_rank inside).1
      omega

def Action.place (act : Action T) : T ×ₗ Nat := toLex (act.atOffset, markRank act.mark)

theorem mem_plan_iff {sched : Schedule T} {ctx : Ctx} {acts : List (Action T)}
    (planned : plan sched ctx = some acts) (act : Action T) :
    act ∈ acts ↔ Planned ctx sched.events 0 act := by
  obtain ⟨unsorted, expanded, rfl⟩ := Option.map_eq_some_iff.mp planned
  rw [List.mem_mergeSort, mem_expand_iff expanded]

theorem plan_sorted {sched : Schedule T} {ctx : Ctx} {acts : List (Action T)}
    (planned : plan sched ctx = some acts) :
    acts.Pairwise (fun a b => a.place < b.place) := by
  obtain ⟨unsorted, expanded, rfl⟩ := Option.map_eq_some_iff.mp planned
  exact pairwise_sort_lex Action.atOffset (fun act => markRank act.mark) (expand_ranked expanded)

theorem plan_isSome_iff {sched : Schedule T} {ctx : Ctx} :
    (∃ acts, plan sched ctx = some acts) ↔
      ∀ ev ∈ sched.events, ∃ scripts, faults ev ctx ev.kind = some scripts := by
  rw [← expand_isSome_iff 0]
  constructor
  · intro found
    obtain ⟨acts, planned⟩ := found
    obtain ⟨unsorted, expanded, _⟩ := Option.map_eq_some_iff.mp planned
    exact ⟨unsorted, expanded⟩
  · intro found
    obtain ⟨unsorted, expanded⟩ := found
    exact ⟨_, Option.map_eq_some_iff.mpr ⟨unsorted, expanded, rfl⟩⟩

end Plan

/-! ### The calls of a run -/

section Calls

variable {T : Type}

def Action.call (ctx : Ctx) (act : Action T) : Call T :=
  ⟨act.atOffset, (ctx.instanceOf act.node).getD "", act.commands, act.mark⟩

variable [LinearOrder T]

theorem mem_execute {ctx : Ctx} {elapsed : T} {acts : List (Action T)} {call : Call T}
    (member : call ∈ execute ctx elapsed acts) :
    ∃ act ∈ acts, ctx.instanceOf act.node = some call.instanceId ∧
      call.commands = act.commands ∧ call.mark = act.mark := by
  induction acts generalizing elapsed with
  | nil => cases member
  | cons act acts ih =>
      rw [execute] at member
      cases resolved : ctx.instanceOf act.node with
      | none =>
          rw [resolved] at member
          cases member
      | some instanceId =>
          rw [resolved] at member
          rcases List.mem_cons.mp member with rfl | later
          · exact ⟨act, List.mem_cons_self, resolved, rfl, rfl⟩
          · obtain ⟨act', member', facts⟩ := ih later
            exact ⟨act', List.mem_cons_of_mem _ member', facts⟩

theorem execute_eq_map {ctx : Ctx} {elapsed : T} {acts : List (Action T)}
    (resolved : ∀ act ∈ acts, ∃ instanceId, ctx.instanceOf act.node = some instanceId)
    (sorted : acts.Pairwise (fun a b => a.atOffset ≤ b.atOffset))
    (ahead : ∀ act ∈ acts, elapsed ≤ act.atOffset) :
    execute ctx elapsed acts = acts.map (Action.call ctx) := by
  induction acts generalizing elapsed with
  | nil => rfl
  | cons act acts ih =>
      obtain ⟨instanceId, here⟩ := resolved act List.mem_cons_self
      obtain ⟨least, tail⟩ := List.pairwise_cons.mp sorted
      have clock : (if elapsed < act.atOffset then act.atOffset else elapsed) = act.atOffset := by
        split
        · rfl
        · next past => exact le_antisymm (ahead act List.mem_cons_self) (not_lt.mp past)
      rw [execute, clock, here, List.map_cons, Action.call, here]
      have rest := ih (fun act' member => resolved act' (List.mem_cons_of_mem _ member)) tail least
      rw [rest]
      rfl

variable [Zero T] [Add T] {sched : Schedule T} {ctx : Ctx}

structure Dispatched (ctx : Ctx) (ev : Event T) (index : Nat) (scripts : Script T × Script T)
    (call : Call T) : Prop where
  generated : faults ev ctx ev.kind = some scripts
  instanceId : ctx.instanceOf ev.node = some call.instanceId
  started : call.mark = .start index → call.commands = scripts.1
  stopped : call.mark = .stop index →
    call.commands = scripts.2 ∧ scripts.2.isEmpty = false ∧ 0 < ev.duration

theorem mem_calls {call : Call T} (member : call ∈ sched.calls ctx) :
    ∃ index ev scripts, sched.events[index]? = some ev ∧ Dispatched ctx ev index scripts call ∧
      (call.mark = .start index ∨ call.mark = .stop index) := by
  unfold Schedule.calls at member
  cases planned : plan sched ctx with
  | none =>
      rw [planned] at member
      cases member
  | some acts =>
      rw [planned] at member
      obtain ⟨act, listed, resolved, commands, mark⟩ := mem_execute member
      obtain ⟨index, ev, scripts, here, generated, inside⟩ := (mem_plan_iff planned act).mp listed
      rw [Nat.zero_add] at inside
      refine ⟨index, ev, scripts, here, ?_⟩
      rcases mem_actionsOf.mp inside with rfl | ⟨heals, rfl⟩
      · refine ⟨⟨generated, resolved, fun _ => commands, fun impossible => ?_⟩, .inl mark⟩
        cases mark.symm.trans impossible
      · refine ⟨⟨generated, resolved, fun impossible => ?_, fun _ => ⟨commands, heals⟩⟩, .inr mark⟩
        cases mark.symm.trans impossible

theorem dispatched_of_mark {call : Call T} {index : Nat} (member : call ∈ sched.calls ctx)
    (marked : call.mark = .start index ∨ call.mark = .stop index) :
    ∃ ev scripts, sched.events[index]? = some ev ∧ Dispatched ctx ev index scripts call := by
  obtain ⟨index', ev, scripts, here, dispatched, mark⟩ := mem_calls member
  have same : index' = index := by
    rcases marked with marked | marked <;> rcases mark with mark | mark <;>
      cases mark.symm.trans marked
    · rfl
    · rfl
  subst same
  exact ⟨ev, scripts, here, dispatched⟩

theorem generated_of_mem_calls {call : Call T} (member : call ∈ sched.calls ctx) :
    ∀ ev ∈ sched.events, ∃ scripts, faults ev ctx ev.kind = some scripts := by
  unfold Schedule.calls at member
  apply plan_isSome_iff.mp
  cases planned : plan sched ctx with
  | none =>
      rw [planned] at member
      cases member
  | some acts => exact ⟨acts, rfl⟩

/-- Nothing raises: each event has its scripts, and its node an instance. -/
structure Schedule.Runs (sched : Schedule T) (ctx : Ctx) : Prop where
  generated : ∀ ev ∈ sched.events, ∃ scripts, faults ev ctx ev.kind = some scripts
  placed : ∀ ev ∈ sched.events, ∃ instanceId, ctx.instanceOf ev.node = some instanceId

def Schedule.markTime (sched : Schedule T) : Mark Nat → T
  | .start index => (sched.events[index]?).elim 0 Event.atOffset
  | .stop index => (sched.events[index]?).elim 0 (fun ev => ev.atOffset + ev.duration)

def Schedule.key (sched : Schedule T) (mark : Mark Nat) : T ×ₗ Nat :=
  toLex (sched.markTime mark, markRank mark)

theorem Planned.time {act : Action T} (planned : Planned ctx sched.events 0 act) :
    act.atOffset = sched.markTime act.mark := by
  obtain ⟨index, ev, scripts, here, _, inside⟩ := planned
  rw [Nat.zero_add] at inside
  rcases mem_actionsOf.mp inside with rfl | ⟨_, rfl⟩
  · simp only [injectAction, Schedule.markTime, here, Option.elim_some]
  · simp only [healAction, Schedule.markTime, here, Option.elim_some]

section Running

variable [NeverEarlier T] (runs : sched.Runs ctx)
  (wellFormed : ∀ ev ∈ sched.events, ev.WellFormed sched.ringSize)

include runs wellFormed

theorem calls_eq_map : ∃ acts, plan sched ctx = some acts ∧
    sched.calls ctx = acts.map (Action.call ctx) := by
  obtain ⟨acts, planned⟩ := plan_isSome_iff.mpr runs.generated
  refine ⟨acts, planned, ?_⟩
  have sorted := plan_sorted planned
  unfold Schedule.calls
  rw [planned, Option.map_some, Option.getD_some]
  apply execute_eq_map
  · intro act member
    obtain ⟨index, ev, scripts, here, _, inside⟩ := (mem_plan_iff planned act).mp member
    have placed := runs.placed ev (List.mem_of_getElem? here)
    rcases mem_actionsOf.mp inside with rfl | ⟨_, rfl⟩
    · exact placed
    · exact placed
  · apply sorted.imp
    intro a b less
    rcases (Prod.Lex.toLex_lt_toLex.mp less) with less | ⟨same, _⟩
    · exact less.le
    · exact same.le
  · intro act member
    obtain ⟨index, ev, scripts, here, _, inside⟩ := (mem_plan_iff planned act).mp member
    have formed := wellFormed ev (List.mem_of_getElem? here)
    rcases mem_actionsOf.mp inside with rfl | ⟨_, rfl⟩
    · exact formed.offset
    · exact le_trans formed.offset (NeverEarlier.le_add _ _ formed.duration)

theorem call_time {call : Call T} (member : call ∈ sched.calls ctx) :
    call.time = sched.markTime call.mark := by
  obtain ⟨acts, planned, same⟩ := calls_eq_map runs wellFormed
  rw [same] at member
  obtain ⟨act, listed, rfl⟩ := List.mem_map.mp member
  exact Planned.time ((mem_plan_iff planned act).mp listed)

theorem marks_sorted : ((sched.calls ctx).map Call.mark).Pairwise
    (fun a b => sched.key a < sched.key b) := by
  obtain ⟨acts, planned, same⟩ := calls_eq_map runs wellFormed
  rw [same, List.map_map, List.pairwise_map]
  apply (plan_sorted planned).imp_of_mem
  intro a b member member' less
  have time := Planned.time ((mem_plan_iff planned a).mp member)
  have time' := Planned.time ((mem_plan_iff planned b).mp member')
  change toLex (a.atOffset, _) < toLex (b.atOffset, _) at less
  rw [time, time'] at less
  exact less

theorem mem_marks_iff (mark : Mark Nat) : mark ∈ (sched.calls ctx).map Call.mark ↔
    ∃ act, Planned ctx sched.events 0 act ∧ act.mark = mark := by
  obtain ⟨acts, planned, same⟩ := calls_eq_map runs wellFormed
  rw [same, List.map_map, List.mem_map]
  constructor
  · intro found
    obtain ⟨act, member, rfl⟩ := found
    exact ⟨act, (mem_plan_iff planned act).mp member, rfl⟩
  · intro found
    obtain ⟨act, listed, rfl⟩ := found
    exact ⟨act, (mem_plan_iff planned act).mpr listed, rfl⟩

theorem start_mem_marks {index : Nat} : .start index ∈ (sched.calls ctx).map Call.mark ↔
    ∃ ev, sched.events[index]? = some ev := by
  rw [mem_marks_iff runs wellFormed]
  constructor
  · intro found
    obtain ⟨act, ⟨index', ev, scripts, here, _, inside⟩, mark⟩ := found
    rw [Nat.zero_add] at inside
    rcases mem_actionsOf.mp inside with rfl | ⟨_, rfl⟩
    · cases mark
      exact ⟨ev, here⟩
    · cases mark
  · intro found
    obtain ⟨ev, here⟩ := found
    obtain ⟨scripts, generated⟩ := runs.generated ev (List.mem_of_getElem? here)
    refine ⟨injectAction ev index scripts.1, ⟨index, ev, scripts, here, generated, ?_⟩, rfl⟩
    rw [Nat.zero_add]
    exact mem_actionsOf.mpr (.inl rfl)

theorem stop_mem_marks {index : Nat} : .stop index ∈ (sched.calls ctx).map Call.mark ↔
    ∃ ev scripts, sched.events[index]? = some ev ∧ faults ev ctx ev.kind = some scripts ∧
      scripts.2.isEmpty = false ∧ 0 < ev.duration := by
  rw [mem_marks_iff runs wellFormed]
  constructor
  · intro found
    obtain ⟨act, ⟨index', ev, scripts, here, generated, inside⟩, mark⟩ := found
    rw [Nat.zero_add] at inside
    rcases mem_actionsOf.mp inside with rfl | ⟨heals, rfl⟩
    · cases mark
    · cases mark
      exact ⟨ev, scripts, here, generated, heals⟩
  · intro found
    obtain ⟨ev, scripts, here, generated, heals⟩ := found
    refine ⟨healAction ev index scripts.2, ⟨index, ev, scripts, here, generated, ?_⟩, rfl⟩
    rw [Nat.zero_add]
    exact mem_actionsOf.mpr (.inr ⟨heals, rfl⟩)

theorem stop_opened {index : Nat} (stopped : .stop index ∈ (sched.calls ctx).map Call.mark) :
    .start index ∈ (sched.calls ctx).map Call.mark ∧
      sched.key (.start index) < sched.key (.stop index) := by
  obtain ⟨ev, scripts, here, _, _, _⟩ := (stop_mem_marks runs wellFormed).mp stopped
  refine ⟨(start_mem_marks runs wellFormed).mpr ⟨ev, here⟩, ?_⟩
  have formed := wellFormed ev (List.mem_of_getElem? here)
  have later := NeverEarlier.le_add ev.atOffset ev.duration formed.duration
  unfold Schedule.key
  simp only [Schedule.markTime, here, Option.elim_some]
  rcases lt_or_eq_of_le later with less | same
  · exact Prod.Lex.toLex_lt_toLex.mpr (.inl less)
  · exact Prod.Lex.toLex_lt_toLex.mpr (.inr ⟨same, Nat.lt_succ_self _⟩)

end Running

def Schedule.timeline [NeverEarlier T] (sched : Schedule T) (ctx : Ctx) (runs : sched.Runs ctx)
    (wellFormed : ∀ ev ∈ sched.events, ev.WellFormed sched.ringSize) :
    Timeline Nat (T ×ₗ Nat) where
  marks := (sched.calls ctx).map Call.mark
  key := sched.key
  sorted := marks_sorted runs wellFormed
  opened := fun _ => stop_opened runs wellFormed

end Calls

end TrainsValkey.FaultSequencer
