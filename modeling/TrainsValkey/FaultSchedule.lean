import TrainsValkey.FaultWindows
import Mathlib.Tactic.NormNum

/-
The schedules whose faults are in force exactly in their windows.

Along the calls of a run that does not raise, the machines follow the live
events as long as each netem event finds the discipline free.  It does when no
other netem event of its machine is live there, and that is a matter of the
windows and, where two meet, of the listing.
-/

set_option autoImplicit false

namespace TrainsValkey.FaultSequencer

open TrainsValkey.Library

section Listing

variable {T : Type} {ctx : Ctx} {sched : Schedule T}

theorem Schedule.Lists.effectAt {index : Nat} {ev : Event T} {effect : Effect T}
    (lists : sched.Lists ctx index ev effect) : sched.effectAt ctx index = some effect := by
  rw [Schedule.effectAt, lists.event, Option.bind_some, lists.effect]

theorem effectAt_eq_some {index : Nat} {effect : Effect T} :
    sched.effectAt ctx index = some effect ↔ ∃ ev, sched.Lists ctx index ev effect := by
  unfold Schedule.effectAt
  rw [Option.bind_eq_some_iff]
  constructor
  · intro found
    obtain ⟨ev, event, means⟩ := found
    exact ⟨ev, event, means⟩
  · intro found
    obtain ⟨ev, lists⟩ := found
    exact ⟨ev, lists.event, lists.effect⟩

theorem Schedule.Lists.mem {index : Nat} {ev : Event T} {effect : Effect T}
    (lists : sched.Lists ctx index ev effect) : ev ∈ sched.events :=
  List.mem_of_getElem? lists.event

theorem runs_of_targets [LinearOrder T] [Zero T]
    (wellFormed : ∀ ev ∈ sched.events, ev.WellFormed sched.ringSize)
    (fits : ctx.Fits sched.ringSize)
    (clocks : ∀ ev ∈ sched.events, ev.kind = .clockSkew → ev.secs ≠ none)
    (targets : ∀ ev ∈ sched.events, ev.kind = .partition →
      ctx.instanceOf ev.node = ctx.instanceOf ev.frm) : sched.Runs ctx := by
  constructor
  · intro ev member
    cases means : ev.effect ctx with
    | some effect => exact ⟨_, faults_of_effect means⟩
    | none =>
        cases kind : ev.kind with
        | partition =>
            obtain ⟨machine, dst, _, impossible⟩ :=
              effect_of_partition (wellFormed ev member) fits kind
            cases means.symm.trans impossible
        | clockSkew =>
            obtain ⟨secs, given⟩ := Option.ne_none_iff_exists'.mp (clocks ev member kind)
            exact ⟨_, Option.map_eq_some_iff.mpr ⟨secs, given, rfl⟩⟩
        | other name => exact absurd kind ((wellFormed ev member).known name)
        | _ => exact ⟨_, rfl⟩
  · intro ev member
    cases isPair : ev.kind.isPair with
    | true =>
        have kind : ev.kind = .partition := by
          cases kind : ev.kind <;> rw [kind] at isPair <;> first | rfl | cases isPair
        obtain ⟨machine, _, resolved, _⟩ := effect_of_partition (wellFormed ev member) fits kind
        exact ⟨machine, (targets ev member kind).trans resolved⟩
    | false =>
        obtain ⟨machine, _, resolved⟩ := instanceOf_target (wellFormed ev member) fits isPair
        exact ⟨machine, resolved⟩

theorem instanceOf_node [LinearOrder T] [Zero T] {index : Nat} {ev : Event T} {effect : Effect T}
    (wellFormed : ∀ ev ∈ sched.events, ev.WellFormed sched.ringSize)
    (fits : ctx.Fits sched.ringSize)
    (targets : ∀ ev ∈ sched.events, ev.kind = .partition →
      ctx.instanceOf ev.node = ctx.instanceOf ev.frm)
    (lists : sched.Lists ctx index ev effect) :
    ctx.instanceOf ev.node = some effect.machine := by
  have formed := wellFormed ev lists.mem
  have means := lists.effect
  cases kind : ev.kind with
  | partition =>
      obtain ⟨machine, dst, resolved, means'⟩ := effect_of_partition formed fits kind
      obtain rfl := Option.some.inj (means.symm.trans means')
      exact (targets ev lists.mem kind).trans resolved
  | netemLoss =>
      obtain ⟨machine, resolved, resolved'⟩ := instanceOf_target formed fits (by rw [kind]; rfl)
      simp only [Event.effect, kind, resolved, Option.map_some, Option.some.injEq] at means
      subst means
      exact resolved'
  | netemLatency =>
      obtain ⟨machine, resolved, resolved'⟩ := instanceOf_target formed fits (by rw [kind]; rfl)
      simp only [Event.effect, kind, resolved, Option.map_some, Option.some.injEq] at means
      subst means
      exact resolved'
  | killProxy => simp [Event.effect, kind] at means
  | clockSkew => simp [Event.effect, kind] at means
  | restartProxy => simp [Event.effect, kind] at means
  | other name => simp [Event.effect, kind] at means

end Listing

/-! ### The machines along a run -/

section Running

variable {T : Type} [LinearOrder T] [Zero T] [Add T] [NeverEarlier T] {ctx : Ctx}
  {sched : Schedule T} {accepts : Netem T → Bool} {earlier : List (Call T)}

omit [NeverEarlier T] in
theorem mem_of_split {call : Call T} {later : List (Call T)}
    (split : sched.calls ctx = earlier ++ call :: later) : call ∈ sched.calls ctx :=
  split ▸ List.mem_append_right _ List.mem_cons_self

omit [NeverEarlier T] in
theorem started_call {call : Call T} {later : List (Call T)} {index : Nat} {ev : Event T}
    {effect : Effect T} (lists : sched.Lists ctx index ev effect)
    (split : sched.calls ctx = earlier ++ call :: later) (marked : call.mark = .start index) :
    ctx.instanceOf ev.node = some call.instanceId ∧
      call.commands = [effect.add ctx.iface, .echo] := by
  obtain ⟨ev', scripts, listed, dispatched⟩ := dispatched_of_mark (mem_of_split split) (.inl marked)
  obtain rfl := Option.some.inj (lists.event.symm.trans listed)
  have generated := dispatched.generated
  rw [faults_of_effect lists.effect] at generated
  cases generated
  exact ⟨dispatched.instanceId, dispatched.started marked⟩

/-- The machines after the calls follow the events that are live there. -/
def Follows (accepts : Netem T → Bool) (ctx : Ctx) (sched : Schedule T)
    (earlier : List (Call T)) : Prop :=
  Tracks ctx.iface (sched.effectAt ctx) (worldAfter accepts earlier) (live (earlier.map Call.mark))

/-- Each netem event finds the discipline free, and is accepted, if the machines
follow the live events up to there. -/
def FindsFree (accepts : Netem T → Bool) (ctx : Ctx) (sched : Schedule T) : Prop :=
  ∀ earlier call later index machine netem, sched.calls ctx = earlier ++ call :: later →
    call.mark = .start index → sched.effectAt ctx index = some (.shape machine netem) →
      Follows accepts ctx sched earlier →
        (worldAfter accepts earlier machine).root ctx.iface = none ∧ accepts netem = true

def Contends (ctx : Ctx) (sched : Schedule T) (machine : String) (index : Nat) : Prop :=
  ∃ netem, sched.effectAt ctx index = some (.shape machine netem)

omit [LinearOrder T] [Zero T] [Add T] [NeverEarlier T] in
theorem Follows.root_none_iff (follows : Follows accepts ctx sched earlier) (machine : String) :
    (worldAfter accepts earlier machine).root ctx.iface = none ↔
      ∀ index ∈ live (earlier.map Call.mark), ¬Contends ctx sched machine index := by
  rw [Tracks.root_none_iff follows machine]
  simp only [Contends, not_exists, ne_eq]

omit [NeverEarlier T] in
theorem calls_split {earlierMarks laterMarks : List (Mark Nat)} {mark : Mark Nat}
    (split : (sched.calls ctx).map Call.mark = earlierMarks ++ mark :: laterMarks) :
    ∃ earlier call later, sched.calls ctx = earlier ++ call :: later ∧
      earlier.map Call.mark = earlierMarks ∧ call.mark = mark := by
  obtain ⟨earlier, rest, whole, front, back⟩ := List.map_eq_append_iff.mp split
  obtain ⟨call, later, rfl, marked, _⟩ := List.map_eq_cons_iff.mp back
  exact ⟨earlier, call, later, whole, front, marked⟩

variable (wellFormed : ∀ ev ∈ sched.events, ev.WellFormed sched.ringSize)
  (fits : ctx.Fits sched.ringSize) (runs : sched.Runs ctx)
  (targets : ∀ ev ∈ sched.events, ev.kind = .partition →
    ctx.instanceOf ev.node = ctx.instanceOf ev.frm)

include wellFormed fits runs targets

theorem follows_step {call : Call T} {later : List (Call T)} (free : FindsFree accepts ctx sched)
    (split : sched.calls ctx = earlier ++ call :: later)
    (follows : Follows accepts ctx sched earlier) :
    Follows accepts ctx sched (earlier ++ [call]) := by
  obtain ⟨index, ev, scripts, here, dispatched, marked⟩ := mem_calls (mem_of_split split)
  have step : worldAfter accepts (earlier ++ [call]) =
      (worldAfter accepts earlier).dispatch accepts call := by
    rw [worldAfter, List.foldl_append]
    rfl
  have marks : (sched.calls ctx).map Call.mark =
      earlier.map Call.mark ++ call.mark :: later.map Call.mark := by
    rw [split, List.map_append, List.map_cons]
  rw [Follows, step, List.map_append, List.map_singleton, World.dispatch]
  cases means : ev.effect ctx with
  | none =>
      have nothing : sched.effectAt ctx index = none := by
        rw [Schedule.effectAt, here, Option.bind_some, means]
      obtain ⟨inert, inert'⟩ := run_of_no_effect (wellFormed ev (List.mem_of_getElem? here)) fits
        means dispatched.generated accepts (worldAfter accepts earlier call.instanceId)
      rcases marked with marked | marked
      · rw [dispatched.started marked, inert, Function.update_eq_self, marked, live_append_start]
        exact follows.start_none nothing
      · rw [(dispatched.stopped marked).1, inert', Function.update_eq_self, marked,
          live_append_stop]
        exact follows.stop_none nothing
  | some effect =>
      have lists : sched.Lists ctx index ev effect := ⟨here, means⟩
      have placed := instanceOf_node wellFormed fits targets lists
      have machine : call.instanceId = effect.machine :=
        Option.some.inj (dispatched.instanceId.symm.trans placed)
      have generated := dispatched.generated
      rw [faults_of_effect means] at generated
      cases generated
      rcases marked with marked | marked
      · rw [dispatched.started marked, machine, marked, live_append_start]
        refine follows.start lists.effectAt ?_
        rintro machine' netem rfl
        exact free earlier call later index machine' netem split marked lists.effectAt follows
      · rw [(dispatched.stopped marked).1, machine, marked, live_append_stop]
        refine follows.stop ?_ lists.effectAt
        rw [marked] at marks
        exact (sched.timeline ctx runs wellFormed).live_of_stop marks

theorem follows_run (free : FindsFree accepts ctx sched) (front : earlier <+: sched.calls ctx) :
    Follows accepts ctx sched earlier := by
  induction earlier using List.reverseRecOn with
  | nil => exact tracks_clean
  | append_singleton earlier call ih =>
      obtain ⟨later, whole⟩ := front
      have split : sched.calls ctx = earlier ++ call :: later := by
        rw [← whole, List.append_assoc, List.singleton_append]
      exact follows_step wellFormed fits runs targets free split (ih ⟨_, split.symm⟩)

/-! ### Disciplines that are free -/

omit fits targets in
theorem start_split {index : Nat} {ev : Event T} (listed : sched.events[index]? = some ev) :
    ∃ earlier call later, sched.calls ctx = earlier ++ call :: later ∧
      call.mark = .start index := by
  obtain ⟨earlierMarks, laterMarks, split⟩ :=
    List.append_of_mem ((start_mem_marks runs wellFormed).mpr ⟨ev, listed⟩)
  obtain ⟨earlier, call, later, whole, _, marked⟩ := calls_split split
  exact ⟨earlier, call, later, whole, marked⟩

/-- Every netem event finds its discipline free when the netem events exclude
each other on every machine, and the other way round. -/
theorem findsFree_iff : FindsFree accepts ctx sched ↔
    (∀ machine, (sched.timeline ctx runs wellFormed).Exclusive (Contends ctx sched machine)) ∧
      ∀ index machine netem, sched.effectAt ctx index = some (.shape machine netem) →
        accepts netem = true := by
  constructor
  · intro free
    have along {earlier later : List (Call T)} {call : Call T}
        (split : sched.calls ctx = earlier ++ call :: later) : Follows accepts ctx sched earlier :=
      follows_run wellFormed fits runs targets free ⟨_, split.symm⟩
    constructor
    · intro machine earlierMarks index laterMarks split contender other running contender'
      obtain ⟨netem, means⟩ := contender
      obtain ⟨earlier, call, later, whole, rfl, marked⟩ := calls_split split
      have root := (free earlier call later index machine netem whole marked means (along whole)).1
      exact ((along whole).root_none_iff machine).mp root other running contender'
    · intro index machine netem means
      obtain ⟨ev, lists⟩ := effectAt_eq_some.mp means
      obtain ⟨earlier, call, later, whole, marked⟩ := start_split wellFormed runs lists.event
      exact (free earlier call later index machine netem whole marked means (along whole)).2
  · intro both earlier call later index machine netem split marked means follows
    obtain ⟨exclusive, accepted⟩ := both
    have marks : (sched.calls ctx).map Call.mark =
        earlier.map Call.mark ++ .start index :: later.map Call.mark := by
      rw [split, List.map_append, List.map_cons, marked]
    refine ⟨(follows.root_none_iff machine).mpr ?_, accepted index machine netem means⟩
    exact exclusive machine _ index _ marks ⟨netem, means⟩

omit fits targets in
theorem stop_mem_iff {index : Nat} {ev : Event T} {effect : Effect T}
    (lists : sched.Lists ctx index ev effect) :
    .stop index ∈ (sched.calls ctx).map Call.mark ↔ 0 < ev.duration := by
  rw [stop_mem_marks runs wellFormed]
  constructor
  · intro found
    obtain ⟨other, scripts, listed, _, _, lasts⟩ := found
    obtain rfl := Option.some.inj (lists.event.symm.trans listed)
    exact lasts
  · intro lasts
    exact ⟨ev, _, lists.event, faults_of_effect lists.effect, rfl, lasts⟩

omit fits targets in
theorem endsBefore_iff {index index' : Nat} {ev ev' : Event T} {effect effect' : Effect T}
    (lists : sched.Lists ctx index ev effect) (lists' : sched.Lists ctx index' ev' effect') :
    (sched.timeline ctx runs wellFormed).EndsBefore index index' ↔
      0 < ev.duration ∧ (ev.atOffset + ev.duration < ev'.atOffset ∨
        ev.atOffset + ev.duration = ev'.atOffset ∧ index < index') := by
  have ranks : markRank (.stop index) < markRank (.start index') ↔ index < index' := by
    change 2 * index + 1 < 2 * index' ↔ index < index'
    omega
  change (_ ∈ (sched.calls ctx).map Call.mark) ∧ sched.key _ < sched.key _ ↔ _
  rw [stop_mem_iff wellFormed runs lists, Schedule.key, Schedule.key, Prod.Lex.toLex_lt_toLex]
  simp only [ranks, Schedule.markTime, lists.event, lists'.event, Option.elim_some]

omit [NeverEarlier T] wellFormed fits runs targets in
theorem apart_of_lists {index index' : Nat} {ev ev' : Event T} {effect effect' : Effect T}
    (apart : sched.events.Pairwise (Event.Apart ctx)) (first : index < index')
    (lists : sched.Lists ctx index ev effect) (lists' : sched.Lists ctx index' ev' effect') :
    ev.Apart ctx ev' := by
  obtain ⟨within, rfl⟩ := List.getElem?_eq_some_iff.mp lists.event
  obtain ⟨within', rfl⟩ := List.getElem?_eq_some_iff.mp lists'.event
  exact List.pairwise_iff_getElem.mp apart index index' within within' first

omit fits targets in
theorem exclusive_iff_apart :
    (∀ machine, (sched.timeline ctx runs wellFormed).Exclusive (Contends ctx sched machine)) ↔
      sched.events.Pairwise (Event.Apart ctx) := by
  constructor
  · intro exclusive
    rw [List.pairwise_iff_getElem]
    intro index index' within within' first machine netem netem' means means'
    have lists : sched.Lists ctx index _ _ := ⟨List.getElem?_eq_getElem within, means⟩
    have lists' : sched.Lists ctx index' _ _ := ⟨List.getElem?_eq_getElem within', means'⟩
    rcases Timeline.exclusive_iff.mp (exclusive machine) index index' (Nat.ne_of_lt first)
        ⟨netem, lists.effectAt⟩ ⟨netem', lists'.effectAt⟩
        ((start_mem_marks runs wellFormed).mpr ⟨_, lists.event⟩)
        ((start_mem_marks runs wellFormed).mpr ⟨_, lists'.event⟩) with before | before
    · obtain ⟨lasts, less | ⟨same, _⟩⟩ := (endsBefore_iff wellFormed runs lists lists').mp before
      · exact .inl ⟨lasts, less.le⟩
      · exact .inl ⟨lasts, same.le⟩
    · obtain ⟨lasts, less | ⟨_, reversed⟩⟩ := (endsBefore_iff wellFormed runs lists' lists).mp before
      · exact .inr ⟨lasts, less⟩
      · exact absurd reversed (Nat.lt_asymm first)
  · intro apart machine
    have ordered {index index' : Nat} (first : index < index')
        (contender : Contends ctx sched machine index)
        (contender' : Contends ctx sched machine index') :
        (sched.timeline ctx runs wellFormed).EndsBefore index index' ∨
          (sched.timeline ctx runs wellFormed).EndsBefore index' index := by
      obtain ⟨netem, means⟩ := contender
      obtain ⟨netem', means'⟩ := contender'
      obtain ⟨ev, lists⟩ := effectAt_eq_some.mp means
      obtain ⟨ev', lists'⟩ := effectAt_eq_some.mp means'
      rcases apart_of_lists apart first lists lists' machine netem netem' lists.effect
          lists'.effect with ⟨lasts, early⟩ | ⟨lasts, less⟩
      · refine .inl ((endsBefore_iff wellFormed runs lists lists').mpr ⟨lasts, ?_⟩)
        rcases lt_or_eq_of_le early with less | same
        · exact .inl less
        · exact .inr ⟨same, first⟩
      · exact .inr ((endsBefore_iff wellFormed runs lists' lists).mpr ⟨lasts, .inl less⟩)
    apply Timeline.exclusive_iff.mpr
    intro index index' different contender contender' _ _
    rcases Nat.lt_or_gt_of_ne different with first | second
    · exact ordered first contender contender'
    · exact (ordered second contender' contender).symm

/-! ### The machines at a time -/

def Schedule.callsUntil (sched : Schedule T) (ctx : Ctx) (time : T) : List (Call T) :=
  (sched.calls ctx).filter (fun call => decide (call.time ≤ time))

omit fits targets in
theorem callsUntil_front (time : T) : sched.callsUntil ctx time <+: sched.calls ctx := by
  apply filter_until_front Call.time time
  apply (List.pairwise_map.mp (marks_sorted runs wellFormed)).imp_of_mem
  intro a b member member' less
  rw [call_time runs wellFormed member, call_time runs wellFormed member']
  rcases Prod.Lex.toLex_lt_toLex.mp less with less | ⟨same, _⟩
  · exact less.le
  · exact same.le

omit fits targets in
theorem mem_marks_until {time : T} {mark : Mark Nat} :
    mark ∈ (sched.callsUntil ctx time).map Call.mark ↔
      mark ∈ (sched.calls ctx).map Call.mark ∧ sched.markTime mark ≤ time := by
  rw [List.mem_map, List.mem_map]
  constructor
  · intro found
    obtain ⟨call, member, rfl⟩ := found
    obtain ⟨called, early⟩ := List.mem_filter.mp member
    rw [← call_time runs wellFormed called]
    exact ⟨⟨call, called, rfl⟩, of_decide_eq_true early⟩
  · intro found
    obtain ⟨⟨call, called, rfl⟩, early⟩ := found
    rw [← call_time runs wellFormed called] at early
    exact ⟨call, List.mem_filter.mpr ⟨called, decide_eq_true early⟩, rfl⟩

omit fits targets in
theorem live_until_iff {index : Nat} {ev : Event T} {effect : Effect T}
    (lists : sched.Lists ctx index ev effect) (time : T) :
    index ∈ live ((sched.callsUntil ctx time).map Call.mark) ↔ ev.Covers time := by
  have front := (callsUntil_front wellFormed runs time).map Call.mark
  have started : .start index ∈ (sched.calls ctx).map Call.mark :=
    (start_mem_marks runs wellFormed).mpr ⟨ev, lists.event⟩
  have starts : sched.markTime (.start index) = ev.atOffset := by
    simp only [Schedule.markTime, lists.event, Option.elim_some]
  have stops : sched.markTime (.stop index) = ev.atOffset + ev.duration := by
    simp only [Schedule.markTime, lists.event, Option.elim_some]
  rw [(sched.timeline ctx runs wellFormed).mem_live_iff front,
    mem_marks_until wellFormed runs, mem_marks_until wellFormed runs, starts, stops,
    stop_mem_iff wellFormed runs lists]
  constructor
  · intro both
    obtain ⟨⟨_, early⟩, unstopped⟩ := both
    refine ⟨early, fun lasts => ?_⟩
    exact lt_of_not_ge (fun late => unstopped ⟨lasts, late⟩)
  · intro both
    obtain ⟨early, ends⟩ := both
    refine ⟨⟨started, early⟩, ?_⟩
    intro both
    obtain ⟨lasts, late⟩ := both
    exact not_lt_of_ge late (ends lasts)

/-! ### The faults of a schedule -/

theorem faultsInForce_of_findsFree (free : FindsFree accepts ctx sched) :
    sched.FaultsInForce accepts ctx := by
  have along {earlier : List (Call T)} (front : earlier <+: sched.calls ctx) :
      Follows accepts ctx sched earlier := follows_run wellFormed fits runs targets free front
  have inForce (effect : Effect T) (time : T) :
      effect.InForce ctx.iface (sched.worldAt accepts ctx time) ↔
        ∃ index ev, sched.Lists ctx index ev effect ∧ ev.Covers time := by
    have follows := along (callsUntil_front wellFormed runs time)
    change effect.InForce ctx.iface (worldAfter accepts (sched.callsUntil ctx time)) ↔ _
    rw [Tracks.inForce_iff follows]
    constructor
    · intro found
      obtain ⟨index, running, means⟩ := found
      obtain ⟨ev, lists⟩ := effectAt_eq_some.mp means
      exact ⟨index, ev, lists, (live_until_iff wellFormed runs lists time).mp running⟩
    · intro found
      obtain ⟨index, ev, lists, covers⟩ := found
      exact ⟨index, (live_until_iff wellFormed runs lists time).mpr covers, lists.effectAt⟩
  constructor
  case active =>
    intro index ev effect lists time covers
    exact (inForce effect time).mpr ⟨index, ev, lists, covers⟩
  case healed =>
    intro index ev effect lists lasts time ended held
    obtain ⟨index', ev', lists', covers⟩ := (inForce effect time).mp held
    refine ⟨index', ev', ?_, lists', covers⟩
    rintro rfl
    obtain rfl := Option.some.inj (lists.event.symm.trans lists'.event)
    exact not_lt_of_ge ended (covers.2 lasts)
  case injected =>
    intro index ev effect lists
    obtain ⟨earlier, call, later, split, marked⟩ := start_split wellFormed runs lists.event
    obtain ⟨dispatched, commands⟩ := started_call lists split marked
    have placed := instanceOf_node wellFormed fits targets lists
    refine ⟨earlier, call, later, split, marked, ?_,
      Option.some.inj (dispatched.symm.trans placed), ?_⟩
    · rw [call_time runs wellFormed (mem_of_split split), marked]
      simp only [Schedule.markTime, lists.event, Option.elim_some]
    · rw [commands, completes_add_iff]
      rintro machine netem rfl
      exact free earlier call later index machine netem split marked lists.effectAt
        (along ⟨_, split.symm⟩)
  case kept =>
    intro earlier call later index split marked index' ev effect different lists running _
    have front : earlier ++ [call] <+: sched.calls ctx :=
      ⟨later, by rw [split, List.append_assoc, List.singleton_append]⟩
    have follows := along front
    refine (Tracks.inForce_iff follows).mpr ⟨index', ?_, lists.effectAt⟩
    rw [List.map_append, List.map_singleton, marked, live_append_stop]
    exact (Multiset.mem_erase_of_ne different).mpr running

omit fits targets in
theorem earlier_unique {earlier' later later' : List (Call T)} {call call' : Call T}
    (split : sched.calls ctx = earlier ++ call :: later)
    (split' : sched.calls ctx = earlier' ++ call' :: later') (same : call.mark = call'.mark) :
    earlier = earlier' ∧ call = call' := by
  have distinct : ((sched.calls ctx).map Call.mark).Nodup := by
    apply (marks_sorted runs wellFormed).imp
    intro a b less equal
    exact absurd less (equal ▸ lt_irrefl _)
  rw [split, List.map_append, List.map_cons] at distinct
  have fresh : call.mark ∉ earlier.map Call.mark := by
    intro member
    exact (List.disjoint_of_nodup_append distinct) member List.mem_cons_self
  have fresh' : call.mark ∉ later.map Call.mark :=
    (List.nodup_cons.mp distinct.of_append_right).1
  have absent : call' ∉ earlier := fun member => fresh (same ▸ List.mem_map_of_mem member)
  have absent' : call' ∉ later := fun member => fresh' (same ▸ List.mem_map_of_mem member)
  obtain ⟨front, equal, _⟩ :=
    (List.append_cons_inj_of_notMem absent absent').mp (split.symm.trans split')
  exact ⟨front, equal⟩

omit fits targets in
theorem findsFree_of_injected (inForce : sched.FaultsInForce accepts ctx) :
    FindsFree accepts ctx sched := by
  intro earlier call later index machine netem split marked means _
  obtain ⟨ev, lists⟩ := effectAt_eq_some.mp means
  obtain ⟨earlier', call', later', split', marked', _, _, completes⟩ :=
    inForce.injected index ev _ lists
  obtain ⟨rfl, rfl⟩ := earlier_unique wellFormed runs split split' (marked.trans marked'.symm)
  obtain ⟨_, commands⟩ := started_call lists split marked
  rw [commands] at completes
  exact completes_add_iff.mp completes machine netem rfl

end Running

/-! ### Which schedules they are -/

section Compatible

variable {T : Type} [LinearOrder T] [Zero T] [Add T] [NeverEarlier T] {ctx : Ctx}
  {sched : Schedule T} {accepts : Netem T → Bool}
  (wellFormed : ∀ ev ∈ sched.events, ev.WellFormed sched.ringSize)
  (fits : ctx.Fits sched.ringSize)

include wellFormed fits

theorem faultsInForce_of_compatible (compatible : sched.Compatible accepts ctx) :
    sched.FaultsInForce accepts ctx := by
  by_cases faulty : ∃ ev ∈ sched.events, ev.effect ctx ≠ none
  · have runs := runs_of_targets wellFormed fits (compatible.clocks faulty) compatible.targets
    apply faultsInForce_of_findsFree wellFormed fits runs compatible.targets
    apply (findsFree_iff wellFormed fits runs compatible.targets).mpr
    refine ⟨(exclusive_iff_apart wellFormed runs).mpr compatible.apart, ?_⟩
    intro index machine netem means
    obtain ⟨ev, lists⟩ := effectAt_eq_some.mp means
    exact compatible.accepted ev lists.mem machine netem lists.effect
  · -- no event is meant to put anything in force
    have unlisted {index : Nat} {ev : Event T} {effect : Effect T} :
        ¬sched.Lists ctx index ev effect := by
      intro lists
      apply faulty
      exact ⟨ev, lists.mem, Option.ne_none_iff_exists'.mpr ⟨effect, lists.effect⟩⟩
    constructor
    case active => exact fun _ _ _ lists => absurd lists unlisted
    case healed => exact fun _ _ _ lists => absurd lists unlisted
    case injected => exact fun _ _ _ lists => absurd lists unlisted
    case kept => exact fun _ _ _ _ _ _ _ _ _ _ lists => absurd lists unlisted

theorem compatible_of_faultsInForce (inForce : sched.FaultsInForce accepts ctx) :
    sched.Compatible accepts ctx := by
  have targets : ∀ ev ∈ sched.events, ev.kind = .partition →
      ctx.instanceOf ev.node = ctx.instanceOf ev.frm := by
    intro ev member kind
    obtain ⟨machine, dst, resolved, means⟩ := effect_of_partition (wellFormed ev member) fits kind
    obtain ⟨index, listed⟩ := List.mem_iff_getElem?.mp member
    obtain ⟨earlier, call, later, split, marked, _, placed, _⟩ :=
      inForce.injected index ev _ ⟨listed, means⟩
    obtain ⟨dispatched, _⟩ := started_call ⟨listed, means⟩ split marked
    rw [dispatched, placed, resolved]
    rfl
  have clocks : (∃ ev ∈ sched.events, ev.effect ctx ≠ none) →
      ∀ ev ∈ sched.events, ev.kind = .clockSkew → ev.secs ≠ none := by
    intro faulty skewed member' kind absent
    obtain ⟨ev, member, meant⟩ := faulty
    obtain ⟨effect, means⟩ := Option.ne_none_iff_exists'.mp meant
    obtain ⟨index, listed⟩ := List.mem_iff_getElem?.mp member
    obtain ⟨earlier, call, later, split, _⟩ := inForce.injected index ev effect ⟨listed, means⟩
    obtain ⟨scripts, generated⟩ := generated_of_mem_calls (mem_of_split split) skewed member'
    simp only [kind, faults, fClockSkew, absent, Option.map_none, reduceCtorEq] at generated
  by_cases faulty : ∃ ev ∈ sched.events, ev.effect ctx ≠ none
  · have runs := runs_of_targets wellFormed fits (clocks faulty) targets
    have free := findsFree_of_injected wellFormed runs inForce
    obtain ⟨exclusive, accepted⟩ := (findsFree_iff wellFormed fits runs targets).mp free
    refine ⟨clocks, targets, ?_, (exclusive_iff_apart wellFormed runs).mp exclusive⟩
    intro ev member machine netem means
    obtain ⟨index, listed⟩ := List.mem_iff_getElem?.mp member
    have lists : sched.Lists ctx index ev _ := ⟨listed, means⟩
    exact accepted index machine netem lists.effectAt
  · have effectless {ev : Event T} (member : ev ∈ sched.events) : ev.effect ctx = none := by
      by_contra meant
      exact faulty ⟨ev, member, meant⟩
    refine ⟨clocks, targets, ?_, ?_⟩
    · intro ev member machine netem means
      cases (effectless member).symm.trans means
    · apply List.pairwise_iff_getElem.mpr
      intro index _ within _ _ machine netem netem' means
      cases (effectless (List.getElem_mem within)).symm.trans means

end Compatible

/-- The faults of an accepted schedule are in force exactly in their windows if
and only if the schedule is compatible. -/
theorem faultsInForce_iff {T : Type} [LinearOrder T] [Zero T] [Add T] [NeverEarlier T]
    (accepts : Netem T → Bool) (ctx : Ctx) (sched : Schedule T) (valid : sched.validate = .ok ())
    (fits : ctx.Fits sched.ringSize) :
    sched.FaultsInForce accepts ctx ↔ sched.Compatible accepts ctx := by
  have wellFormed := Schedule.validate_ok valid
  constructor
  · intro inForce
    exact compatible_of_faultsInForce wellFormed fits inForce
  · intro compatible
    exact faultsInForce_of_compatible wellFormed fits compatible

def threeNodes : Ctx :=
  { instances := ["i-0", "i-1", "i-2"]
    ips := ["10.0.0.0", "10.0.0.1", "10.0.0.2"]
    iface := "ens5" }

def partitionEvent (frm toNode : Int) (atOffset duration : ℚ) : Event ℚ :=
  ⟨.partition, atOffset, duration, none, some frm, some toNode, none, none, none⟩

def lossEvent (target : Int) (atOffset duration pct : ℚ) : Event ℚ :=
  ⟨.netemLoss, atOffset, duration, some target, none, none, some pct, none, none⟩

def latencyEvent (target : Int) (atOffset duration ms : ℚ) : Event ℚ :=
  ⟨.netemLatency, atOffset, duration, some target, none, none, none, some ms, none⟩

/-- Partitions of one pair that overlap, and two netem events of one node that
meet, listed in the order they come. -/
def meeting : Schedule ℚ :=
  { ringSize := 3
    iface := "ens5"
    events := [partitionEvent 1 2 10 20, partitionEvent 1 2 20 20, lossEvent 0 0 10 5,
      latencyEvent 0 10 10 100] }

theorem meeting_built : buildCtx threeNodes.instances threeNodes.ips meeting = some threeNodes := rfl

theorem meeting_compatible : meeting.Compatible (fun _ => true) threeNodes := by
  constructor
  case clocks =>
    intro _ ev member kind
    simp only [meeting, List.mem_cons, List.not_mem_nil, or_false] at member
    rcases member with rfl | rfl | rfl | rfl <;> cases kind
  case targets =>
    intro ev member kind
    simp only [meeting, List.mem_cons, List.not_mem_nil, or_false] at member
    rcases member with rfl | rfl | rfl | rfl
    · rfl
    · rfl
    · cases kind
    · cases kind
  case accepted => exact fun _ _ _ _ _ => rfl
  case apart =>
    have dropped (frm toNode : Int) (atOffset duration : ℚ) (ev : Event ℚ)
        (drops : ∃ machine dst, (partitionEvent frm toNode atOffset duration).effect threeNodes =
          some (.drop machine dst)) :
        (partitionEvent frm toNode atOffset duration).Apart threeNodes ev := by
      intro machine netem netem' means
      obtain ⟨_, _, drops⟩ := drops
      cases drops.symm.trans means
    have met : (lossEvent 0 0 10 5).Apart threeNodes (latencyEvent 0 10 10 100) := by
      intro machine netem netem' _ _
      exact .inl ⟨by norm_num [lossEvent], by norm_num [lossEvent, latencyEvent]⟩
    exact .cons (fun ev _ => dropped 1 2 10 20 ev ⟨"i-1", "10.0.0.2", rfl⟩)
      (.cons (fun ev _ => dropped 1 2 20 20 ev ⟨"i-1", "10.0.0.2", rfl⟩)
        (List.pairwise_pair.mpr met))

theorem meeting_in_force : meeting.FaultsInForce (fun _ => true) threeNodes :=
  (faultsInForce_iff (fun _ => true) threeNodes meeting rfl (buildCtx_fits meeting_built)).mpr
    meeting_compatible

def overlapping : Schedule ℚ :=
  { ringSize := 3
    iface := "ens5"
    events := [lossEvent 1 0 20 5, latencyEvent 1 10 20 100] }

theorem overlapping_built :
    buildCtx threeNodes.instances threeNodes.ips overlapping = some threeNodes := rfl

theorem overlapping_calls : overlapping.calls threeNodes =
    [⟨0, "i-1", [.qdiscAdd "ens5" (.loss (some 5)), .echo], .start 0⟩,
      ⟨10, "i-1", [.qdiscAdd "ens5" (.delay (some 100)), .echo], .start 1⟩,
      ⟨20, "i-1", [.qdiscDel "ens5", .echo], .stop 0⟩,
      ⟨30, "i-1", [.qdiscDel "ens5", .echo], .stop 1⟩] := by
  have expanded : expand threeNodes 0 overlapping.events = some
      [⟨0, some 1, [.qdiscAdd "ens5" (.loss (some 5)), .echo], .netemLoss, .start 0⟩,
        ⟨0 + 20, some 1, [.qdiscDel "ens5", .echo], .netemLoss, .stop 0⟩,
        ⟨10, some 1, [.qdiscAdd "ens5" (.delay (some 100)), .echo], .netemLatency, .start 1⟩,
        ⟨10 + 20, some 1, [.qdiscDel "ens5", .echo], .netemLatency, .stop 1⟩] := by
    rfl
  rw [Schedule.calls, plan, expanded]
  norm_num [List.mergeSort, List.MergeSort.Internal.splitInTwo, List.splitAt, List.splitAt.go,
    List.merge, execute]
  rfl

/-- At 25 the latency is due and node 1 has no discipline: the loss was there
when it was added, and is over. -/
theorem overlapping_not_in_force : overlapping.validate = .ok () ∧ threeNodes.Fits 3 ∧
    (overlapping.worldAt (fun _ => true) threeNodes 25 "i-1").root "ens5" = none ∧
      ¬overlapping.FaultsInForce (fun _ => true) threeNodes := by
  have free : (overlapping.worldAt (fun _ => true) threeNodes 25 "i-1").root "ens5" = none := by
    rw [Schedule.worldAt, overlapping_calls]
    norm_num
    rfl
  refine ⟨rfl, buildCtx_fits overlapping_built, free, ?_⟩
  intro inForce
  have lists : overlapping.Lists threeNodes 1 (latencyEvent 1 10 20 100)
      (.shape "i-1" (.delay (some 100))) := ⟨rfl, rfl⟩
  have covers : (latencyEvent 1 10 20 100).Covers 25 := by
    constructor
    · norm_num [latencyEvent]
    · intro _
      norm_num [latencyEvent]
  have held := inForce.active 1 _ _ lists 25 covers
  cases held.symm.trans free

end TrainsValkey.FaultSequencer
