import TrainsValkey.LockWorkload

/-
The two verdicts on a run of the lock workload.

The load looks for acquisitions without a release among the events it recorded.
The verifier looks at the endpoint: whether the counter agrees with the recorded
acquisitions, and whether a lock is still held.  Either can be led astray by a
call that raised, the load by one that took effect and the verifier by one that
did not.
-/

set_option autoImplicit false

namespace TrainsValkey.LockChaos

open Demo (PyValue PyError)
open Library (Machine)

/-! ### The verdicts -/

def recorded (op : Op) (events : List LockEvent) : List String :=
  (events.filter (fun event => event.op = op)).map LockEvent.token

def orphaned (events : List LockEvent) : Int :=
  (recorded .acquire events).length - (recorded .release events).length

def loadStatus (events : List LockEvent) : Nat := if orphaned events = 0 then 0 else 2

/-- `int(counter) if counter else 0`, of a text that is ASCII. -/
def counterOf : PyValue → Option Int
  | .none => some 0
  | .str text => if text = "" then some 0 else Demo.signed (Demo.strip text.toList)
  | .int value => some value
  | .list items => if items.isEmpty then some 0 else none

structure Report where
  counterObserved : Int
  counterExpected : Int
  locksStillHeld : Nat

namespace Report

def counterMatch (report : Report) : Bool := report.counterObserved = report.counterExpected

def status (report : Report) : Nat :=
  if report.counterMatch && report.locksStillHeld = 0 then 0 else 1

end Report

section Verify

variable (endpoint : LockEndpoint)

def stillHeld : List String → endpoint.State → Option Nat
  | [], _ => some 0
  | key :: keys, st =>
      match endpoint.exec st ["GET", lockKey key] with
      | (.error _, _) => none
      | (.ok .none, st) => stillHeld keys st
      | (.ok _, st) => (stillHeld keys st).map (· + 1)

def verifyLocal (args : Args) (events : List LockEvent) (st : endpoint.State) : Option Report :=
  match endpoint.exec st ["GET", "ops"] with
  | (.error _, _) => none
  | (.ok counter, st) =>
      match counterOf counter with
      | none => none
      | some observed =>
          (stillHeld endpoint args.lockKeys st).map (fun held =>
            ⟨observed, (recorded .acquire events).length, held⟩)

variable {endpoint}

theorem counterOf_shown {value : Option String} {count : Nat} (stands : Shows value count) :
    counterOf (shown value) = some (count : Int) := by
  rcases stands with rfl | ⟨rfl, rfl⟩
  · have read : Demo.signed (Demo.strip (toString (count : Int)).toList) = some (count : Int) := by
      rw [Demo.strip_toString, Demo.signed_toString]
    have inhabited : toString count ≠ "" := by
      intro empty
      rw [show toString (count : Int) = "" from empty,
        show Demo.signed (Demo.strip "".toList) = none by decide] at read
      cases read
    rw [shown, counterOf, if_neg inhabited]
    exact read
  · rfl

theorem stillHeld_eq (keys : List String) (st : endpoint.State) :
    stillHeld endpoint keys st =
      some (keys.countP (fun key => (endpoint.value st (lockKey key)).isSome)) := by
  induction keys generalizing st with
  | nil => rfl
  | cons key keys ih =>
      obtain ⟨reply, same⟩ := endpoint.get_reply st (lockKey key)
      rw [stillHeld]
      generalize endpoint.exec st ["GET", lockKey key] = answered at reply same
      obtain ⟨result, next⟩ := answered
      simp only at reply same
      subst reply
      rw [← same] at *
      cases held : endpoint.value next (lockKey key) with
      | none =>
          simp only [shown]
          rw [ih, List.countP_cons_of_neg]
          simp [held]
      | some token =>
          simp only [shown]
          rw [ih, List.countP_cons_of_pos]
          · rfl
          · simp [held]

theorem verifyLocal_eq (args : Args) (events : List LockEvent) {st : endpoint.State} {count : Nat}
    (stands : Shows (endpoint.value st "ops") count) :
    verifyLocal endpoint args events st =
      some ⟨count, (recorded .acquire events).length,
        args.lockKeys.countP (fun key => (endpoint.value st (lockKey key)).isSome)⟩ := by
  obtain ⟨reply, same⟩ := endpoint.get_reply st "ops"
  rw [verifyLocal]
  generalize endpoint.exec st ["GET", "ops"] = answered at reply same
  obtain ⟨result, next⟩ := answered
  simp only at reply same
  subst reply
  simp only [counterOf_shown stands, stillHeld_eq, Option.map_some, same]

end Verify

theorem Report.status_eq_zero {report : Report} :
    report.status = 0 ↔
      report.counterObserved = report.counterExpected ∧ report.locksStillHeld = 0 := by
  unfold Report.status Report.counterMatch
  by_cases passes : report.counterObserved = report.counterExpected ∧ report.locksStillHeld = 0
  · simp [passes]
  · rw [iff_false_right passes]
    simp only [Bool.and_eq_true, decide_eq_true_eq]
    rw [if_neg passes]
    decide

theorem loadStatus_eq_zero {events : List LockEvent} :
    loadStatus events = 0 ↔
      (recorded .acquire events).length = (recorded .release events).length := by
  unfold loadStatus orphaned
  constructor
  · intro passes
    by_contra apart
    rw [if_neg (by omega)] at passes
    cases passes
  · intro same
    rw [if_pos (by omega)]

/-! ### What is recorded and what is counted -/

def Turn.bumped (turn : Turn) : Bool :=
  match turn.calls .incr with
  | .ran (.ok _) => true
  | _ => false

/-- The turn's `DEL` took effect and was answered, and the worker knows. -/
def Turn.Released (turn : Turn) : Prop :=
  (∃ value, turn.calls .del = .ran (.ok value)) ∧ turn.waiting ≠ some .del

theorem recorded_append (op : Op) (events more : List LockEvent) :
    recorded op (events ++ more) = recorded op events ++ recorded op more := by
  rw [recorded, List.filter_append, List.map_append]
  rfl

namespace Load

variable {endpoint : LockEndpoint} {args : Args} {key : String} {load next : Load endpoint}
  {input : Input}

/-- The counter stands at the bumps that took effect, every turn that was told
of its lock is recorded once, and so is every release, after its `DEL`. -/
structure Ledger (load : Load endpoint) : Prop where
  counter : Shows (endpoint.value load.store "ops") (load.turns.countP Turn.bumped)
  acquires : (recorded .acquire load.events).Nodup
  acquired : ∀ token, token ∈ recorded .acquire load.events ↔
    ∃ turn ∈ load.turns, turn.token = token ∧ turn.calls .incr ≠ .unsent
  releases : (recorded .release load.events).Nodup
  released : ∀ token ∈ recorded .release load.events,
    ∃ turn ∈ load.turns, turn.token = token ∧ turn.Released

theorem Ledger.start {store : endpoint.State} (clean : endpoint.value store "ops" = none) :
    (start store).Ledger where
  counter := .inr ⟨clean, rfl⟩
  acquires := List.nodup_nil
  acquired token := by
    constructor
    · exact fun member => nomatch member
    · exact fun ⟨_, member, _⟩ => nomatch member
  releases := List.nodup_nil
  released _ member := nomatch member

theorem exec_ops (st : endpoint.State) (turn : Turn) {verb : Verb} (other : verb ≠ .incr) :
    endpoint.value (endpoint.exec st (turn.argv args.ttl verb)).2 "ops" =
      endpoint.value st "ops" := by
  apply exec_other args st turn verb
  cases verb with
  | incr => exact absurd rfl other
  | setNx | get | del => exact (lockKey_ne_ops turn.key).symm

theorem exec_counts {st : endpoint.State} {count : Nat} (turn : Turn)
    (stands : Shows (endpoint.value st "ops") count) :
    (∃ value, (endpoint.exec st (turn.argv args.ttl .incr)).1 = .ok value) ∧
        Shows (endpoint.value (endpoint.exec st (turn.argv args.ttl .incr)).2 "ops") (count + 1) ∨
      (∃ e, (endpoint.exec st (turn.argv args.ttl .incr)).1 = .error e) ∧
        Shows (endpoint.value (endpoint.exec st (turn.argv args.ttl .incr)).2 "ops") count := by
  by_cases small : (count : Int) < i64Max
  · obtain ⟨reply, counted⟩ := endpoint.incr_counts st "ops" count stands small
    exact .inl ⟨⟨_, reply⟩, .inl ((congrFun counted _).trans (Function.update_self ..))⟩
  · obtain ⟨reply, same⟩ := endpoint.incr_full st "ops" count stands (Int.not_lt.mp small)
    refine .inr ⟨reply, ?_⟩
    rw [show endpoint.value (endpoint.exec st (turn.argv args.ttl .incr)).2 = _ from same]
    exact stands

theorem Ledger.runs (ledger : load.Ledger) {index : Nat} {verb : Verb} {turn : Turn}
    (found : load.turns[index]? = some turn) (sent : turn.calls verb = .sent) :
    Ledger
      { load with
        store := (endpoint.exec load.store (turn.argv args.ttl verb)).2
        turns := load.turns.set index
          (turn.put verb (.ran (endpoint.exec load.store (turn.argv args.ttl verb)).1)) } := by
  obtain ⟨rest, split, replaced⟩ := Library.exists_rest found
  generalize ran : (endpoint.exec load.store (turn.argv args.ttl verb)).1 = result
  have stands := ledger.counter
  rw [split.countP_eq, List.countP_cons] at stands
  refine ⟨?_, ledger.acquires, fun token => ?_, ledger.releases, fun token member => ?_⟩
  · rw [(replaced _).countP_eq, List.countP_cons]
    by_cases bump : verb = .incr
    · subst bump
      have before : turn.bumped = false := by rw [Turn.bumped, sent]
      rw [before] at stands
      rcases @exec_counts endpoint args load.store _ turn stands with
        ⟨⟨value, ok⟩, counted⟩ | ⟨⟨e, failed⟩, same⟩
      · have now : (turn.put .incr (.ran result)).bumped = true := by
          rw [Turn.bumped, Turn.put_self, ← ran, ok]
        rw [now]
        exact counted
      · have now : (turn.put .incr (.ran result)).bumped = false := by
          rw [Turn.bumped, Turn.put_self, ← ran, failed]
        rw [now]
        exact same
    · have now : (turn.put verb (.ran result)).bumped = turn.bumped := by
        rw [Turn.bumped, Turn.put_other (Ne.symm bump)]
        rfl
      rw [now]
      exact (exec_ops load.store turn bump) ▸ stands
  · rw [ledger.acquired token]
    simp only [split.mem_iff, (replaced _).mem_iff, List.mem_cons, exists_eq_or_imp,
      Turn.put_token, ne_eq, Turn.put_ran_unsent sent]
  · obtain ⟨other, member, same, done⟩ := ledger.released token member
    rcases List.mem_cons.mp (split.mem_iff.mp member) with rfl | member
    · refine ⟨_, (replaced _).mem_iff.mpr List.mem_cons_self, same, ?_, done.2⟩
      obtain ⟨value, del⟩ := done.1
      exact ⟨value, Turn.put_kept sent del⟩
    · exact ⟨other, (replaced _).mem_iff.mpr (List.mem_cons_of_mem _ member), same, done⟩

theorem recorded_event (kind : Op) (turn : Turn) (op : Option Op) (kept : kind ≠ .miss) :
    recorded kind (op.map turn.event).toList = if op = some kind then [turn.token] else [] := by
  cases op with
  | none => rfl
  | some op =>
      cases kind with
      | miss => exact absurd rfl kept
      | acquire | release => cases op <;> rfl

theorem Ledger.replace (ledger : load.Ledger) (distinct : (load.turns.map Turn.token).Nodup)
    {index : Nat} {turn further : Turn} {op : Option Op} (found : load.turns[index]? = some turn)
    (sameToken : further.token = turn.token) (bumped : further.bumped = turn.bumped)
    (acquires : if op = some .acquire then
        turn.calls .incr = .unsent ∧ further.calls .incr ≠ .unsent
      else (further.calls .incr = .unsent ↔ turn.calls .incr = .unsent))
    (releases : if op = some .release then ¬turn.Released ∧ further.Released
      else turn.Released → further.Released) :
    Ledger ⟨load.store, load.turns.set index further,
      load.events ++ (op.map turn.event).toList⟩ := by
  obtain ⟨rest, split, replaced⟩ := Library.exists_rest found
  have own {other : Turn} (member : other ∈ load.turns) (same : other.token = turn.token) :
      other = turn :=
    List.inj_on_of_nodup_map distinct member (List.mem_of_getElem? found) same
  have acquired (token : String) : token ∈ recorded .acquire load.events ↔
      (turn.token = token ∧ turn.calls .incr ≠ .unsent) ∨
        ∃ other ∈ rest, other.token = token ∧ other.calls .incr ≠ .unsent := by
    rw [ledger.acquired token]
    simp only [split.mem_iff, List.mem_cons, exists_eq_or_imp]
  constructor
  · rw [(replaced further).countP_eq, List.countP_cons, bumped, ← List.countP_cons,
      ← split.countP_eq]
    exact ledger.counter
  · simp only [recorded_append, recorded_event .acquire turn op (by decide)]
    by_cases here : op = some .acquire
    · rw [if_pos here] at acquires ⊢
      refine List.nodup_append.mpr ⟨ledger.acquires, List.nodup_singleton _, ?_⟩
      rintro token member _ member' rfl
      rw [List.mem_singleton.mp member'] at member
      obtain ⟨other, member, same, sent⟩ := (ledger.acquired _).mp member
      rw [own member same] at sent
      exact sent acquires.1
    · rw [if_neg here, List.append_nil]
      exact ledger.acquires
  · intro token
    simp only [recorded_append, recorded_event .acquire turn op (by decide), List.mem_append,
      acquired token, (replaced further).mem_iff, List.mem_cons, exists_eq_or_imp, sameToken]
    by_cases here : op = some .acquire
    · rw [if_pos here] at acquires ⊢
      rw [List.mem_singleton]
      have never : ¬(turn.token = token ∧ turn.calls .incr ≠ .unsent) :=
        fun sent => sent.2 acquires.1
      rw [or_iff_right never, and_iff_left acquires.2, or_comm, eq_comm]
    · rw [if_neg here] at acquires ⊢
      rw [or_iff_left List.not_mem_nil, ne_eq, ne_eq, acquires]
  · simp only [recorded_append, recorded_event .release turn op (by decide)]
    by_cases here : op = some .release
    · rw [if_pos here] at releases ⊢
      refine List.nodup_append.mpr ⟨ledger.releases, List.nodup_singleton _, ?_⟩
      rintro token member _ member' rfl
      rw [List.mem_singleton.mp member'] at member
      obtain ⟨other, member, same, done⟩ := ledger.released _ member
      rw [own member same] at done
      exact releases.1 done
    · rw [if_neg here, List.append_nil]
      exact ledger.releases
  · intro token member
    simp only [recorded_append, recorded_event .release turn op (by decide),
      List.mem_append] at member
    have mine : further ∈ load.turns.set index further :=
      (replaced further).mem_iff.mpr List.mem_cons_self
    rcases member with member | member
    · obtain ⟨other, member, same, done⟩ := ledger.released token member
      rcases List.mem_cons.mp (split.mem_iff.mp member) with rfl | member
      · refine ⟨further, mine, sameToken.trans same, ?_⟩
        by_cases here : op = some .release
        · rw [if_pos here] at releases
          exact releases.2
        · rw [if_neg here] at releases
          exact releases done
      · exact ⟨other, (replaced further).mem_iff.mpr (List.mem_cons_of_mem _ member), same, done⟩
    · by_cases here : op = some .release
      · rw [if_pos here] at releases member
        exact ⟨further, mine, sameToken.trans (List.mem_singleton.mp member).symm, releases.2⟩
      · rw [if_neg here] at member
        cases member

theorem Ledger.settle (ledger : load.Ledger) (kept : load.Kept key) {index : Nat} {verb : Verb}
    {turn : Turn} {result : Option PyValue} (found : load.turns[index]? = some turn)
    (waits : turn.waiting = some verb) (known : turn.Known verb result) :
    (load.settle index turn verb result).Ledger := by
  have fresh {later : Verb} (behind : verb.rank < later.rank) : turn.calls later = .unsent :=
    (kept.sound turn (List.mem_of_getElem? found)).last verb waits later behind
  have unreleased (behind : verb.rank < Verb.del.rank) : ¬turn.Released := by
    rintro ⟨⟨value, done⟩, _⟩
    exact Turn.made_of_ran done (fresh behind)
  have goes := turn.goesOn_cases verb result
  unfold Load.settle
  generalize turn.goesOn verb result = went at goes
  obtain ⟨op, next⟩ := went
  apply ledger.replace kept.distinct found (Turn.await_token next)
  · cases goes with
    | acquires =>
        have before : turn.calls .incr = .unsent := fresh (by decide)
        rw [Turn.bumped, Turn.bumped, before, Turn.await_self]
    | misses | bumps | owns | disowns | releases | givesUp => rfl
  · cases goes with
    | acquires =>
        rw [if_pos rfl]
        exact ⟨fresh (by decide), Turn.made_of_sent Turn.await_self⟩
    | misses | bumps | owns | disowns | releases | givesUp => exact Iff.rfl
  · cases goes with
    | acquires => exact fun done => absurd done (unreleased (by decide))
    | bumps => exact fun done => absurd done (unreleased (by decide))
    | owns => exact fun done => absurd done (unreleased (by decide))
    | releases =>
        rw [if_pos rfl]
        exact ⟨fun done => done.2 waits, ⟨_, known _ rfl⟩, fun same => nomatch same⟩
    | misses | disowns | givesUp => exact fun done => ⟨done.1, fun same => nomatch same⟩

theorem Ledger.step (ledger : load.Ledger) (kept : load.Kept key) :
    (load.step args input).Ledger := by
  rcases load.step_cases args input with same | moves
  · rw [same]
    exact ledger
  · generalize load.step args input = next at moves
    cases moves with
    | begins listed =>
        rename_i worker name token
        refine ⟨?_, ledger.acquires, fun token => ?_, ledger.releases, fun token member => ?_⟩
        · rw [List.countP_append]
          exact ledger.counter
        · rw [ledger.acquired token]
          constructor
          · rintro ⟨turn, member, told⟩
            exact ⟨turn, List.mem_append_left _ member, told⟩
          · rintro ⟨turn, member, same, sent⟩
            rcases List.mem_append.mp member with member | member
            · exact ⟨turn, member, same, sent⟩
            · rw [List.mem_singleton.mp member] at sent
              exact absurd rfl sent
        · obtain ⟨turn, member, done⟩ := ledger.released token member
          exact ⟨turn, List.mem_append_left _ member, done⟩
    | runs found sent => exact ledger.runs found sent
    | returns found waits ran => exact ledger.settle kept found waits (Turn.known_toOption ran)
    | raises found waits => exact ledger.settle kept found waits (fun _ same => nomatch same)
    | lapses =>
        rename_i other
        refine ⟨?_, ledger.acquires, ledger.acquired, ledger.releases, ledger.released⟩
        have same := congrFun (endpoint.lapse_effect load.store (lockKey other)) "ops"
        rw [Function.update_of_ne (lockKey_ne_ops other).symm] at same
        exact same ▸ ledger.counter

theorem ledger_after {store : endpoint.State} {inputs : List Input}
    (clean : endpoint.value store = fun _ => none) (fresh : (tokens inputs).Nodup)
    (stays : ∀ key, .lapses key ∉ inputs) : (after args store inputs).Ledger := by
  have free (key : String) : endpoint.value store key = none := congrFun clean key
  have both := (machine endpoint args).run_guarded
    (fun load input (both : load.Kept "k0" ∧ load.Ledger) undisturbed =>
      ⟨both.1.step undisturbed, both.2.step both.1⟩)
    ⟨Kept.start (free _), Ledger.start (free _)⟩ inputs (undisturbed_after fresh (stays "k0"))
  exact both.2

end Load

/-! ### When the verdicts are good -/

section Verdicts

variable {endpoint : LockEndpoint} {args : Args} {load : Load endpoint}

theorem counts_agree (ledger : load.Ledger) (distinct : (load.turns.map Turn.token).Nodup) :
    load.turns.countP Turn.bumped = (recorded .acquire load.events).length ↔
      ∀ turn ∈ load.turns, turn.calls .incr ≠ .unsent → turn.bumped = true := by
  have own {turn other : Turn} (member : turn ∈ load.turns) (member' : other ∈ load.turns)
      (same : turn.token = other.token) : turn = other :=
    List.inj_on_of_nodup_map distinct member member' same
  have bumpers : (((load.turns.filter Turn.bumped).map Turn.token).Nodup) :=
    distinct.sublist ((List.filter_sublist).map Turn.token)
  have within : (load.turns.filter Turn.bumped).map Turn.token ⊆
      recorded .acquire load.events := by
    intro token member
    obtain ⟨turn, chosen, rfl⟩ := List.mem_map.mp member
    obtain ⟨inTurns, bumped⟩ := List.mem_filter.mp chosen
    refine (ledger.acquired _).mpr ⟨turn, inTurns, rfl, fun unsent => ?_⟩
    rw [Turn.bumped, unsent] at bumped
    cases bumped
  rw [List.countP_eq_length_filter, ← List.length_map (f := Turn.token), eq_comm,
    Library.length_eq_iff_subset bumpers ledger.acquires within]
  constructor
  · intro subset turn member told
    have listed := subset ((ledger.acquired _).mpr ⟨turn, member, rfl, told⟩)
    obtain ⟨other, member', same⟩ := List.mem_map.mp listed
    obtain ⟨member', bumped⟩ := List.mem_filter.mp member'
    rw [← own member' member same]
    exact bumped
  · intro all token member
    obtain ⟨turn, inTurns, rfl, told⟩ := (ledger.acquired token).mp member
    exact List.mem_map_of_mem (List.mem_filter.mpr ⟨inTurns, all turn inTurns told⟩)

theorem loadStatus_iff (ledger : load.Ledger) (sound : ∀ turn ∈ load.turns, turn.Sound) :
    loadStatus load.events = 0 ↔
      ∀ turn ∈ load.turns, turn.calls .incr ≠ .unsent →
        turn.token ∈ recorded .release load.events := by
  have within : recorded .release load.events ⊆ recorded .acquire load.events := by
    intro token member
    obtain ⟨turn, member, same, ⟨value, done⟩, _⟩ := ledger.released token member
    exact (ledger.acquired token).mpr
      ⟨turn, member, same, (sound turn member).told_of_del (Turn.made_of_ran done)⟩
  rw [loadStatus_eq_zero, Library.length_eq_iff_subset ledger.releases ledger.acquires within]
  constructor
  · exact fun subset turn member told => subset ((ledger.acquired _).mpr ⟨turn, member, rfl, told⟩)
  · intro all token member
    obtain ⟨turn, inTurns, rfl, told⟩ := (ledger.acquired token).mp member
    exact all turn inTurns told

theorem not_holds_of_recorded (ledger : load.Ledger)
    (distinct : (load.turns.map Turn.token).Nodup) {turn : Turn} (member : turn ∈ load.turns)
    (listed : turn.token ∈ recorded .release load.events) : ¬turn.Holds := by
  obtain ⟨other, member', same, ⟨value, done⟩, _⟩ := ledger.released turn.token listed
  rw [List.inj_on_of_nodup_map distinct member' member same] at done
  exact fun holds => holds.2 _ done

theorem unheld_iff (kept : ∀ key, load.Kept key)
    (listed : ∀ turn ∈ load.turns, turn.key ∈ args.lockKeys) :
    args.lockKeys.countP (fun key => (endpoint.value load.store (lockKey key)).isSome) = 0 ↔
      ∀ turn ∈ load.turns, ¬turn.Holds := by
  rw [List.countP_eq_zero]
  constructor
  · intro unheld turn member holds
    have held := ((kept turn.key).tracks turn.token).mpr ⟨turn, member, rfl, rfl, holds⟩
    exact unheld turn.key (listed turn member) (held ▸ rfl)
  · intro unheld key _ held
    obtain ⟨token, here⟩ := Option.isSome_iff_exists.mp held
    obtain ⟨turn, member, _, _, holds⟩ := ((kept key).tracks token).mp here
    exact unheld turn member holds

theorem verifyLocal_passes_iff (kept : ∀ key, load.Kept key) (ledger : load.Ledger)
    (listed : ∀ turn ∈ load.turns, turn.key ∈ args.lockKeys) :
    ∃ report, verifyLocal endpoint args load.events load.store = some report ∧
      (report.status = 0 ↔ ∀ turn ∈ load.turns,
        (turn.calls .incr ≠ .unsent → turn.bumped = true) ∧ ¬turn.Holds) := by
  refine ⟨_, verifyLocal_eq args load.events ledger.counter, ?_⟩
  rw [Report.status_eq_zero]
  simp only
  rw [Int.ofNat_inj, counts_agree ledger (kept "k0").distinct, unheld_iff kept listed]
  constructor
  · exact fun passes turn member => ⟨passes.1 turn member, passes.2 turn member⟩
  · exact fun passes => ⟨fun turn member => (passes turn member).1,
      fun turn member => (passes turn member).2⟩

end Verdicts

/-- The verifier passes exactly when every `INCR` of a turn that was told of its
lock took effect and no lock that was granted is left, whoever was told of it;
the load passes exactly when every turn that was told of its lock recorded its
release.  A lock whose release is recorded is given back. -/
theorem verdicts_iff (endpoint : LockEndpoint) (args : Args) (store : endpoint.State)
    (clean : endpoint.value store = fun _ => none) (inputs : List Input)
    (fresh : (tokens inputs).Nodup) (stays : ∀ key, .lapses key ∉ inputs) :
    let load := Load.after args store inputs
    (∃ report, verifyLocal endpoint args load.events load.store = some report ∧
      (report.status = 0 ↔ ∀ turn ∈ load.turns,
        (turn.calls .incr ≠ .unsent → turn.bumped = true) ∧ ¬turn.Holds)) ∧
    (loadStatus load.events = 0 ↔ ∀ turn ∈ load.turns, turn.calls .incr ≠ .unsent →
      turn.token ∈ recorded .release load.events) ∧
    ∀ turn ∈ load.turns, turn.token ∈ recorded .release load.events → ¬turn.Holds := by
  intro load
  have kept (key : String) : load.Kept key :=
    Load.kept_after (congrFun clean _) fresh (stays key)
  have ledger : load.Ledger := Load.ledger_after clean fresh stays
  refine ⟨verifyLocal_passes_iff kept ledger (fun turn member =>
    (Load.turn_after store inputs member).2), loadStatus_iff ledger (kept "k0").sound, ?_⟩
  exact fun turn member => not_holds_of_recorded ledger (kept "k0").distinct member

def lostSet : List Input := [.begins 0 "k0" "a", .runs 0 .setNx, .raises 0]

def lostLoad : Load strings := Load.after oneLock (fun _ => none) lostSet

/-- Nothing is recorded, and the lock is left. -/
theorem lostSet_verdicts :
    loadStatus lostLoad.events = 0 ∧
      ∃ report, verifyLocal strings oneLock lostLoad.events lostLoad.store = some report ∧
        report.status ≠ 0 := by
  obtain ⟨⟨report, verified, passes⟩, recorded, _⟩ :=
    verdicts_iff strings oneLock (fun _ => none) rfl lostSet (by decide)
      (fun key member => by simp [lostSet] at member)
  have granted : ∃ turn ∈ lostLoad.turns, turn.Holds :=
    ⟨_, List.mem_cons_self, rfl, fun result ran => nomatch ran⟩
  obtain ⟨turn, member, holds⟩ := granted
  refine ⟨recorded.mpr ?_, report, verified, fun passed => (passes.mp passed turn member).2 holds⟩
  exact List.forall_mem_singleton.mpr (fun told => absurd rfl told)

/-! ### Runs in which no call raises -/

/-- A turn none of whose calls raised so far: it waits for whatever is under
way, finds its own token in the lock, and is not over before its release. -/
structure Turn.Settled (events : List LockEvent) (turn : Turn) : Prop where
  waits : ∀ verb, turn.calls verb = .sent → turn.waiting = some verb
  looks : ∀ value, turn.calls .get = .ran (.ok value) → value = .str turn.token
  done : turn.waiting = none → (∀ verb e, turn.calls verb ≠ .ran (.error e)) → turn.Granted →
    turn.token ∈ recorded .release events

namespace Turn

variable {turn : Turn} {verb : Verb} {events : List LockEvent}

theorem settled_begun (worker : Nat) (key token : String) :
    (begun worker key token).Settled events where
  waits verb sent := by
    cases verb with
    | setNx => rfl
    | incr | get | del => cases sent
  looks _ ran := nomatch ran
  done waits := nomatch waits

theorem Settled.mono (settled : turn.Settled events) (more : List LockEvent) :
    turn.Settled (events ++ more) where
  waits := settled.waits
  looks := settled.looks
  done finished answered granted := by
    rw [recorded_append]
    exact List.mem_append_left _ (settled.done finished answered granted)

theorem Settled.put_ran (settled : turn.Settled events) (sent : turn.calls verb = .sent)
    {result : Except PyError PyValue}
    (looks : verb = .get → ∀ value, result = .ok value → value = .str turn.token) :
    (turn.put verb (.ran result)).Settled events where
  waits other sent' := by
    by_cases same : other = verb
    · rw [same, put_self] at sent'
      cases sent'
    · rw [put_other same] at sent'
      exact settled.waits other sent'
  looks value ran := by
    by_cases same : verb = .get
    · subst same
      rw [put_self] at ran
      exact looks rfl value (Call.ran.inj ran)
    · rw [put_other (Ne.symm same)] at ran
      exact settled.looks value ran
  done finished := by
    have waits := settled.waits verb sent
    rw [put_waiting, waits] at finished
    cases finished

theorem Settled.goesOn (settled : turn.Settled events) (waits : turn.waiting = some verb)
    {result : Except PyError PyValue} (ran : turn.calls verb = .ran result) {op : Option Op}
    {next : Option Verb} (goes : GoesOn turn verb result.toOption op next) :
    (turn.await next).Settled (events ++ (op.map turn.event).toList) where
  waits other sent := by
    have unsent : turn.calls other ≠ .sent := by
      intro sent
      obtain rfl := Option.some.inj (waits.symm.trans (settled.waits other sent))
      rw [ran] at sent
      cases sent
    cases next with
    | none => exact absurd sent unsent
    | some next =>
        by_cases same : other = next
        · exact congrArg some same.symm
        · exact absurd ((put_other same _).symm.trans sent) unsent
  looks value looked := by
    rw [await_token]
    cases next with
    | none => exact settled.looks value looked
    | some next =>
        by_cases same : next = .get
        · rw [same, await_self] at looked
          cases looked
        · exact settled.looks value ((put_other (Ne.symm same) _).symm.trans looked)
  done finished answered granted := by
    generalize known : result.toOption = told at goes
    have returned {value : PyValue} (same : told = some value) :
        turn.calls verb = .ran (.ok value) := known_toOption ran value (known.trans same)
    rw [await_token, recorded_append]
    cases goes with
    | acquires => cases finished
    | bumps => cases finished
    | owns => cases finished
    | misses refused =>
        have same := (returned rfl).symm.trans granted
        cases same
        exact absurd rfl refused
    | disowns foreign => exact absurd (settled.looks _ (returned rfl)) foreign
    | releases => exact List.mem_append_right _ List.mem_cons_self
    | givesUp caught =>
        cases result with
        | ok value => cases known
        | error e => exact absurd ran (answered verb e)

end Turn

namespace Load

variable {endpoint : LockEndpoint} {args : Args} {load next : Load endpoint} {input : Input}

theorem settled_step (settled : ∀ turn ∈ load.turns, turn.Settled load.events)
    (kept : ∀ key, load.Kept key) (calm : ∀ index, input ≠ .raises index) :
    ∀ turn ∈ (load.step args input).turns, turn.Settled (load.step args input).events := by
  rcases load.step_cases args input with same | moves
  · rw [same]
    exact settled
  · generalize load.step args input = next at moves
    intro turn member
    cases moves with
    | begins listed =>
        rcases List.mem_append.mp member with member | member
        · exact settled turn member
        · rw [List.mem_singleton.mp member]
          exact Turn.settled_begun _ _ _
    | runs found sent =>
        rename_i index verb before
        rcases List.mem_or_eq_of_mem_set member with member | rfl
        · exact settled turn member
        · have here := List.mem_of_getElem? found
          refine (settled before here).put_ran sent ?_
          rintro rfl value looked
          -- the lock is still the turn's when its look runs
          have held := ((kept before.key).sound before here).holds_of_get_sent sent
          have token := ((kept before.key).tracks before.token).mpr ⟨before, here, rfl, rfl, held⟩
          have reply := (endpoint.get_reply load.store (lockKey before.key)).1
          rw [token] at reply
          exact (Except.ok.inj (reply.symm.trans looked)).symm
    | returns found waits ran =>
        rename_i index verb before result
        rcases List.mem_or_eq_of_mem_set member with member | rfl
        · exact (settled turn member).mono _
        · exact (settled before (List.mem_of_getElem? found)).goesOn waits ran
            (before.goesOn_cases verb result.toOption)
    | raises found waits => exact absurd rfl (calm _)
    | lapses => exact settled turn member

theorem settled_after {store : endpoint.State} {inputs : List Input}
    (clean : endpoint.value store = fun _ => none) (fresh : (tokens inputs).Nodup)
    (stays : ∀ key, .lapses key ∉ inputs) (calm : ∀ index, .raises index ∉ inputs) :
    ∀ turn ∈ (after args store inputs).turns,
      turn.Settled (after args store inputs).events := by
  induction inputs using List.reverseRecOn with
  | nil => exact fun _ member => nomatch member
  | append_singleton earlier input ih =>
      have fresh' : (tokens earlier).Nodup := by
        rw [tokens, List.filterMap_append] at fresh
        exact (List.nodup_append.mp fresh).1
      have stays' (key : String) : .lapses key ∉ earlier :=
        fun member => stays key (List.mem_append_left _ member)
      rw [after_snoc]
      refine settled_step (ih fresh' stays' (fun index member =>
        calm index (List.mem_append_left _ member))) (fun key =>
        kept_after (congrFun clean _) fresh' (stays' key)) ?_
      rintro index rfl
      exact calm index (List.mem_append_right _ List.mem_cons_self)

end Load

/-- A run in which no call raises passes both checks once all its turns are over. -/
theorem calm_run_passes (endpoint : LockEndpoint) (args : Args) (store : endpoint.State)
    (clean : endpoint.value store = fun _ => none) (inputs : List Input)
    (fresh : (tokens inputs).Nodup) (stays : ∀ key, .lapses key ∉ inputs)
    (calm : ∀ index, .raises index ∉ inputs)
    (answered : ∀ turn ∈ (Load.after args store inputs).turns, ∀ verb e,
      turn.calls verb ≠ .ran (.error e))
    (finished : ∀ turn ∈ (Load.after args store inputs).turns, turn.waiting = none) :
    let load := Load.after args store inputs
    loadStatus load.events = 0 ∧
      ∃ report, verifyLocal endpoint args load.events load.store = some report ∧
        report.status = 0 := by
  intro load
  have kept (key : String) : load.Kept key :=
    Load.kept_after (congrFun clean _) fresh (stays key)
  have ledger : load.Ledger := Load.ledger_after clean fresh stays
  have settled : ∀ turn ∈ load.turns, turn.Settled load.events :=
    Load.settled_after clean fresh stays calm
  have released {turn : Turn} (member : turn ∈ load.turns) (granted : turn.Granted) :
      turn.token ∈ recorded .release load.events :=
    (settled turn member).done (finished turn member) (answered turn member) granted
  constructor
  · rw [loadStatus_iff ledger (kept "k0").sound]
    exact fun turn member told => released member (((kept "k0").sound turn member).granted told)
  · obtain ⟨report, verified, passes⟩ := verifyLocal_passes_iff kept ledger
      (fun turn member => (Load.turn_after store inputs member).2)
    refine ⟨report, verified, passes.mpr (fun turn member => ⟨fun told => ?_, fun holds => ?_⟩)⟩
    · rw [Turn.bumped]
      cases call : turn.calls .incr with
      | unsent => exact absurd call told
      | sent =>
          have waits := (settled turn member).waits .incr call
          rw [finished turn member] at waits
          cases waits
      | ran result =>
          cases result with
          | ok value => rfl
          | error e => exact absurd call (answered turn member .incr e)
    · exact not_holds_of_recorded ledger (kept "k0").distinct member
        (released member holds.1) holds

def twoWorkers : List Input :=
  [.begins 0 "k0" "a", .begins 1 "k0" "b", .runs 0 .setNx, .runs 1 .setNx, .returns 1, .returns 0,
    .runs 0 .incr, .returns 0, .runs 0 .get, .returns 0, .runs 0 .del, .begins 1 "k0" "c",
    .runs 2 .setNx, .returns 0, .returns 2, .runs 2 .incr, .returns 2, .runs 2 .get, .returns 2,
    .runs 2 .del, .returns 2]

def sharedLoad : Load strings := Load.after oneLock (fun _ => none) twoWorkers

theorem twoWorkers_pass :
    loadStatus sharedLoad.events = 0 ∧
      ∃ report, verifyLocal strings oneLock sharedLoad.events sharedLoad.store = some report ∧
        report.status = 0 := by
  apply calm_run_passes strings oneLock (fun _ => none) rfl twoWorkers (by decide)
  · exact fun key member => by simp [twoWorkers] at member
  · exact fun index member => by simp [twoWorkers] at member
  · refine List.forall_mem_cons.mpr ⟨?_, List.forall_mem_cons.mpr ⟨?_,
      List.forall_mem_singleton.mpr ?_⟩⟩
    all_goals
      intro verb e failed
      cases verb <;> cases failed
  · decide

end TrainsValkey.LockChaos
