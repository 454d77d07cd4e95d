import Mathlib.Data.List.Nodup
import Mathlib.Logic.Function.Basic
import TrainsValkey.DemoClient
import TrainsValkey.Library.Listing
import TrainsValkey.Library.Mealy

/-
The lock workload of the demos: any number of workers take locks, bump a
shared counter and give the locks back.

A call can raise at any time.  Whether the endpoint ran it by then, runs it
later, or never does, the worker is not told, and goes on: to the next call of
its turn where it swallows the exception, to its next turn where it does not.
Worker by worker and call by call, every interleaving is a run.
-/

set_option autoImplicit false

namespace TrainsValkey.LockChaos

open Demo (PyValue PyError)
open Library (Machine)

/-! ### The endpoint -/

def lockKey (key : String) : String := "lock:" ++ key

def shown : Option String → PyValue
  | some text => .str text
  | none => .none

def Shows (value : Option String) (count : Nat) : Prop :=
  value = some (toString count) ∨ value = none ∧ count = 0

/-- What the workload relies on of the engine it talks to: the values of keys,
what its four commands do to them, and keys whose time to live is over. -/
structure LockEndpoint where
  State : Type
  value : State → String → Option String
  exec : State → List String → Except PyError PyValue × State
  lapse : State → String → State
  set_free : ∀ st key token ttl, 0 < ttl → value st key = none →
    (exec st ["SET", key, token, "NX", "EX", toString ttl]).1 = .ok (.str "OK") ∧
      value (exec st ["SET", key, token, "NX", "EX", toString ttl]).2 =
        Function.update (value st) key (some token)
  set_taken : ∀ st key token ttl, 0 < ttl → value st key ≠ none →
    (exec st ["SET", key, token, "NX", "EX", toString ttl]).1 = .ok .none ∧
      value (exec st ["SET", key, token, "NX", "EX", toString ttl]).2 = value st
  incr_counts : ∀ st key count, Shows (value st key) count → (count : Int) < i64Max →
    (exec st ["INCR", key]).1 = .ok (.int (count + 1)) ∧
      value (exec st ["INCR", key]).2 =
        Function.update (value st) key (some (toString (count + 1)))
  incr_other : ∀ st key other, other ≠ key →
    value (exec st ["INCR", key]).2 other = value st other
  incr_full : ∀ st key count, Shows (value st key) count → i64Max ≤ (count : Int) →
    (∃ e, (exec st ["INCR", key]).1 = .error e) ∧ value (exec st ["INCR", key]).2 = value st
  get_reply : ∀ st key, (exec st ["GET", key]).1 = .ok (shown (value st key)) ∧
    value (exec st ["GET", key]).2 = value st
  del_effect : ∀ st key, (∃ count, (exec st ["DEL", key]).1 = .ok (.int count)) ∧
    value (exec st ["DEL", key]).2 = Function.update (value st) key none
  lapse_effect : ∀ st key, value (lapse st key) = Function.update (value st) key none

/-! ### Turns -/

structure Args where
  keys : Nat
  ttl : Nat
  ttlPositive : 0 < ttl

def Args.lockKeys (args : Args) : List String := (List.range args.keys).map (fun i => s!"k{i}")

inductive Verb where
  | setNx
  | incr
  | get
  | del
deriving DecidableEq, Repr

inductive Op where
  | acquire
  | release
  | miss
deriving DecidableEq, Repr

/-- `LockEvent` without its times. -/
structure LockEvent where
  worker : Nat
  lockKey : String
  op : Op
  token : String
deriving DecidableEq, Repr

inductive Call where
  | unsent
  | sent
  | ran (result : Except PyError PyValue)

/-- One turn of the loop of `worker`: what it chose, how far its calls came, and
which of them it waits for.  A turn that waits for none is over. -/
structure Turn where
  worker : Nat
  key : String
  token : String
  calls : Verb → Call
  waiting : Option Verb

namespace Turn

def begun (worker : Nat) (key token : String) : Turn where
  worker := worker
  key := key
  token := token
  calls := Function.update (fun _ => .unsent) .setNx .sent
  waiting := some .setNx

def argv (turn : Turn) (ttl : Nat) : Verb → List String
  | .setNx => ["SET", lockKey turn.key, turn.token, "NX", "EX", toString ttl]
  | .incr => ["INCR", "ops"]
  | .get => ["GET", lockKey turn.key]
  | .del => ["DEL", lockKey turn.key]

def event (turn : Turn) (op : Op) : LockEvent :=
  ⟨turn.worker, turn.key, op, if op = .miss then "" else turn.token⟩

/-- What a worker does with the result of a call, or with none where the call
raised: the event that it records, and the call that it makes next. -/
def goesOn (turn : Turn) : Verb → Option PyValue → Option Op × Option Verb
  | .setNx, some (.str text) =>
      if text = "OK" then (some .acquire, some .incr) else (some .miss, none)
  | .setNx, some _ => (some .miss, none)
  | .setNx, none => (none, none)
  | .incr, _ => (none, some .get)
  | .get, some (.str owner) => (none, if owner = turn.token then some .del else none)
  | .get, _ => (none, none)
  | .del, some _ => (some .release, none)
  | .del, none => (none, none)

def put (turn : Turn) (verb : Verb) (call : Call) : Turn :=
  { turn with calls := Function.update turn.calls verb call }

def await (turn : Turn) : Option Verb → Turn
  | some verb => { turn.put verb .sent with waiting := some verb }
  | none => { turn with waiting := none }

end Turn

/-! ### The load -/

structure Load (endpoint : LockEndpoint) where
  store : endpoint.State
  turns : List Turn
  events : List LockEvent

inductive Input where
  | begins (worker : Nat) (key token : String)
  | runs (turn : Nat) (verb : Verb)
  /-- The call that a turn waits for returns, or raises the error it was
  answered with. -/
  | returns (turn : Nat)
  | raises (turn : Nat)
  | lapses (key : String)
deriving DecidableEq, Repr

def tokens (inputs : List Input) : List String :=
  inputs.filterMap (fun input => match input with
    | .begins _ _ token => some token
    | _ => none)

namespace Load

variable {endpoint : LockEndpoint}

def start (store : endpoint.State) : Load endpoint := ⟨store, [], []⟩

def Idle (load : Load endpoint) (worker : Nat) : Prop :=
  ∀ turn ∈ load.turns, turn.worker = worker → turn.waiting = none

instance (load : Load endpoint) (worker : Nat) : Decidable (load.Idle worker) :=
  inferInstanceAs (Decidable (∀ turn ∈ load.turns, _))

def settle (load : Load endpoint) (index : Nat) (turn : Turn) (verb : Verb)
    (result : Option PyValue) : Load endpoint :=
  let (op, next) := turn.goesOn verb result
  { load with
    turns := load.turns.set index (turn.await next)
    events := load.events ++ (op.map turn.event).toList }

def step (args : Args) (load : Load endpoint) : Input → Load endpoint
  | .begins worker key token =>
      if key ∈ args.lockKeys ∧ load.Idle worker then
        { load with turns := load.turns ++ [.begun worker key token] }
      else load
  | .runs index verb =>
      match load.turns[index]? with
      | none => load
      | some turn =>
          match turn.calls verb with
          | .sent =>
              let (result, store) := endpoint.exec load.store (turn.argv args.ttl verb)
              { load with store, turns := load.turns.set index (turn.put verb (.ran result)) }
          | _ => load
  | .returns index =>
      match load.turns[index]? with
      | none => load
      | some turn =>
          match turn.waiting with
          | none => load
          | some verb =>
              match turn.calls verb with
              | .ran result => load.settle index turn verb result.toOption
              | _ => load
  | .raises index =>
      match load.turns[index]? with
      | none => load
      | some turn =>
          match turn.waiting with
          | none => load
          | some verb => load.settle index turn verb none
  | .lapses key => { load with store := endpoint.lapse load.store (lockKey key) }

def machine (endpoint : LockEndpoint) (args : Args) : Machine (Load endpoint) Input Unit where
  step load input := (load.step args input, [])

def after (args : Args) (store : endpoint.State) (inputs : List Input) : Load endpoint :=
  ((machine endpoint args).run (start store) inputs).1

/-! ### What a step can do -/

/-- The moves of a step that changes anything, each with what it found. -/
inductive Moves (args : Args) (load : Load endpoint) : Input → Load endpoint → Prop
  | begins {worker : Nat} {key token : String} (listed : key ∈ args.lockKeys) :
      Moves args load (.begins worker key token)
        { load with turns := load.turns ++ [.begun worker key token] }
  | runs {index : Nat} {verb : Verb} {turn : Turn} (found : load.turns[index]? = some turn)
      (sent : turn.calls verb = .sent) :
      Moves args load (.runs index verb)
        { load with
          store := (endpoint.exec load.store (turn.argv args.ttl verb)).2
          turns := load.turns.set index
            (turn.put verb (.ran (endpoint.exec load.store (turn.argv args.ttl verb)).1)) }
  | returns {index : Nat} {verb : Verb} {turn : Turn} {result : Except PyError PyValue}
      (found : load.turns[index]? = some turn) (waits : turn.waiting = some verb)
      (ran : turn.calls verb = .ran result) :
      Moves args load (.returns index) (load.settle index turn verb result.toOption)
  | raises {index : Nat} {verb : Verb} {turn : Turn} (found : load.turns[index]? = some turn)
      (waits : turn.waiting = some verb) :
      Moves args load (.raises index) (load.settle index turn verb none)
  | lapses {key : String} :
      Moves args load (.lapses key) { load with store := endpoint.lapse load.store (lockKey key) }

theorem step_cases (args : Args) (load : Load endpoint) (input : Input) :
    load.step args input = load ∨ Moves args load input (load.step args input) := by
  cases input with
  | begins worker key token =>
      rw [step]
      by_cases free : key ∈ args.lockKeys ∧ load.Idle worker
      · rw [if_pos free]
        exact .inr (.begins free.1)
      · rw [if_neg free]
        exact .inl rfl
  | runs index verb =>
      rw [step]
      cases found : load.turns[index]? with
      | none => exact .inl rfl
      | some turn =>
          cases call : turn.calls verb with
          | unsent => exact .inl (by simp only [call])
          | ran result => exact .inl (by simp only [call])
          | sent =>
              simp only [call]
              exact .inr (.runs found call)
  | returns index =>
      rw [step]
      cases found : load.turns[index]? with
      | none => exact .inl rfl
      | some turn =>
          cases waits : turn.waiting with
          | none => exact .inl (by simp only [waits])
          | some verb =>
              cases call : turn.calls verb with
              | unsent => exact .inl (by simp only [waits, call])
              | sent => exact .inl (by simp only [waits, call])
              | ran result =>
                  simp only [waits, call]
                  exact .inr (.returns found waits call)
  | raises index =>
      rw [step]
      cases found : load.turns[index]? with
      | none => exact .inl rfl
      | some turn =>
          cases waits : turn.waiting with
          | none => exact .inl (by simp only [waits])
          | some verb =>
              simp only [waits]
              exact .inr (.raises found waits)
  | lapses key => exact .inr .lapses

end Load

/-! ### One turn -/

namespace Turn

def Granted (turn : Turn) : Prop := turn.calls .setNx = .ran (.ok (.str "OK"))

/-- The lock was granted, and the `DEL` that gives it back has not run. -/
def Holds (turn : Turn) : Prop := turn.Granted ∧ ∀ result, turn.calls .del ≠ .ran result

/-- The worker was told of its lock, and the `DEL` that gives it back has not run. -/
def InSection (turn : Turn) : Prop :=
  turn.calls .incr ≠ .unsent ∧ ∀ result, turn.calls .del ≠ .ran result

end Turn

def Verb.rank : Verb → Nat
  | .setNx => 0
  | .incr => 1
  | .get => 2
  | .del => 3

/-- Each call of a turn is there because of the one before it, and behind the
call that it waits for there is none. -/
structure Turn.Sound (turn : Turn) : Prop where
  granted : turn.calls .incr ≠ .unsent → turn.Granted
  bumps : turn.calls .get ≠ .unsent → turn.calls .incr ≠ .unsent
  owner : turn.calls .del ≠ .unsent → turn.calls .get = .ran (.ok (.str turn.token))
  made : ∀ verb, turn.waiting = some verb → turn.calls verb ≠ .unsent
  last : ∀ verb, turn.waiting = some verb → ∀ later, verb.rank < later.rank →
    turn.calls later = .unsent

namespace Turn

variable {turn : Turn} {verb : Verb} {result : Option PyValue}

@[simp] theorem put_key (call : Call) : (turn.put verb call).key = turn.key := rfl

@[simp] theorem put_token (call : Call) : (turn.put verb call).token = turn.token := rfl

@[simp] theorem put_waiting (call : Call) : (turn.put verb call).waiting = turn.waiting := rfl

@[simp] theorem put_self (call : Call) : (turn.put verb call).calls verb = call := by
  simp only [put, Function.update_self]

theorem put_other {other : Verb} (apart : other ≠ verb) (call : Call) :
    (turn.put verb call).calls other = turn.calls other := by
  simp only [put, Function.update_of_ne apart]

@[simp] theorem await_key (next : Option Verb) : (turn.await next).key = turn.key := by
  cases next <;> rfl

@[simp] theorem await_token (next : Option Verb) : (turn.await next).token = turn.token := by
  cases next <;> rfl

@[simp] theorem await_self : (turn.await (some verb)).calls verb = .sent := by
  simp only [await, put_self]

/-- How a turn goes on from a call. -/
inductive GoesOn (turn : Turn) : Verb → Option PyValue → Option Op → Option Verb → Prop
  | acquires : GoesOn turn .setNx (some (.str "OK")) (some .acquire) (some .incr)
  | misses {value : PyValue} (refused : value ≠ .str "OK") :
      GoesOn turn .setNx (some value) (some .miss) none
  | bumps {result : Option PyValue} : GoesOn turn .incr result none (some .get)
  | owns : GoesOn turn .get (some (.str turn.token)) none (some .del)
  | disowns {value : PyValue} (foreign : value ≠ .str turn.token) :
      GoesOn turn .get (some value) none none
  | releases {value : PyValue} : GoesOn turn .del (some value) (some .release) none
  | givesUp {verb : Verb} (caught : verb ≠ .incr) : GoesOn turn verb none none none

theorem goesOn_cases (turn : Turn) (verb : Verb) (result : Option PyValue) :
    GoesOn turn verb result (turn.goesOn verb result).1 (turn.goesOn verb result).2 := by
  cases verb with
  | setNx =>
      cases result with
      | none => exact .givesUp (by decide)
      | some value =>
          cases value with
          | str text =>
              rw [goesOn]
              by_cases granted : text = "OK"
              · rw [if_pos granted, granted]
                exact .acquires
              · rw [if_neg granted]
                exact .misses (fun same => granted (PyValue.str.inj same))
          | none => exact .misses (fun same => nomatch same)
          | int value => exact .misses (fun same => nomatch same)
          | list items => exact .misses (fun same => nomatch same)
  | incr => exact .bumps
  | get =>
      cases result with
      | none => exact .givesUp (by decide)
      | some value =>
          cases value with
          | str text =>
              rw [goesOn]
              by_cases own : text = turn.token
              · rw [if_pos own, own]
                exact .owns
              · rw [if_neg own]
                exact .disowns (fun same => own (PyValue.str.inj same))
          | none => exact .disowns (fun same => nomatch same)
          | int value => exact .disowns (fun same => nomatch same)
          | list items => exact .disowns (fun same => nomatch same)
  | del =>
      cases result with
      | none => exact .givesUp (by decide)
      | some value => exact .releases

def Known (turn : Turn) (verb : Verb) (result : Option PyValue) : Prop :=
  ∀ value, result = some value → turn.calls verb = .ran (.ok value)

theorem known_toOption {result : Except PyError PyValue} (ran : turn.calls verb = .ran result) :
    turn.Known verb result.toOption := by
  intro value same
  cases result with
  | error e => cases same
  | ok result =>
      cases same
      exact ran

theorem sound_begun (worker : Nat) (key token : String) : (begun worker key token).Sound where
  granted sent := absurd rfl sent
  bumps sent := absurd rfl sent
  owner sent := absurd rfl sent
  made verb waits := by
    cases waits
    exact fun unsent => nomatch unsent
  last verb waits later behind := by
    cases waits
    cases later with
    | setNx => exact absurd behind (Nat.lt_irrefl _)
    | incr | get | del => rfl

theorem made_of_sent (sent : turn.calls verb = .sent) : turn.calls verb ≠ .unsent := by
  rw [sent]
  exact fun unsent => nomatch unsent

theorem made_of_ran {result : Except PyError PyValue} (ran : turn.calls verb = .ran result) :
    turn.calls verb ≠ .unsent := by
  rw [ran]
  exact fun unsent => nomatch unsent

theorem not_ran_of_sent (sent : turn.calls verb = .sent) (result : Except PyError PyValue) :
    turn.calls verb ≠ .ran result := by
  rw [sent]
  exact fun ran => nomatch ran

theorem put_kept {other : Verb} {call : Call} {result : Except PyError PyValue}
    (sent : turn.calls verb = .sent) (ran : turn.calls other = .ran result) :
    (turn.put verb call).calls other = .ran result := by
  have apart : other ≠ verb := by
    rintro rfl
    exact not_ran_of_sent sent result ran
  rw [put_other apart]
  exact ran

theorem put_ran_unsent {other : Verb} {result : Except PyError PyValue}
    (sent : turn.calls verb = .sent) :
    (turn.put verb (.ran result)).calls other = .unsent ↔ turn.calls other = .unsent := by
  by_cases same : other = verb
  · subst same
    exact iff_of_false (made_of_ran (put_self _)) (made_of_sent sent)
  · rw [put_other same]

theorem Sound.put_ran (sound : turn.Sound) (sent : turn.calls verb = .sent)
    (result : Except PyError PyValue) : (turn.put verb (.ran result)).Sound where
  granted made := put_kept sent (sound.granted ((put_ran_unsent sent).not.mp made))
  bumps made := (put_ran_unsent sent).not.mpr (sound.bumps ((put_ran_unsent sent).not.mp made))
  owner made := put_kept sent (sound.owner ((put_ran_unsent sent).not.mp made))
  made other waits := (put_ran_unsent sent).not.mpr (sound.made other waits)
  last other waits later behind := (put_ran_unsent sent).mpr (sound.last other waits later behind)

theorem await_unsent {next other : Verb} (same : (turn.await (some next)).calls other = .unsent) :
    other ≠ next ∧ turn.calls other = .unsent := by
  change (turn.put next .sent).calls other = .unsent at same
  by_cases here : other = next
  · rw [here, put_self] at same
    cases same
  · rw [put_other here] at same
    exact ⟨here, same⟩

theorem Sound.await_some (sound : turn.Sound) {next : Verb}
    (granted : next = .incr → turn.Granted) (bumps : next = .get → turn.calls .incr ≠ .unsent)
    (owner : next = .del → turn.calls .get = .ran (.ok (.str turn.token)))
    (first : next ≠ .setNx) (fresh : ∀ later, next.rank ≤ later.rank → turn.calls later = .unsent) :
    (turn.await (some next)).Sound := by
  have kept {other : Verb} {result : Except PyError PyValue}
      (ran : turn.calls other = .ran result) :
      (turn.await (some next)).calls other = .ran result := by
    have apart : other ≠ next := by
      rintro rfl
      rw [fresh other (Nat.le_refl _)] at ran
      cases ran
    exact (put_other apart _).trans ran
  have made {other : Verb} (made : (turn.await (some next)).calls other ≠ .unsent) :
      other = next ∨ turn.calls other ≠ .unsent := by
    by_cases here : other = next
    · exact .inl here
    · exact .inr (fun unsent => made ((put_other here _).trans unsent))
  constructor
  · intro sent
    exact kept ((made sent).elim (fun here => granted here.symm) sound.granted)
  · intro sent unsent
    have unsent := (await_unsent unsent).2
    exact ((made sent).elim (fun here => bumps here.symm) sound.bumps) unsent
  · intro sent
    rw [await_token]
    exact kept ((made sent).elim (fun here => owner here.symm) sound.owner)
  · intro verb waits unsent
    cases waits
    exact (await_unsent unsent).1 rfl
  · intro verb waits later behind
    cases waits
    have apart : later ≠ next := by
      rintro rfl
      exact Nat.lt_irrefl _ behind
    exact (put_other apart _).trans (fresh later (Nat.le_of_lt behind))

theorem Sound.await_none (sound : turn.Sound) : (turn.await none).Sound where
  granted := sound.granted
  bumps := sound.bumps
  owner := sound.owner
  made _ waits := nomatch waits
  last _ waits := nomatch waits

theorem Sound.goesOn (sound : turn.Sound) (waits : turn.waiting = some verb)
    (known : turn.Known verb result) {op : Option Op} {next : Option Verb}
    (goes : GoesOn turn verb result op next) :
    (turn.await next).Sound ∧ ((turn.await next).Holds ↔ turn.Holds) := by
  have fresh {later : Verb} (behind : verb.rank < later.rank) : turn.calls later = .unsent :=
    sound.last verb waits later behind
  cases goes with
  | acquires =>
      refine ⟨sound.await_some (fun _ => known _ rfl) (fun same => nomatch same)
        (fun same => nomatch same) (by decide) (fun later behind => fresh behind), ?_⟩
      rfl
  | bumps =>
      refine ⟨sound.await_some (fun same => nomatch same) (fun _ => sound.made _ waits)
        (fun same => nomatch same) (by decide) (fun later behind => fresh behind), ?_⟩
      rfl
  | owns =>
      have unsent : turn.calls .del = .unsent := fresh (by decide)
      refine ⟨sound.await_some (fun same => nomatch same) (fun same => nomatch same)
        (fun _ => known _ rfl) (by decide) (fun later behind => fresh behind), ?_⟩
      have granted : (turn.await (some .del)).Granted ↔ turn.Granted := Iff.rfl
      refine and_congr granted (iff_of_true ?_ ?_)
      · exact not_ran_of_sent await_self
      · exact fun result ran => made_of_ran ran unsent
  | misses | disowns | releases | givesUp => exact ⟨sound.await_none, Iff.rfl⟩

theorem Sound.holds_of_inSection (sound : turn.Sound) (inside : turn.InSection) : turn.Holds :=
  ⟨sound.granted inside.1, inside.2⟩

end Turn

/-! ### What a call does to the locks -/

theorem lockKey_inj {key other : String} : lockKey key = lockKey other ↔ key = other :=
  String.append_right_inj "lock:"

theorem lockKey_ne_ops (key : String) : lockKey key ≠ "ops" := by
  intro same
  have chars : "lock:".toList ++ key.toList = "ops".toList := by
    rw [← String.toList_append]
    exact congrArg String.toList same
  rw [show "lock:".toList = ['l', 'o', 'c', 'k', ':'] by decide,
    show "ops".toList = ['o', 'p', 's'] by decide] at chars
  exact absurd (List.cons.inj chars).1 (by decide)

inductive LockEffect {endpoint : LockEndpoint} (key : String) (turn : Turn) (verb : Verb)
    (before after : endpoint.State) (result : Except PyError PyValue) : Prop
  | none (same : endpoint.value after (lockKey key) = endpoint.value before (lockKey key))
      (refused : turn.key = key → verb = .setNx → result = .ok .none)
      (elsewhere : verb = .del → turn.key ≠ key)
  | takes (own : turn.key = key) (first : verb = .setNx) (granted : result = .ok (.str "OK"))
      (free : endpoint.value before (lockKey key) = .none)
      (taken : endpoint.value after (lockKey key) = some turn.token)
  | gives (own : turn.key = key) (last : verb = .del)
      (free : endpoint.value after (lockKey key) = .none)

def Turn.touches (turn : Turn) : Verb → String
  | .incr => "ops"
  | _ => lockKey turn.key

theorem exec_other {endpoint : LockEndpoint} (args : Args) (st : endpoint.State) (turn : Turn)
    (verb : Verb) {name : String} (apart : name ≠ turn.touches verb) :
    endpoint.value (endpoint.exec st (turn.argv args.ttl verb)).2 name =
      endpoint.value st name := by
  cases verb with
  | setNx =>
      by_cases free : endpoint.value st (lockKey turn.key) = none
      · have taken := (endpoint.set_free st _ turn.token args.ttl args.ttlPositive free).2
        exact (congrFun taken name).trans (Function.update_of_ne apart _ _)
      · have same := (endpoint.set_taken st _ turn.token args.ttl args.ttlPositive free).2
        exact congrFun same name
  | incr => exact endpoint.incr_other st "ops" name apart
  | get => exact congrFun (endpoint.get_reply st (lockKey turn.key)).2 name
  | del =>
      have given := (endpoint.del_effect st (lockKey turn.key)).2
      exact (congrFun given name).trans (Function.update_of_ne apart _ _)

theorem exec_lock {endpoint : LockEndpoint} (args : Args) (st : endpoint.State) (turn : Turn)
    (verb : Verb) (key : String) :
    LockEffect key turn verb st (endpoint.exec st (turn.argv args.ttl verb)).2
      (endpoint.exec st (turn.argv args.ttl verb)).1 := by
  by_cases own : turn.key = key
  · subst own
    cases verb with
    | setNx =>
        by_cases free : endpoint.value st (lockKey turn.key) = none
        · obtain ⟨granted, taken⟩ :=
            endpoint.set_free st _ turn.token args.ttl args.ttlPositive free
          exact .takes rfl rfl granted free ((congrFun taken _).trans (Function.update_self ..))
        · obtain ⟨refused, same⟩ :=
            endpoint.set_taken st _ turn.token args.ttl args.ttlPositive free
          exact .none (congrFun same _) (fun _ _ => refused) (fun last => nomatch last)
    | incr =>
        exact .none (exec_other args st turn .incr (lockKey_ne_ops turn.key))
          (fun _ first => nomatch first) (fun last => nomatch last)
    | get =>
        exact .none (congrFun (endpoint.get_reply st _).2 _) (fun _ first => nomatch first)
          (fun last => nomatch last)
    | del =>
        have given := (endpoint.del_effect st (lockKey turn.key)).2
        exact .gives rfl rfl ((congrFun given _).trans (Function.update_self ..))
  · have apart : lockKey key ≠ turn.touches verb := by
      cases verb with
      | incr => exact lockKey_ne_ops key
      | setNx | get | del => exact fun same => own (lockKey_inj.mp same).symm
    exact .none (exec_other args st turn verb apart) (fun same => absurd same own) (fun _ => own)

namespace Turn

variable {turn : Turn} {verb : Verb}

theorem Sound.told_of_del (sound : turn.Sound) (made : turn.calls .del ≠ .unsent) :
    turn.calls .incr ≠ .unsent := sound.bumps (made_of_ran (sound.owner made))

theorem Sound.granted_of_del (sound : turn.Sound) (made : turn.calls .del ≠ .unsent) :
    turn.Granted := sound.granted (sound.told_of_del made)

theorem Sound.holds_of_del_sent (sound : turn.Sound) (sent : turn.calls .del = .sent) :
    turn.Holds := ⟨sound.granted_of_del (made_of_sent sent), not_ran_of_sent sent⟩

theorem Sound.holds_of_get_sent (sound : turn.Sound) (sent : turn.calls .get = .sent) :
    turn.Holds := by
  refine ⟨sound.granted (sound.bumps (made_of_sent sent)), fun result ran => ?_⟩
  exact not_ran_of_sent sent _ (sound.owner (made_of_ran ran))

theorem holds_put (call : Call) (first : verb ≠ .setNx) (last : verb ≠ .del) :
    (turn.put verb call).Holds ↔ turn.Holds := by
  unfold Holds Granted
  rw [put_other (Ne.symm first), put_other (Ne.symm last)]

theorem not_granted_of_sent (sent : turn.calls .setNx = .sent) : ¬turn.Granted :=
  not_ran_of_sent sent _

end Turn

namespace Load

variable {endpoint : LockEndpoint} {args : Args} {key : String} {load next : Load endpoint}
  {input : Input}

/-- The lock of a key is held by the turn whose token it has, and by no other. -/
structure Kept (key : String) (load : Load endpoint) : Prop where
  sound : ∀ turn ∈ load.turns, turn.Sound
  distinct : (load.turns.map Turn.token).Nodup
  tracks : ∀ token, endpoint.value load.store (lockKey key) = some token ↔
    ∃ turn ∈ load.turns, turn.key = key ∧ turn.token = token ∧ turn.Holds

/-- A turn begins with a token that no turn had, and the lock does not lapse. -/
def Undisturbed (key : String) (load : Load endpoint) : Input → Prop
  | .begins _ _ token => token ∉ load.turns.map Turn.token
  | .lapses other => other ≠ key
  | _ => True

theorem Kept.start {store : endpoint.State} (free : endpoint.value store (lockKey key) = none) :
    (start store).Kept key where
  sound _ member := nomatch member
  distinct := List.nodup_nil
  tracks token := by
    rw [show endpoint.value (Load.start store).store (lockKey key) = none from free]
    constructor
    · exact fun same => nomatch same
    · exact fun ⟨_, member, _⟩ => nomatch member

theorem Kept.same_token (kept : load.Kept key) {turn other : Turn} (member : turn ∈ load.turns)
    (member' : other ∈ load.turns) (same : turn.token = other.token) : turn = other :=
  List.inj_on_of_nodup_map kept.distinct member member' same

/-- One turn at most holds the lock. -/
theorem Kept.unique (kept : load.Kept key) {turn other : Turn} (member : turn ∈ load.turns)
    (member' : other ∈ load.turns) (mine : turn.key = key) (theirs : other.key = key)
    (holds : turn.Holds) (holds' : other.Holds) : turn = other := by
  have here := (kept.tracks turn.token).mpr ⟨turn, member, mine, rfl, holds⟩
  have there := (kept.tracks other.token).mpr ⟨other, member', theirs, rfl, holds'⟩
  exact kept.same_token member member' (Option.some.inj (here.symm.trans there))

theorem Kept.replace (kept : load.Kept key) {index : Nat} {turn further : Turn}
    {store : endpoint.State} {events : List LockEvent} (found : load.turns[index]? = some turn)
    (sound : further.Sound) (sameToken : further.token = turn.token)
    (tracks : ∀ rest : List Turn, (∀ other, other ∈ load.turns ↔ other = turn ∨ other ∈ rest) →
      turn ∉ rest → ∀ token, endpoint.value store (lockKey key) = some token ↔
        (further.key = key ∧ further.token = token ∧ further.Holds) ∨
          ∃ other ∈ rest, other.key = key ∧ other.token = token ∧ other.Holds) :
    Kept key ⟨store, load.turns.set index further, events⟩ := by
  obtain ⟨rest, split, replaced⟩ := Library.exists_rest found
  have members (other : Turn) : other ∈ load.turns ↔ other = turn ∨ other ∈ rest :=
    split.mem_iff.trans List.mem_cons
  have distinct := (split.map Turn.token).nodup_iff.mp kept.distinct
  constructor
  · intro other member
    rcases List.mem_cons.mp ((replaced further).mem_iff.mp member) with rfl | member
    · exact sound
    · exact kept.sound other ((members other).mpr (.inr member))
  · apply ((replaced further).map Turn.token).nodup_iff.mpr
    rw [List.map_cons] at distinct ⊢
    rw [sameToken]
    exact distinct
  · intro token
    rw [tracks rest members (fun member => (List.nodup_cons.mp distinct).1
      (List.mem_map_of_mem member)) token]
    simp only [(replaced further).mem_iff, List.mem_cons, exists_eq_or_imp]

theorem Kept.replace_alike (kept : load.Kept key) {index : Nat} {turn further : Turn}
    {store : endpoint.State} {events : List LockEvent} (found : load.turns[index]? = some turn)
    (sound : further.Sound) (sameKey : further.key = turn.key)
    (sameToken : further.token = turn.token)
    (holds : turn.key = key → (further.Holds ↔ turn.Holds))
    (same : endpoint.value store (lockKey key) = endpoint.value load.store (lockKey key)) :
    Kept key ⟨store, load.turns.set index further, events⟩ := by
  apply kept.replace found sound sameToken
  intro rest members _ token
  have alike : (further.key = key ∧ further.token = token ∧ further.Holds) ↔
      (turn.key = key ∧ turn.token = token ∧ turn.Holds) := by
    rw [sameKey, sameToken]
    exact and_congr_right (fun own => and_congr_right (fun _ => holds own))
  rw [same, kept.tracks token, alike]
  simp only [members, exists_eq_or_imp]

theorem Kept.runs (kept : load.Kept key) {index : Nat} {verb : Verb} {turn : Turn}
    (found : load.turns[index]? = some turn) (sent : turn.calls verb = .sent) :
    Kept key
      { load with
        store := (endpoint.exec load.store (turn.argv args.ttl verb)).2
        turns := load.turns.set index
          (turn.put verb (.ran (endpoint.exec load.store (turn.argv args.ttl verb)).1)) } := by
  have member := List.mem_of_getElem? found
  have sound := kept.sound turn member
  generalize ran : (endpoint.exec load.store (turn.argv args.ttl verb)).1 = result
  have effect := exec_lock args load.store turn verb key
  rw [ran] at effect
  have further := sound.put_ran sent result
  cases effect with
  | none same refused elsewhere =>
      apply kept.replace_alike found further rfl rfl ?_ same
      intro own
      by_cases first : verb = .setNx
      · subst first
        rw [refused own rfl]
        have refused : ¬(turn.put .setNx (.ran (.ok .none))).Granted := by
          intro granted
          rw [Turn.Granted, Turn.put_self] at granted
          cases granted
        exact iff_of_false (fun holds => refused holds.1)
          (fun holds => Turn.not_granted_of_sent sent holds.1)
      · exact Turn.holds_put _ first (fun last => elsewhere last own)
  | takes own first granted free taken =>
      subst first granted
      apply kept.replace found further rfl
      intro rest members _ token
      -- nobody held the lock, and the turn holds it now
      have unheld : ¬∃ other ∈ rest, other.key = key ∧ other.token = token ∧ other.Holds := by
        rintro ⟨other, inRest, held⟩
        have before := (kept.tracks token).mpr ⟨other, (members other).mpr (.inr inRest), held⟩
        rw [free] at before
        cases before
      have unsent : turn.calls .del = .unsent := by
        by_contra made
        exact Turn.not_granted_of_sent sent (sound.granted_of_del made)
      have holds : (turn.put .setNx (.ran (.ok (.str "OK")))).Holds := by
        refine ⟨Turn.put_self _, fun result ran => Turn.made_of_ran ran ?_⟩
        rw [Turn.put_other (by decide)]
        exact unsent
      rw [taken, or_iff_left unheld]
      exact ⟨fun same => ⟨own, Option.some.inj same, holds⟩, fun held => congrArg some held.2.1⟩
  | gives own last free =>
      subst last
      apply kept.replace found further rfl
      intro rest members once token
      -- the turn held the lock, so nobody else did
      have held := sound.holds_of_del_sent sent
      rw [free]
      constructor
      · exact fun same => nomatch same
      · rintro (⟨_, _, holds⟩ | ⟨other, inRest, theirs, _, holds⟩)
        · exact absurd (Turn.put_self _) (holds.2 result)
        · have same := kept.unique member ((members other).mpr (.inr inRest)) own theirs held holds
          exact absurd (same ▸ inRest) once

theorem Kept.settle (kept : load.Kept key) {index : Nat} {verb : Verb} {turn : Turn}
    {result : Option PyValue} (found : load.turns[index]? = some turn)
    (waits : turn.waiting = some verb) (known : turn.Known verb result) :
    (load.settle index turn verb result).Kept key := by
  obtain ⟨sound, holds⟩ := (kept.sound turn (List.mem_of_getElem? found)).goesOn waits known
    (turn.goesOn_cases verb result)
  exact kept.replace_alike found sound (Turn.await_key _) (Turn.await_token _) (fun _ => holds) rfl

theorem Kept.moves (kept : load.Kept key) (moves : Moves args load input next)
    (undisturbed : load.Undisturbed key input) : next.Kept key := by
  cases moves with
  | begins listed =>
      rename_i worker name token
      constructor
      · intro turn member
        rcases List.mem_append.mp member with member | member
        · exact kept.sound turn member
        · rw [List.mem_singleton.mp member]
          exact Turn.sound_begun worker name token
      · rw [List.map_append]
        exact List.nodup_append.mpr ⟨kept.distinct, List.nodup_singleton _, by
          rintro other member _ member' rfl
          rw [List.mem_singleton.mp member'] at member
          exact undisturbed member⟩
      · intro other
        rw [kept.tracks other]
        constructor
        · rintro ⟨turn, member, held⟩
          exact ⟨turn, List.mem_append_left _ member, held⟩
        · rintro ⟨turn, member, held⟩
          rcases List.mem_append.mp member with member | member
          · exact ⟨turn, member, held⟩
          · rw [List.mem_singleton.mp member] at held
            exact absurd held.2.2.1 (Turn.not_granted_of_sent rfl)
  | runs found sent => exact kept.runs found sent
  | returns found waits ran => exact kept.settle found waits (Turn.known_toOption ran)
  | raises found waits => exact kept.settle found waits (fun _ same => nomatch same)
  | lapses =>
      rename_i other
      refine ⟨kept.sound, kept.distinct, fun token => ?_⟩
      have apart : lockKey key ≠ lockKey other := fun same =>
        undisturbed (lockKey_inj.mp same).symm
      have same := congrFun (endpoint.lapse_effect load.store (lockKey other)) (lockKey key)
      rw [Function.update_of_ne apart] at same
      exact same ▸ kept.tracks token

theorem Kept.step (kept : load.Kept key) (undisturbed : load.Undisturbed key input) :
    (load.step args input).Kept key := by
  rcases load.step_cases args input with same | moves
  · rw [same]
    exact kept
  · exact kept.moves moves undisturbed

/-! ### Runs -/

theorem step_turn {turn : Turn} (member : turn ∈ (load.step args input).turns) :
    (∃ before ∈ load.turns, before.key = turn.key ∧ before.token = turn.token) ∨
      ∃ worker, input = .begins worker turn.key turn.token ∧ turn.key ∈ args.lockKeys := by
  have replaced {index : Nat} {before further : Turn} (found : load.turns[index]? = some before)
      (sameKey : further.key = before.key) (sameToken : further.token = before.token)
      (member : turn ∈ load.turns.set index further) :
      ∃ before ∈ load.turns, before.key = turn.key ∧ before.token = turn.token := by
    rcases List.mem_or_eq_of_mem_set member with member | rfl
    · exact ⟨turn, member, rfl, rfl⟩
    · exact ⟨before, List.mem_of_getElem? found, sameKey.symm, sameToken.symm⟩
  rcases load.step_cases args input with same | moves
  · rw [same] at member
    exact .inl ⟨turn, member, rfl, rfl⟩
  · generalize load.step args input = next at member moves
    cases moves with
    | begins listed =>
        rcases List.mem_append.mp member with member | member
        · exact .inl ⟨turn, member, rfl, rfl⟩
        · rw [List.mem_singleton.mp member]
          exact .inr ⟨_, rfl, listed⟩
    | runs found sent =>
        exact .inl (replaced found (Turn.put_key _) (Turn.put_token _) member)
    | returns found waits ran =>
        exact .inl (replaced found (Turn.await_key _) (Turn.await_token _) member)
    | raises found waits =>
        exact .inl (replaced found (Turn.await_key _) (Turn.await_token _) member)
    | lapses => exact .inl ⟨turn, member, rfl, rfl⟩

theorem after_snoc (store : endpoint.State) (earlier : List Input) (input : Input) :
    after args store (earlier ++ [input]) = (after args store earlier).step args input :=
  (machine endpoint args).run_snoc _ earlier input

theorem turn_after (store : endpoint.State) (inputs : List Input) {turn : Turn}
    (member : turn ∈ (after args store inputs).turns) :
    turn.token ∈ tokens inputs ∧ turn.key ∈ args.lockKeys := by
  induction inputs using List.reverseRecOn generalizing turn with
  | nil => cases member
  | append_singleton earlier input ih =>
      rw [after_snoc] at member
      rw [tokens, List.filterMap_append]
      rcases step_turn member with ⟨before, member, sameKey, sameToken⟩ | ⟨worker, rfl, listed⟩
      · rw [← sameKey, ← sameToken]
        exact ⟨List.mem_append_left _ (ih member).1, (ih member).2⟩
      · exact ⟨List.mem_append_right _ List.mem_cons_self, listed⟩

theorem undisturbed_after {store : endpoint.State} {inputs : List Input}
    (fresh : (tokens inputs).Nodup) (stays : .lapses key ∉ inputs) (before : List Input)
    (input : Input) (step : before ++ [input] <+: inputs) :
    (after args store before).Undisturbed key input := by
  obtain ⟨later, rfl⟩ := step
  cases input with
  | begins worker name token =>
      intro member
      obtain ⟨turn, inTurns, rfl⟩ := List.mem_map.mp member
      have used := (turn_after store before inTurns).1
      rw [tokens, List.filterMap_append, List.filterMap_append] at fresh
      have apart := (List.nodup_append.mp (List.nodup_append.mp fresh).1).2.2
      exact apart _ used _ List.mem_cons_self rfl
  | lapses other =>
      rintro rfl
      exact stays (List.mem_append_left _ (List.mem_append_right _ List.mem_cons_self))
  | runs index verb => exact True.intro
  | returns index => exact True.intro
  | raises index => exact True.intro

theorem kept_after {store : endpoint.State} {inputs : List Input}
    (free : endpoint.value store (lockKey key) = none) (fresh : (tokens inputs).Nodup)
    (stays : .lapses key ∉ inputs) : (after args store inputs).Kept key :=
  (machine endpoint args).run_guarded (fun _ _ kept undisturbed => kept.step undisturbed)
    (Kept.start free) inputs (undisturbed_after fresh stays)

end Load

/-- In every interleaving, with any calls lost or run late, a lock that does not
lapse is never in the hands of two turns at once, and a `DEL` that is under way
finds there nothing but the token of its own turn. -/
theorem locks_exclusive (endpoint : LockEndpoint) (args : Args) (store : endpoint.State)
    (key : String) (free : endpoint.value store (lockKey key) = none) (inputs : List Input)
    (fresh : (tokens inputs).Nodup) (stays : .lapses key ∉ inputs) :
    let load := Load.after args store inputs
    (∀ (i j : Nat) (turn other : Turn), load.turns[i]? = some turn → load.turns[j]? = some other →
      turn.key = key → other.key = key → turn.InSection → other.InSection → i = j) ∧
    ∀ turn ∈ load.turns, turn.key = key → turn.calls .del = .sent →
      endpoint.value load.store (lockKey key) = some turn.token := by
  intro load
  have kept : load.Kept key := Load.kept_after free fresh stays
  constructor
  · intro i j turn other found found' mine theirs inside inside'
    have member := List.mem_of_getElem? found
    have member' := List.mem_of_getElem? found'
    have same := kept.unique member member' mine theirs
      ((kept.sound turn member).holds_of_inSection inside)
      ((kept.sound other member').holds_of_inSection inside')
    obtain ⟨bound, _⟩ := List.getElem?_eq_some_iff.mp found
    exact (List.getElem?_inj bound (List.Nodup.of_map Turn.token kept.distinct)).mp
      (found.trans (same ▸ found'.symm))
  · intro turn member own sent
    have held := (kept.sound turn member).holds_of_del_sent sent
    exact (kept.tracks turn.token).mpr ⟨turn, member, own, rfl, held⟩

/-! ### An endpoint, and a run on it -/

namespace Strings

def counted (value : Option String) : Option Nat :=
  match value with
  | none => some 0
  | some text => (digitsValue text.toList).filter (fun count => (count : Int) < i64Max)

def exec (st : String → Option String) : List String →
    Except PyError PyValue × (String → Option String)
  | ["SET", key, token, "NX", "EX", _] =>
      if (st key).isNone then (.ok (.str "OK"), Function.update st key (some token))
      else (.ok .none, st)
  | ["INCR", key] =>
      match counted (st key) with
      | some count => (.ok (.int (count + 1)), Function.update st key (some (toString (count + 1))))
      | none => (.error (.runtime "ERR value is not an integer or out of range"), st)
  | ["GET", key] => (.ok (shown (st key)), st)
  | ["DEL", key] => (.ok (.int (if (st key).isSome then 1 else 0)), Function.update st key none)
  | _ => (.error (.runtime "ERR unknown command"), st)

variable (st : String → Option String) (key : String)

theorem set_eq (token ttl : String) : exec st ["SET", key, token, "NX", "EX", ttl] =
    if (st key).isNone then (.ok (.str "OK"), Function.update st key (some token))
    else (.ok .none, st) := rfl

theorem set_free (st : String → Option String) (key token : String) (ttl : Nat) (_ : 0 < ttl)
    (free : st key = none) :
    (exec st ["SET", key, token, "NX", "EX", toString ttl]).1 = .ok (.str "OK") ∧
      (exec st ["SET", key, token, "NX", "EX", toString ttl]).2 =
        Function.update st key (some token) := by
  rw [set_eq, free]
  exact ⟨rfl, rfl⟩

theorem set_taken (st : String → Option String) (key token : String) (ttl : Nat) (_ : 0 < ttl)
    (taken : st key ≠ none) :
    (exec st ["SET", key, token, "NX", "EX", toString ttl]).1 = .ok .none ∧
      (exec st ["SET", key, token, "NX", "EX", toString ttl]).2 = st := by
  rw [set_eq, if_neg (fun free => taken (Option.isNone_iff_eq_none.mp free))]
  exact ⟨rfl, rfl⟩

theorem counted_shows {value : Option String} {count : Nat} (stands : Shows value count) :
    counted value = if (count : Int) < i64Max then some count else none := by
  rcases stands with rfl | ⟨rfl, rfl⟩
  · rw [counted, show (toString count).toList = count.repr.toList from rfl, digitsValue_repr]
    by_cases small : (count : Int) < i64Max
    · rw [if_pos small]
      exact Option.filter_some_pos (decide_eq_true small)
    · rw [if_neg small]
      exact Option.filter_some_neg (decide_eq_false small)
  · rfl

theorem incr_eq : exec st ["INCR", key] =
    match counted (st key) with
    | some count => (.ok (.int (count + 1)), Function.update st key (some (toString (count + 1))))
    | none => (.error (.runtime "ERR value is not an integer or out of range"), st) := rfl

theorem incr_counts (st : String → Option String) (key : String) (count : Nat)
    (stands : Shows (st key) count) (small : (count : Int) < i64Max) :
    (exec st ["INCR", key]).1 = .ok (.int (count + 1)) ∧
      (exec st ["INCR", key]).2 = Function.update st key (some (toString (count + 1))) := by
  rw [incr_eq, counted_shows stands, if_pos small]
  exact ⟨rfl, rfl⟩

theorem incr_full (st : String → Option String) (key : String) (count : Nat)
    (stands : Shows (st key) count) (full : i64Max ≤ (count : Int)) :
    (∃ e, (exec st ["INCR", key]).1 = .error e) ∧ (exec st ["INCR", key]).2 = st := by
  rw [incr_eq, counted_shows stands, if_neg (Int.not_lt.mpr full)]
  exact ⟨⟨_, rfl⟩, rfl⟩

theorem incr_other (st : String → Option String) (key other : String) (apart : other ≠ key) :
    (exec st ["INCR", key]).2 other = st other := by
  rw [incr_eq]
  cases counted (st key) with
  | none => rfl
  | some count => exact Function.update_of_ne apart _ st

end Strings

def strings : LockEndpoint where
  State := String → Option String
  value st := st
  exec := Strings.exec
  lapse st key := Function.update st key none
  set_free := Strings.set_free
  set_taken := Strings.set_taken
  incr_counts := Strings.incr_counts
  incr_other := Strings.incr_other
  incr_full := Strings.incr_full
  get_reply _ _ := ⟨rfl, rfl⟩
  del_effect _ _ := ⟨⟨_, rfl⟩, rfl⟩
  lapse_effect _ _ := rfl

def oneLock : Args where
  keys := 1
  ttl := 10
  ttlPositive := Nat.zero_lt_succ 9

/-- A turn gives its lock back, and its `DEL` is late; the other worker asks for
the lock meanwhile. -/
def lateDel : List Input :=
  [.begins 0 "k0" "a", .runs 0 .setNx, .returns 0, .runs 0 .incr, .returns 0, .runs 0 .get,
    .returns 0, .raises 0, .begins 1 "k0" "b", .runs 1 .setNx]

def lateLoad : Load strings := Load.after oneLock (fun _ => none) lateDel

/-- The lock is not granted again while the `DEL` is under way. -/
theorem lateLoad_locked : strings.value lateLoad.store (lockKey "k0") = some "a" :=
  (locks_exclusive strings oneLock (fun _ => none) "k0" rfl lateDel (by decide) (by decide)).2 _
    (List.mem_of_getElem? (show lateLoad.turns[0]? = some _ from rfl)) rfl rfl

/-- The race window that the workload documents: a lock that lapses between the
look at it and the `DEL` is in two hands, and the `DEL` takes it out of the
other's. -/
def raceWindow : List Input :=
  [.begins 0 "k0" "a", .runs 0 .setNx, .returns 0, .runs 0 .incr, .returns 0, .runs 0 .get,
    .returns 0, .lapses "k0", .begins 1 "k0" "b", .runs 1 .setNx, .returns 1]

def racedLoad : Load strings := Load.after oneLock (fun _ => none) raceWindow

example : racedLoad.turns.map (fun turn => (turn.token, turn.waiting)) =
      [("a", some .del), ("b", some .incr)] ∧
    strings.value racedLoad.store (lockKey "k0") = some "b" ∧
    strings.value (racedLoad.step oneLock (.runs 0 .del)).store (lockKey "k0") = none := by
  decide

end TrainsValkey.LockChaos
