import TrainsValkey.Library.Timeline
import Mathlib.Data.Rat.Lemmas
import Mathlib.Algebra.Order.Ring.Rat

/-
The sequencer that injects faults into a running ring on a clock: a schedule is
checked, each event becomes a script that injects its fault and one that heals
it, the scripts are sorted by time and dispatched to the machines of their
nodes.

Offsets are the values of any ordered type in which adding a duration never
goes back.  Sums of floats round, and this is what they keep.
-/

set_option autoImplicit false

namespace TrainsValkey.FaultSequencer

open TrainsValkey.Library

/-- Adding a duration never goes back in time. -/
class NeverEarlier (T : Type) [LE T] [Zero T] [Add T] : Prop where
  le_add : ∀ offset duration : T, 0 ≤ duration → offset ≤ offset + duration

theorem rat_le_add (offset duration : ℚ) (positive : 0 ≤ duration) : offset ≤ offset + duration :=
  le_add_of_nonneg_right positive

instance : NeverEarlier ℚ := ⟨rat_le_add⟩

/-! ### Events and schedules -/

/-- The keys of `FAULTS`, and any other string. -/
inductive Kind where
  | killProxy
  | partition
  | netemLoss
  | netemLatency
  | clockSkew
  | restartProxy
  | other (name : String)
deriving DecidableEq, Repr

def Kind.isPair : Kind → Bool
  | .partition => true
  | _ => false

/-- `atOffset` is `at` and `toNode` is `to`; a duration of 0 makes the fault
permanent. -/
structure Event (T : Type) where
  kind : Kind
  atOffset : T
  duration : T
  target : Option Int
  frm : Option Int
  toNode : Option Int
  pct : Option T
  ms : Option T
  secs : Option Int

/-- The name and the description, which only texts use, are left out. -/
structure Schedule (T : Type) where
  ringSize : Int
  iface : String
  events : List (Event T)

structure Ctx where
  instances : List String
  ips : List String
  iface : String

/-- `_build_ctx`: the instances and addresses have to suffice for the ring. -/
def buildCtx {T : Type} (instances ips : List String) (sched : Schedule T) : Option Ctx :=
  if (instances.length : Int) < sched.ringSize ∨ (ips.length : Int) < sched.ringSize then none
  else some ⟨instances, ips, sched.iface⟩

/-- A list at an index: a negative one counts from the end, and one out of range
raises. -/
def pyIndex {α : Type} (items : List α) (index : Int) : Option α :=
  if 0 ≤ index then items[index.toNat]?
  else if -(items.length : Int) ≤ index then items[(items.length + index).toNat]?
  else none

def Ctx.instanceOf (ctx : Ctx) (node : Option Int) : Option String :=
  node.bind (pyIndex ctx.instances)

def Ctx.ip (ctx : Ctx) (node : Option Int) : Option String := node.bind (pyIndex ctx.ips)

/-! ### Scripts -/

inductive Netem (T : Type) where
  | loss (pct : Option T)
  | delay (ms : Option T)
deriving DecidableEq, Repr

/-- The shell commands that the generators write.  A drop is a rule of the machine's
`OUTPUT` chain and a discipline a root of `tc`; `killProxy` and both deletions end
in `|| true`. -/
inductive Command (T : Type) where
  | killProxy
  | dropAdd (dst : String)
  | dropDelete (dst : String)
  | qdiscAdd (iface : String) (netem : Netem T)
  | qdiscDel (iface : String)
  | dateSet (secs : Int)
  | clockRestore
  | relaunch
  | echo

abbrev Script (T : Type) := List (Command T)

section Generators

variable {T : Type} (ev : Event T) (ctx : Ctx)

def fKillProxy : Option (Script T × Script T) := some ([.killProxy, .echo], [])

def fPartition : Option (Script T × Script T) :=
  (ctx.ip ev.toNode).map (fun dst => ([.dropAdd dst, .echo], [.dropDelete dst, .echo]))

def fNetem (netem : Netem T) : Option (Script T × Script T) :=
  some ([.qdiscAdd ctx.iface netem, .echo], [.qdiscDel ctx.iface, .echo])

def fNetemLoss : Option (Script T × Script T) := fNetem ctx (.loss ev.pct)

def fNetemLatency : Option (Script T × Script T) := fNetem ctx (.delay ev.ms)

/-- The format `+d` of `None` raises. -/
def fClockSkew : Option (Script T × Script T) :=
  ev.secs.map (fun secs => ([.dateSet secs], [.clockRestore, .echo]))

def fRestartProxy : Option (Script T × Script T) := some ([.relaunch, .echo], [])

def faults : Kind → Option (Script T × Script T)
  | .killProxy => fKillProxy
  | .partition => fPartition ev ctx
  | .netemLoss => fNetemLoss ev ctx
  | .netemLatency => fNetemLatency ev ctx
  | .clockSkew => fClockSkew ev
  | .restartProxy => fRestartProxy
  | .other _ => none

end Generators

/-! ### Validation -/

inductive Invalid where
  | noEvents
  | unknownKind (index : Nat) (name : String)
  | negative (index : Nat)
  | needsFromAndTo (index : Nat)
  | needsTarget (index : Nat)
  | outOfRange (index : Nat) (node : Int)
deriving DecidableEq, Repr

section Validate

variable {T : Type} [LinearOrder T] [Zero T]

def checkNode (ringSize : Int) (node : Int) (index : Nat) : Except Invalid Unit :=
  if 0 ≤ node ∧ node < ringSize then .ok () else .error (.outOfRange index node)

def checkNodes (ringSize : Int) (ev : Event T) (index : Nat) : Except Invalid Unit :=
  if ev.kind.isPair then
    match ev.frm, ev.toNode with
    | some frm, some toNode => do
        checkNode ringSize frm index
        checkNode ringSize toNode index
    | _, _ => .error (.needsFromAndTo index)
  else
    match ev.target with
    | some target => checkNode ringSize target index
    | none => .error (.needsTarget index)

def validateEvent (ringSize : Int) (ev : Event T) (index : Nat) : Except Invalid Unit :=
  match ev.kind with
  | .other name => .error (.unknownKind index name)
  | _ =>
      if ev.atOffset < 0 ∨ ev.duration < 0 then .error (.negative index)
      else checkNodes ringSize ev index

def validateFrom (ringSize : Int) : Nat → List (Event T) → Except Invalid Unit
  | _, [] => .ok ()
  | index, ev :: evs => do
      validateEvent ringSize ev index
      validateFrom ringSize (index + 1) evs

def Schedule.validate (sched : Schedule T) : Except Invalid Unit :=
  if sched.events.isEmpty then .error .noEvents
  else validateFrom sched.ringSize 0 sched.events

end Validate

/-! ### The plan -/

/-- One dispatch on the timeline.  The label of the source has the kind and the
word `inject` or `heal`; which event of the listing it is for is not in it, and
nothing reads it here either. -/
structure Action (T : Type) where
  atOffset : T
  node : Option Int
  commands : Script T
  kind : Kind
  mark : Mark Nat

section Plan

variable {T : Type} [LinearOrder T] [Zero T] [Add T]

def Event.node (ev : Event T) : Option Int := ev.target <|> ev.frm

def injectAction (ev : Event T) (index : Nat) (inject : Script T) : Action T :=
  ⟨ev.atOffset, ev.node, inject, ev.kind, .start index⟩

def healAction (ev : Event T) (index : Nat) (heal : Script T) : Action T :=
  ⟨ev.atOffset + ev.duration, ev.node, heal, ev.kind, .stop index⟩

def actionsOf (ev : Event T) (index : Nat) (scripts : Script T × Script T) : List (Action T) :=
  injectAction ev index scripts.1 ::
    if scripts.2.isEmpty = false ∧ 0 < ev.duration then [healAction ev index scripts.2] else []

def expand (ctx : Ctx) : Nat → List (Event T) → Option (List (Action T))
  | _, [] => some []
  | index, ev :: evs => do
      let scripts ← faults ev ctx ev.kind
      let rest ← expand ctx (index + 1) evs
      some (actionsOf ev index scripts ++ rest)

/-- The actions in the order of their offsets; the sort is stable.  `none` where
a generator raises. -/
def plan (sched : Schedule T) (ctx : Ctx) : Option (List (Action T)) :=
  (expand ctx 0 sched.events).map
    (fun actions => actions.mergeSort (fun a b => decide (a.atOffset ≤ b.atOffset)))

/-! ### Execution -/

structure Call (T : Type) where
  time : T
  instanceId : String
  commands : Script T
  mark : Mark Nat

/-- The clock stands at `elapsed`.  An action whose node has no instance raises,
and the walk ends there. -/
def execute (ctx : Ctx) : T → List (Action T) → List (Call T)
  | _, [] => []
  | elapsed, act :: acts =>
      let elapsed := if elapsed < act.atOffset then act.atOffset else elapsed
      match ctx.instanceOf act.node with
      | none => []
      | some instanceId => ⟨elapsed, instanceId, act.commands, act.mark⟩ :: execute ctx elapsed acts

def Schedule.calls (sched : Schedule T) (ctx : Ctx) : List (Call T) :=
  ((plan sched ctx).map (execute ctx 0)).getD []

end Plan

/-! ### The machines -/

/-- What the scripts change on a machine: the root queueing discipline of each
interface, and the destinations that the rules of the `OUTPUT` chain drop. -/
structure Kernel (T : Type) where
  root : String → Option (Netem T)
  output : List String

def Kernel.clean {T : Type} : Kernel T := ⟨fun _ => none, []⟩

section Kernel

variable {T : Type} (accepts : Netem T → Bool)

/-- The exit status of a command.  `tc` adds to a free root only, and only what
it accepts. -/
def Kernel.succeeds (kernel : Kernel T) : Command T → Bool
  | .qdiscAdd iface netem => (kernel.root iface).isNone && accepts netem
  | _ => true

def Kernel.exec (kernel : Kernel T) : Command T → Kernel T
  | .dropAdd dst => { kernel with output := kernel.output ++ [dst] }
  | .dropDelete dst => { kernel with output := kernel.output.erase dst }
  | .qdiscAdd iface netem =>
      if kernel.succeeds accepts (.qdiscAdd iface netem) then
        { kernel with root := Function.update kernel.root iface (some netem) }
      else kernel
  | .qdiscDel iface => { kernel with root := Function.update kernel.root iface none }
  | _ => kernel

def Kernel.run (kernel : Kernel T) (script : Script T) : Kernel T :=
  script.foldl (Kernel.exec accepts) kernel

def Kernel.completes (kernel : Kernel T) : Script T → Bool
  | [] => true
  | command :: script =>
      kernel.succeeds accepts command && (kernel.exec accepts command).completes script

abbrev World (T : Type) := String → Kernel T

def World.clean : World T := fun _ => .clean

def World.dispatch (world : World T) (call : Call T) : World T :=
  Function.update world call.instanceId ((world call.instanceId).run accepts call.commands)

def worldAfter (calls : List (Call T)) : World T := calls.foldl (World.dispatch accepts) World.clean

variable [LinearOrder T] [Zero T] [Add T]

def Schedule.worldAt (sched : Schedule T) (ctx : Ctx) (time : T) : World T :=
  worldAfter accepts ((sched.calls ctx).filter (fun call => decide (call.time ≤ time)))

end Kernel

end TrainsValkey.FaultSequencer
