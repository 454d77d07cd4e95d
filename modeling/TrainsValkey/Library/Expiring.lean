import Mathlib.Data.Set.Insert

/-
Keyspaces whose cells may carry a deadline, and engines that run commands on
them at a local time.

A cell past its deadline is absent to every later command.  What a command
does may depend on which of the keys it reads are there, on their values and on
whether they have a deadline, and never on the clock itself; the clock enters
only when a relative lifetime becomes a deadline.  Two keyspaces that differ in
their deadlines alone stay so under commands whose reads are expired on both
clocks or on neither.
-/

set_option autoImplicit false

namespace TrainsValkey.Library

universe u v w x

structure Cell (Value : Type v) where
  value : Value
  deadline : Option Nat

namespace Cell

variable {Value : Type v}

def expired (cell : Cell Value) (now : Nat) : Bool :=
  match cell.deadline with
  | some deadline => deadline ≤ now
  | none => false

def mark (cell : Cell Value) : Value × Bool := (cell.value, cell.deadline.isSome)

end Cell

abbrev Keyspace (Key : Type u) (Value : Type v) := Key → Option (Cell Value)

namespace Keyspace

variable {Key : Type u} {Value : Type v}

def expired (keyspace : Keyspace Key Value) (now : Nat) (key : Key) : Bool :=
  (keyspace key).any (fun cell => cell.expired now)

def live (keyspace : Keyspace Key Value) (now : Nat) (key : Key) : Option (Cell Value) :=
  if keyspace.expired now key then none else keyspace key

def seen (keyspace : Keyspace Key Value) (now : Nat) (key : Key) : Option (Value × Bool) :=
  (keyspace.live now key).map Cell.mark

/-- The keyspaces differ in their deadlines alone. -/
def Alike (left right : Keyspace Key Value) : Prop :=
  ∀ key, (left key).map Cell.mark = (right key).map Cell.mark

/-- No deadline of the key separates the two clocks. -/
def SameSide (left : Keyspace Key Value) (leftNow : Nat) (right : Keyspace Key Value)
    (rightNow : Nat) (key : Key) : Prop :=
  left.expired leftNow key = right.expired rightNow key

theorem Alike.refl (keyspace : Keyspace Key Value) : Alike keyspace keyspace := fun _ => rfl

theorem Alike.seen_eq {left right : Keyspace Key Value} (alike : Alike left right)
    {leftNow rightNow : Nat} {key : Key} (side : SameSide left leftNow right rightNow key) :
    left.seen leftNow key = right.seen rightNow key := by
  unfold seen live
  rw [side]
  cases right.expired rightNow key with
  | true => rfl
  | false => exact alike key

end Keyspace

/-! ### Engines -/

/-- The deadline of a written cell: none, so long after the local time, at a
given time, or the one another cell has. -/
inductive Lifetime (Key : Type u) where
  | unlimited
  | after (duration : Nat)
  | fixed (time : Nat)
  | carried (source : Key)

inductive Change (Key : Type u) (Value : Type v) where
  | keep
  | remove
  | put (value : Value) (lifetime : Lifetime Key)

section Engines

variable {Key : Type u} {Value : Type v} {Command : Type w} {Reply : Type x}

def Lifetime.deadline (keyspace : Keyspace Key Value) (now : Nat) : Lifetime Key → Option Nat
  | .unlimited => none
  | .after duration => some (now + duration)
  | .fixed time => some time
  | .carried source => (keyspace.live now source).bind Cell.deadline

def Change.apply (keyspace : Keyspace Key Value) (now : Nat) (held : Option (Cell Value)) :
    Change Key Value → Option (Cell Value)
  | .keep => held
  | .remove => none
  | .put value lifetime => some { value, deadline := lifetime.deadline keyspace now }

theorem Lifetime.deadline_isSome {left right : Keyspace Key Value} (alike : left.Alike right)
    {leftNow rightNow : Nat} (lifetime : Lifetime Key)
    (undivided : ∀ source, lifetime = .carried source →
      left.SameSide leftNow right rightNow source) :
    (lifetime.deadline left leftNow).isSome = (lifetime.deadline right rightNow).isSome := by
  cases lifetime with
  | unlimited => rfl
  | after duration => rfl
  | fixed time => rfl
  | carried source =>
      have same := alike.seen_eq (undivided source rfl)
      have carries (cell : Option (Cell Value)) :
          (cell.bind Cell.deadline).isSome = (cell.map Cell.mark).any (fun mark => mark.2) := by
        cases cell <;> rfl
      unfold Lifetime.deadline
      rw [carries, carries]
      exact congrArg (fun mark : Option (Value × Bool) => mark.any (fun mark => mark.2)) same

theorem Change.apply_alike {left right : Keyspace Key Value} (alike : left.Alike right)
    {leftNow rightNow : Nat} (change : Change Key Value) (key : Key)
    (undivided : ∀ value source, change = .put value (.carried source) →
      left.SameSide leftNow right rightNow source) :
    (change.apply left leftNow (left key)).map Cell.mark =
      (change.apply right rightNow (right key)).map Cell.mark := by
  cases change with
  | keep => exact alike key
  | remove => rfl
  | put value lifetime =>
      have marked := lifetime.deadline_isSome alike
        (fun source carried => undivided value source (by rw [carried]))
      exact congrArg (fun mark => some (value, mark)) marked

/-- The outcome of a command depends on what it sees of the keys it reads, and
a deadline is carried only from one of these. -/
structure Engine (Key : Type u) (Value : Type v) (Command : Type w) (Reply : Type x) where
  reads : Command → Set Key
  effect : Command → (Key → Option (Value × Bool)) → Reply × (Key → Change Key Value)
  readsOnly : ∀ cmd first second, (∀ key ∈ reads cmd, first key = second key) →
    effect cmd first = effect cmd second
  carriesRead : ∀ cmd seen key value source,
    (effect cmd seen).2 key = .put value (.carried source) → source ∈ reads cmd

namespace Engine

variable (engine : Engine Key Value Command Reply)

def exec (now : Nat) (cmd : Command) (keyspace : Keyspace Key Value) :
    Reply × Keyspace Key Value :=
  let outcome := engine.effect cmd (keyspace.seen now)
  (outcome.1, fun key => (outcome.2 key).apply keyspace now (keyspace key))

variable {engine}

theorem exec_alike {left right : Keyspace Key Value} (alike : left.Alike right)
    {leftNow rightNow : Nat} {cmd : Command}
    (undivided : ∀ key ∈ engine.reads cmd, left.SameSide leftNow right rightNow key) :
    (engine.exec leftNow cmd left).1 = (engine.exec rightNow cmd right).1 ∧
      (engine.exec leftNow cmd left).2.Alike (engine.exec rightNow cmd right).2 := by
  have same : engine.effect cmd (left.seen leftNow) = engine.effect cmd (right.seen rightNow) :=
    engine.readsOnly cmd _ _ (fun key member => alike.seen_eq (undivided key member))
  unfold exec
  rw [same]
  refine ⟨rfl, ?_⟩
  intro key
  apply Change.apply_alike alike
  intro value source change
  exact undivided source (engine.carriesRead cmd _ key value source change)

end Engine

end Engines

end TrainsValkey.Library
