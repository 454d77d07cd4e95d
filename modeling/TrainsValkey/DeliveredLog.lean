import Mathlib.Data.List.Induction
import TrainsValkey.Library.IndexedRun
import TrainsValkey.Command
import TrainsValkey.Wire

/-
The bounded log of delivered effects a survivor serves a rejoining replica
from.  The k-th applied effect carries index k; the log keeps the most recent
ones and never renumbers.

An index is a natural number here.  `DeliveredLog64` has the words of the
source, which agree with it as long as they do not wrap.
-/

set_option autoImplicit false

namespace TrainsValkey

open Library (EndsAt)

def defaultCap : Nat := 1 <<< 18

structure DeliveredEntry where
  index : Nat
  op : WriteOp
deriving DecidableEq

/-- Entries carry the indices just below `headIndex`, oldest first, and at
most `cap` of them are retained. -/
@[ext] structure DeliveredLog where
  entries : List DeliveredEntry
  headIndex : Nat
  cap : Nat
  capPositive : 0 < cap
  bounded : entries.length ≤ cap
  numbered : EndsAt DeliveredEntry.index headIndex entries

namespace DeliveredLog

def resumedAt (index cap : Nat) : DeliveredLog :=
  { entries := []
    headIndex := index
    cap := max cap 1
    capPositive := by omega
    bounded := Nat.zero_le _
    numbered := EndsAt.nil index }

def new (cap : Nat) : DeliveredLog := resumedAt 0 cap

def default : DeliveredLog := new defaultCap

/-- Append an applied effect and evict from the front down to the capacity.
Returns the index it was assigned. -/
def append (log : DeliveredLog) (op : WriteOp) : Nat × DeliveredLog :=
  let pushed := log.entries ++ [{ index := log.headIndex, op }]
  (log.headIndex,
    { log with
      entries := pushed.drop (pushed.length - log.cap)
      headIndex := log.headIndex + 1
      bounded := by
        rw [List.length_drop]
        omega
      numbered := (log.numbered.snoc rfl).drop _ })

def lowWaterIndex (log : DeliveredLog) : Nat :=
  match log.entries with
  | first :: _ => first.index
  | [] => log.headIndex

def canServeFrom (log : DeliveredLog) (x : Nat) : Bool :=
  log.lowWaterIndex ≤ x && x ≤ log.headIndex

def entriesFrom (log : DeliveredLog) (x : Nat) : List DeliveredEntry :=
  log.entries.filter (fun entry => decide (x ≤ entry.index))

@[simp] theorem resumedAt_headIndex (index cap : Nat) :
    (resumedAt index cap).headIndex = index := rfl

@[simp] theorem append_headIndex (log : DeliveredLog) (op : WriteOp) :
    (log.append op).2.headIndex = log.headIndex + 1 := rfl

theorem append_entries (log : DeliveredLog) (op : WriteOp) :
    (log.append op).2.entries =
      (log.entries ++ [DeliveredEntry.mk log.headIndex op]).drop
        (log.entries.length + 1 - log.cap) := by
  simp only [append, List.length_append, List.length_singleton]

theorem mem_append {log : DeliveredLog} {op : WriteOp} {entry : DeliveredEntry}
    (member : entry ∈ (log.append op).2.entries) :
    entry ∈ log.entries ∨ entry = { index := log.headIndex, op } := by
  rw [append_entries] at member
  have inPushed := List.mem_of_mem_drop member
  rwa [List.mem_append, List.mem_singleton] at inPushed

theorem lowWaterIndex_eq (log : DeliveredLog) :
    log.lowWaterIndex = log.headIndex - log.entries.length := by
  unfold lowWaterIndex
  cases found : log.entries with
  | nil => rfl
  | cons first rest =>
      have bound : 0 < log.entries.length := by
        rw [found]
        exact Nat.succ_pos _
      have lowest := log.numbered.index_getElem bound
      simp only [found, List.getElem_cons_zero, Nat.add_zero] at lowest
      exact lowest

theorem entriesFrom_eq (log : DeliveredLog) (x : Nat) :
    log.entriesFrom x = log.entries.drop (x - log.lowWaterIndex) := by
  rw [lowWaterIndex_eq]
  exact log.numbered.filter_from x

theorem entriesFrom_headIndex (log : DeliveredLog) : log.entriesFrom log.headIndex = [] := by
  have fits := log.numbered.fits
  rw [entriesFrom_eq, lowWaterIndex_eq]
  apply List.drop_eq_nil_of_le
  omega

/-! ### A log and everything appended to it -/

def appendAll (log : DeliveredLog) (ops : List WriteOp) : DeliveredLog :=
  ops.foldl (fun log op => (log.append op).2) log

def entriesAt (index : Nat) (ops : List WriteOp) : List DeliveredEntry :=
  ops.mapIdx (fun position op => { index := index + position, op })

theorem length_entriesAt (index : Nat) (ops : List WriteOp) :
    (entriesAt index ops).length = ops.length := List.length_mapIdx

theorem entriesAt_concat (index : Nat) (ops : List WriteOp) (op : WriteOp) :
    entriesAt index (ops ++ [op]) =
      entriesAt index ops ++ [DeliveredEntry.mk (index + ops.length) op] := List.mapIdx_concat

theorem appendAll_concat (log : DeliveredLog) (ops : List WriteOp) (op : WriteOp) :
    log.appendAll (ops ++ [op]) = ((log.appendAll ops).append op).2 := by
  unfold appendAll
  rw [List.foldl_append]
  rfl

theorem appendAll_cap (log : DeliveredLog) (ops : List WriteOp) :
    (log.appendAll ops).cap = log.cap := by
  induction ops using List.reverseRecOn with
  | nil => rfl
  | append_singleton ops op ih =>
      rw [appendAll_concat]
      exact ih

theorem appendAll_headIndex (log : DeliveredLog) (ops : List WriteOp) :
    (log.appendAll ops).headIndex = log.headIndex + ops.length := by
  induction ops using List.reverseRecOn with
  | nil => rfl
  | append_singleton ops op ih =>
      rw [appendAll_concat, append_headIndex, ih, List.length_append, List.length_singleton]
      rfl

theorem appendAll_entries (log : DeliveredLog) (empty : log.entries = []) (ops : List WriteOp) :
    (log.appendAll ops).entries =
      (entriesAt log.headIndex ops).drop (ops.length - log.cap) := by
  induction ops using List.reverseRecOn with
  | nil =>
      rw [entriesAt, List.mapIdx_nil, List.drop_nil]
      exact empty
  | append_singleton ops op ih =>
      have positive := log.capPositive
      have within : ops.length - log.cap ≤ (entriesAt log.headIndex ops).length := by
        rw [length_entriesAt]
        exact Nat.sub_le _ _
      have shift : ops.length - log.cap + (ops.length - (ops.length - log.cap) + 1 - log.cap) =
          (ops ++ [op]).length - log.cap := by
        rw [List.length_append, List.length_singleton]
        omega
      rw [appendAll_concat, append_entries, appendAll_cap, appendAll_headIndex, ih,
        List.length_drop, length_entriesAt, ← List.drop_append_of_le_length within, List.drop_drop,
        shift, entriesAt_concat]

/-- What a log holds of the operations appended since it was empty at an
index. -/
structure SuffixOf (log : DeliveredLog) (index cap : Nat) (ops : List WriteOp) : Prop where
  head : log.headIndex = index + ops.length
  retained : log.entries.length = min ops.length (max cap 1)
  last : log.entries = (entriesAt index ops).drop (ops.length - log.entries.length)
  consecutive : log.entries.map DeliveredEntry.index =
    List.range' (log.headIndex - log.entries.length) log.entries.length
  low : log.lowWaterIndex = log.headIndex - log.entries.length
  serves : ∀ x, log.canServeFrom x = true ↔ log.lowWaterIndex ≤ x ∧ x ≤ log.headIndex
  tail : ∀ x, log.canServeFrom x = true → log.entriesFrom x = (entriesAt index ops).drop (x - index)

theorem canServeFrom_iff (log : DeliveredLog) (x : Nat) :
    log.canServeFrom x = true ↔ log.lowWaterIndex ≤ x ∧ x ≤ log.headIndex := by
  simp only [canServeFrom, Bool.and_eq_true, decide_eq_true_eq]

theorem resumedAt_suffixOf (index cap : Nat) (ops : List WriteOp) :
    SuffixOf ((resumedAt index cap).appendAll ops) index cap ops := by
  have head := appendAll_headIndex (resumedAt index cap) ops
  have entries := appendAll_entries (resumedAt index cap) rfl ops
  rw [resumedAt_headIndex] at head entries
  change _ = (entriesAt index ops).drop (ops.length - max cap 1) at entries
  generalize (resumedAt index cap).appendAll ops = log at head entries ⊢
  have retained : log.entries.length = min ops.length (max cap 1) := by
    rw [entries, List.length_drop, length_entriesAt]
    omega
  have dropped : ops.length - log.entries.length = ops.length - max cap 1 := by omega
  constructor
  · exact head
  · exact retained
  · rw [dropped]
    exact entries
  · exact log.numbered.numbered
  · exact log.lowWaterIndex_eq
  · exact log.canServeFrom_iff
  · intro x servable
    have reached := ((log.canServeFrom_iff x).mp servable).1
    rw [entriesFrom_eq, entries, List.drop_drop]
    congr 1
    rw [log.lowWaterIndex_eq] at reached ⊢
    omega

end DeliveredLog

end TrainsValkey
