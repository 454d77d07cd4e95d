import Mathlib
import TrainsValkey.DeliveredLog

/-
The delivered log with the indices of the source, which are words of 64 bits.

`head_index += 1` wraps in a release build, which is modelled; a debug build
stops there.  Until then the log is the one over natural numbers that the
replicas hold.
-/

set_option autoImplicit false

namespace TrainsValkey

open DeliveredLog (entriesAt)

structure DeliveredEntry64 where
  index : UInt64
  op : WriteOp
deriving DecidableEq

def DeliveredEntry64.natural (entry : DeliveredEntry64) : DeliveredEntry :=
  { index := entry.index.toNat, op := entry.op }

structure DeliveredLog64 where
  entries : List DeliveredEntry64
  headIndex : UInt64
  cap : Nat

namespace DeliveredLog64

def new (cap : Nat) : DeliveredLog64 := { entries := [], headIndex := 0, cap := max cap 1 }

def resumedAt (index : UInt64) (cap : Nat) : DeliveredLog64 :=
  { entries := [], headIndex := index, cap := max cap 1 }

def append (log : DeliveredLog64) (op : WriteOp) : UInt64 × DeliveredLog64 :=
  let pushed := log.entries ++ [{ index := log.headIndex, op }]
  (log.headIndex,
    { log with
      entries := pushed.drop (pushed.length - log.cap)
      headIndex := log.headIndex + 1 })

def lowWaterIndex (log : DeliveredLog64) : UInt64 :=
  match log.entries with
  | first :: _ => first.index
  | [] => log.headIndex

def canServeFrom (log : DeliveredLog64) (x : UInt64) : Bool :=
  log.lowWaterIndex ≤ x && x ≤ log.headIndex

def entriesFrom (log : DeliveredLog64) (x : UInt64) : List DeliveredEntry64 :=
  log.entries.filter (fun entry => decide (x ≤ entry.index))

def appendAll (log : DeliveredLog64) (ops : List WriteOp) : DeliveredLog64 :=
  ops.foldl (fun log op => (log.append op).2) log

theorem appendAll_concat (log : DeliveredLog64) (ops : List WriteOp) (op : WriteOp) :
    log.appendAll (ops ++ [op]) = ((log.appendAll ops).append op).2 := by
  unfold appendAll
  rw [List.foldl_append]
  rfl

/-! ### Counting like the log over natural numbers -/

structure Counts (log : DeliveredLog64) (model : DeliveredLog) : Prop where
  entries : log.entries.map DeliveredEntry64.natural = model.entries
  headIndex : log.headIndex.toNat = model.headIndex
  cap : log.cap = model.cap

namespace Counts

variable {log : DeliveredLog64} {model : DeliveredLog}

theorem resumed (index : UInt64) (cap : Nat) :
    Counts (resumedAt index cap) (DeliveredLog.resumedAt index.toNat cap) :=
  ⟨rfl, rfl, rfl⟩

theorem length (counts : Counts log model) : log.entries.length = model.entries.length := by
  rw [← counts.entries, List.length_map]

theorem append (counts : Counts log model) (op : WriteOp)
    (fits : log.headIndex.toNat + 1 < 2 ^ 64) :
    Counts (log.append op).2 (model.append op).2 := by
  constructor
  · simp only [DeliveredLog64.append, List.map_drop, List.map_append, List.length_append,
      List.map_singleton]
    rw [DeliveredLog.append_entries, counts.entries, counts.length, counts.cap,
      DeliveredEntry64.natural, counts.headIndex]
    rfl
  · change (log.headIndex + 1).toNat = model.headIndex + 1
    rw [UInt64.toNat_add, ← counts.headIndex]
    exact Nat.mod_eq_of_lt fits
  · exact counts.cap

theorem appendAll (counts : Counts log model) (ops : List WriteOp)
    (fits : log.headIndex.toNat + ops.length < 2 ^ 64) :
    Counts (log.appendAll ops) (model.appendAll ops) := by
  induction ops using List.reverseRecOn with
  | nil => exact counts
  | append_singleton ops op ih =>
      rw [List.length_append, List.length_singleton] at fits
      have earlier := ih (by omega)
      rw [DeliveredLog64.appendAll_concat, DeliveredLog.appendAll_concat]
      apply earlier.append
      rw [earlier.headIndex, DeliveredLog.appendAll_headIndex, ← counts.headIndex]
      omega

theorem lowWaterIndex (counts : Counts log model) :
    log.lowWaterIndex.toNat = model.lowWaterIndex := by
  unfold DeliveredLog64.lowWaterIndex DeliveredLog.lowWaterIndex
  rw [← counts.entries]
  cases log.entries with
  | nil => exact counts.headIndex
  | cons first rest => rfl

theorem canServeFrom (counts : Counts log model) (x : UInt64) :
    log.canServeFrom x = model.canServeFrom x.toNat := by
  unfold DeliveredLog64.canServeFrom DeliveredLog.canServeFrom
  simp only [UInt64.le_iff_toNat_le, counts.lowWaterIndex, counts.headIndex]

theorem entriesFrom (counts : Counts log model) (x : UInt64) :
    (log.entriesFrom x).map DeliveredEntry64.natural = model.entriesFrom x.toNat := by
  unfold DeliveredLog64.entriesFrom DeliveredLog.entriesFrom
  rw [← counts.entries, List.filter_map]
  simp only [UInt64.le_iff_toNat_le]
  rfl

end Counts

/-! ### A bounded suffix -/

/-- What a log holds of the operations appended since it was empty at an
index. -/
structure SuffixOf (log : DeliveredLog64) (index cap : Nat) (ops : List WriteOp) : Prop where
  head : log.headIndex.toNat = index + ops.length
  retained : log.entries.length = min ops.length (max cap 1)
  last : log.entries.map DeliveredEntry64.natural =
    (entriesAt index ops).drop (ops.length - log.entries.length)
  consecutive : log.entries.map (fun entry => entry.index.toNat) =
    List.range' (log.headIndex.toNat - log.entries.length) log.entries.length
  low : log.lowWaterIndex.toNat = log.headIndex.toNat - log.entries.length
  serves : ∀ x : UInt64, log.canServeFrom x = true ↔
    log.lowWaterIndex.toNat ≤ x.toNat ∧ x.toNat ≤ log.headIndex.toNat
  tail : ∀ x : UInt64, log.canServeFrom x = true →
    (log.entriesFrom x).map DeliveredEntry64.natural = (entriesAt index ops).drop (x.toNat - index)

theorem Counts.suffixOf {log : DeliveredLog64} {model : DeliveredLog} (counts : Counts log model)
    {index cap : Nat} {ops : List WriteOp} (suffix : DeliveredLog.SuffixOf model index cap ops) :
    SuffixOf log index cap ops := by
  have indices : log.entries.map (fun entry => entry.index.toNat) =
      model.entries.map DeliveredEntry.index := by
    rw [← counts.entries, List.map_map]
    rfl
  constructor
  · rw [counts.headIndex, suffix.head]
  · rw [counts.length, suffix.retained]
  · rw [counts.entries, counts.length]
    exact suffix.last
  · rw [indices, counts.headIndex, counts.length]
    exact suffix.consecutive
  · rw [counts.lowWaterIndex, counts.headIndex, counts.length]
    exact suffix.low
  · intro x
    rw [counts.canServeFrom, counts.lowWaterIndex, counts.headIndex]
    exact suffix.serves x.toNat
  · intro x servable
    rw [counts.canServeFrom] at servable
    rw [counts.entriesFrom]
    exact suffix.tail x.toNat servable

theorem resumedAt_suffixOf_iff (index : UInt64) (cap : Nat) (ops : List WriteOp) :
    SuffixOf ((resumedAt index cap).appendAll ops) index.toNat cap ops ↔
      index.toNat + ops.length < 2 ^ 64 := by
  constructor
  · intro suffix
    rw [← suffix.head]
    exact UInt64.toNat_lt _
  · intro fits
    exact ((Counts.resumed index cap).appendAll ops fits).suffixOf
      (DeliveredLog.resumedAt_suffixOf index.toNat cap ops)

/-- A log holds exactly the last of the operations appended to it, as many as
its capacity allows, and serves every tail of them, whether it is new or was
resumed at an index, exactly as long as it has not counted to 2^64. -/
theorem log_is_bounded_suffix_iff (cap : Nat) (ops : List WriteOp) :
    (SuffixOf ((new cap).appendAll ops) 0 cap ops ↔ ops.length < 2 ^ 64) ∧
      ∀ index : UInt64, SuffixOf ((resumedAt index cap).appendAll ops) index.toNat cap ops ↔
        index.toNat + ops.length < 2 ^ 64 := by
  refine ⟨?_, fun index => resumedAt_suffixOf_iff index cap ops⟩
  have counted := resumedAt_suffixOf_iff 0 cap ops
  rw [UInt64.toNat_zero, Nat.zero_add] at counted
  exact counted

/-! ### The last index -/

def lastIndex : UInt64 := 18446744073709551615

def lastWrite : WriteOp := WriteOp.new 0 0 [asBytes "DEL", asBytes "k"]

def wrapped : DeliveredLog64 := (resumedAt lastIndex 8).appendAll [lastWrite]

/-- Resumed at the last index, the log goes on at 0 and serves nobody the
operation that it retains. -/
theorem last_index_wraps :
    lastIndex.toNat = 2 ^ 64 - 1 ∧ wrapped.headIndex = 0 ∧
      wrapped.entries = [{ index := lastIndex, op := lastWrite }] ∧
      wrapped.lowWaterIndex = lastIndex ∧ wrapped.canServeFrom lastIndex = false ∧
      ¬SuffixOf wrapped lastIndex.toNat 8 [lastWrite] := by
  have word : lastIndex.toNat = 2 ^ 64 - 1 := by decide
  refine ⟨word, by decide, by decide, by decide, by decide, ?_⟩
  intro suffix
  have head := suffix.head
  rw [word] at head
  exact absurd head (by decide)

end DeliveredLog64

end TrainsValkey
