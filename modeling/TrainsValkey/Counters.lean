import TrainsValkey.StoreWrites
import TrainsValkey.TextRoundTrip

/-
The integer commands: `INCR`, `DECR`, `INCRBY`, `DECRBY` and `HINCRBY`.

A counter is the string under a key or one field of a hash.  What a command
asks for is stated over all integers, and the store's answer is compared with
the exact sum.
-/

set_option autoImplicit false

namespace TrainsValkey

open Std (ExtTreeMap)

/-- The counter a command addresses and the signed change it asks for. -/
inductive Counts (cmd : Command) : Bytes → Option Bytes → Int → Prop
  | incr {key : Bytes} (named : cmd.name = "INCR") (keyed : cmd.arg 1 = some key) :
      Counts cmd key none 1
  | decr {key : Bytes} (named : cmd.name = "DECR") (keyed : cmd.arg 1 = some key) :
      Counts cmd key none (-1)
  | incrby {key operand : Bytes} {n : Int} (named : cmd.name = "INCRBY")
      (keyed : cmd.arg 1 = some key) (operated : cmd.arg 2 = some operand)
      (read : MemStore.asInt operand = some n) : Counts cmd key none n
  | decrby {key operand : Bytes} {n : Int} (named : cmd.name = "DECRBY")
      (keyed : cmd.arg 1 = some key) (operated : cmd.arg 2 = some operand)
      (read : MemStore.asInt operand = some n) : Counts cmd key none (-n)
  | hincrby {key field operand : Bytes} {n : Int} (named : cmd.name = "HINCRBY")
      (keyed : cmd.arg 1 = some key) (fielded : cmd.arg 2 = some field)
      (operated : cmd.arg 3 = some operand) (read : MemStore.asInt operand = some n) :
      Counts cmd key (some field) n

/-- Whether the arm panics in a build with overflow checks.  Unary minus on
the operand of `DECRBY` is the only unchecked operation of the five. -/
def Command.negationPanics (cmd : Command) : Prop :=
  cmd.name = "DECRBY" ∧ cmd.key.isSome ∧ (cmd.arg 2).bind MemStore.asInt = some i64Min

namespace MemStore

def counterCell (store : MemStore) (key : Bytes) : Option Bytes → Option (Option Bytes)
  | none => store.stringCell key
  | some field => store.fieldCell key field

def countOf : Option Bytes → Option Int
  | none => some 0
  | some bytes => asInt bytes

/-- What a counter command that meets `value` and asks for `change` has to do. -/
structure CountedExactly (before : MemStore) (key : Bytes) (field : Option Bytes)
    (value change : Int) (reply : Reply) (after : MemStore) : Prop where
  fits : inI64 (value + change) = true → reply = .integer (value + change) ∧
    ∃ bytes, after.counterCell key field = some (some bytes) ∧
      asInt bytes = some (value + change)
  overflows : inI64 (value + change) = false → reply.isError = true ∧ after = before
  others : ∀ other, other ≠ key → after.data[other]? = before.data[other]?
  fields : ∀ other, field ≠ none → field ≠ some other →
    after.fieldCell key other = before.fieldCell key other
  deadlines : after.ttl = before.ttl

section Spec

variable {store : MemStore} {cmd : Command} {key : Bytes}

theorem CountedExactly.refused {field : Option Bytes} {value change : Int} {reply : Reply}
    (exceeds : inI64 (value + change) = false) (failed : reply.isError = true) :
    CountedExactly store key field value change reply store where
  fits within := absurd within (by rw [exceeds]; exact Bool.false_ne_true)
  overflows _ := ⟨failed, rfl⟩
  others _ _ := rfl
  fields _ _ _ := rfl
  deadlines := rfl

theorem checkedAdd_fits {left right : Int} (fits : inI64 (left + right) = true) :
    checkedAdd left right = some (left + right) := if_pos fits

theorem checkedAdd_overflows {left right : Int} (exceeds : inI64 (left + right) = false) :
    checkedAdd left right = none := by
  unfold checkedAdd
  rw [exceeds]
  exact if_neg Bool.false_ne_true

theorem asInt_i64Bytes {value : Int} (fits : inI64 value = true) :
    asInt (i64Bytes value) = some value := parse_i64Bytes fits

theorem applyIncr_eq {value delta : Int} {content : Option Bytes}
    (keyed : cmd.key = some key) (asked : incrDelta cmd = .ok delta)
    (under : store.stringCell key = some content) (stands : countOf content = some value) :
    store.applyIncr cmd =
      if inI64 (value + delta) then
        (.integer (value + delta),
          { store with data := store.data.insert key (.str (i64Bytes (value + delta))) })
      else (wouldOverflow, store) := by
  unfold stringCell at under
  cases held : store.data[key]? with
  | none =>
      rw [held] at under
      cases under
      cases stands
      simp only [applyIncr, keyed, asked, held]
      cases fits : inI64 (0 + delta) with
      | true => simp only [checkedAdd_fits fits, if_true]
      | false => simp only [checkedAdd_overflows fits, Bool.false_eq_true, if_false]
  | some cell =>
      cases cell with
      | str bytes =>
          rw [held] at under
          cases under
          have read : asInt bytes = some value := stands
          simp only [applyIncr, keyed, asked, held, read]
          cases fits : inI64 (value + delta) with
          | true => simp only [checkedAdd_fits fits, if_true]
          | false => simp only [checkedAdd_overflows fits, Bool.false_eq_true, if_false]
      | hash _ =>
          rw [held] at under
          cases under
      | set _ =>
          rw [held] at under
          cases under

theorem incrDelta_incr (named : cmd.name = "INCR") : incrDelta cmd = .ok 1 := by
  unfold incrDelta
  rw [named]
  rfl

theorem incrDelta_decr (named : cmd.name = "DECR") : incrDelta cmd = .ok (-1) := by
  unfold incrDelta
  rw [named]
  rfl

theorem incrDelta_incrby {operand : Bytes} {n : Int} (named : cmd.name = "INCRBY")
    (operated : cmd.arg 2 = some operand) (read : asInt operand = some n) :
    incrDelta cmd = .ok n := by
  unfold incrDelta
  simp only [named, operated, Option.bind_some, read]

theorem incrDelta_decrby {operand : Bytes} {n : Int} (named : cmd.name = "DECRBY")
    (operated : cmd.arg 2 = some operand) (read : asInt operand = some n) :
    incrDelta cmd = .ok (wrappingNeg n) := by
  unfold incrDelta
  simp only [named, operated, Option.bind_some, read]
  rfl

theorem applyIncr_counted {value delta : Int} {content : Option Bytes}
    (keyed : cmd.key = some key) (asked : incrDelta cmd = .ok delta)
    (under : store.stringCell key = some content) (stands : countOf content = some value) :
    CountedExactly store key none value delta (store.applyIncr cmd).1 (store.applyIncr cmd).2 := by
  cases fits : inI64 (value + delta) with
  | true =>
      rw [applyIncr_eq keyed asked under stands, if_pos fits]
      constructor
      · intro _
        refine ⟨rfl, i64Bytes (value + delta), ?_, asInt_i64Bytes fits⟩
        simp only [counterCell, stringCell, ExtTreeMap.getElem?_insert_self]
      · intro exceeds
        rw [fits] at exceeds
        cases exceeds
      · intro other different
        exact getElem?_insert_of_ne store.data different _
      · intro other fielded
        exact absurd rfl fielded
      · rfl
  | false =>
      rw [applyIncr_eq keyed asked under stands, if_neg (ne_true_of_eq_false fits)]
      exact .refused fits rfl

theorem hash_of_fieldCell {field : Bytes} {content : Option Bytes}
    (under : store.fieldCell key field = some content) :
    ∃ h : ExtTreeMap Bytes Bytes, store.data[key]?.getD (.hash ∅) = .hash h ∧
      h[field]? = content ∧ (∀ other, store.fieldCell key other = some h[other]?) ∧
        (store.data[key]? = some (.hash h) ∨ h = ∅) := by
  unfold fieldCell at under ⊢
  cases held : store.data[key]? with
  | none =>
      rw [held] at under
      cases under
      refine ⟨∅, rfl, ExtTreeMap.getElem?_empty, ?_, .inr rfl⟩
      intro other
      exact congrArg some ExtTreeMap.getElem?_empty.symm
  | some value =>
      cases value with
      | hash h =>
          rw [held] at under
          cases under
          exact ⟨h, rfl, rfl, fun _ => rfl, .inl rfl⟩
      | str bytes =>
          rw [held] at under
          cases under
      | set members =>
          rw [held] at under
          cases under

theorem applyHincrby_counted {field operand : Bytes} {value delta : Int} {content : Option Bytes}
    (keyed : cmd.arg 1 = some key) (fielded : cmd.arg 2 = some field)
    (operated : cmd.arg 3 = some operand) (read : asInt operand = some delta)
    (under : store.fieldCell key field = some content) (stands : countOf content = some value) :
    CountedExactly store key (some field) value delta (store.applyHincrby cmd).1
      (store.applyHincrby cmd).2 := by
  obtain ⟨h, opened, found, cells, kept⟩ := hash_of_fieldCell under
  cases fits : inI64 (value + delta) with
  | true =>
      have written : store.applyHincrby cmd = (.integer (value + delta),
          { store with
            data := store.data.insert key (.hash (h.insert field (i64Bytes (value + delta)))) }) := by
        unfold applyHincrby
        simp only [keyed, fielded, operated, read, opened, found]
        cases content with
        | none =>
            cases stands
            simp only [checkedAdd_fits fits]
        | some bytes =>
            simp only [show asInt bytes = some value from stands, checkedAdd_fits fits]
      rw [written]
      constructor
      · intro _
        refine ⟨rfl, i64Bytes (value + delta), ?_, asInt_i64Bytes fits⟩
        simp only [counterCell, fieldCell, ExtTreeMap.getElem?_insert_self]
      · intro exceeds
        rw [fits] at exceeds
        cases exceeds
      · intro other different
        exact getElem?_insert_of_ne store.data different _
      · intro other _ different
        have apart : other ≠ field := fun same => different (congrArg some same.symm)
        rw [cells other]
        simp only [fieldCell, ExtTreeMap.getElem?_insert_self]
        rw [getElem?_insert_of_ne h apart]
      · rfl
  | false =>
      have refused : store.applyHincrby cmd = (wouldOverflow, store) := by
        rcases kept with held | rfl
        · unfold applyHincrby
          simp only [keyed, fielded, operated, read, opened, found]
          cases content with
          | none =>
              cases stands
              simp only [checkedAdd_overflows fits, insert_held held]
          | some bytes =>
              simp only [show asInt bytes = some value from stands, checkedAdd_overflows fits,
                insert_held held]
        · -- an absent field stands at zero, and the operand alone fits
          rw [ExtTreeMap.getElem?_empty] at found
          subst found
          cases stands
          rw [Int.zero_add, asInt_fits read] at fits
          cases fits
      rw [refused]
      exact .refused fits rfl

/-! ### The five commands -/

theorem apply_incr (named : cmd.name = "INCR" ∨ cmd.name = "DECR" ∨ cmd.name = "INCRBY" ∨
    cmd.name = "DECRBY") : store.apply cmd = store.applyIncr cmd := by
  unfold apply
  rcases named with named | named | named | named <;> simp only [named]

theorem apply_hincrby (named : cmd.name = "HINCRBY") : store.apply cmd = store.applyHincrby cmd := by
  unfold apply
  simp only [named]

theorem inI64_iff {n : Int} : inI64 n = true ↔ i64Min ≤ n ∧ n ≤ i64Max := by
  unfold inI64
  rw [Bool.and_eq_true, decide_eq_true_eq, decide_eq_true_eq]

theorem inI64_neg {n : Int} (fits : inI64 n = true) : inI64 (-n) = false ↔ n = i64Min := by
  rw [inI64_iff] at fits
  rw [← Bool.not_eq_true, inI64_iff]
  unfold i64Min i64Max at *
  omega

theorem change_fits_or {field : Option Bytes} {change : Int} (counts : Counts cmd key field change) :
    inI64 change = true ∨
      cmd.name = "DECRBY" ∧ field = none ∧ change = -i64Min ∧ cmd.arg 1 = some key ∧
        incrDelta cmd = .ok i64Min := by
  cases counts with
  | incr named keyed => exact .inl rfl
  | decr named keyed => exact .inl rfl
  | incrby named keyed operated read => exact .inl (asInt_fits read)
  | hincrby named keyed fielded operated read => exact .inl (asInt_fits read)
  | @decrby operand n named keyed operated read =>
      cases fits : inI64 (-n) with
      | true => exact .inl rfl
      | false =>
          have smallest := (inI64_neg (asInt_fits read)).mp fits
          subst smallest
          exact .inr ⟨named, rfl, rfl, keyed, incrDelta_decrby named operated read⟩

theorem counts_exactly {field : Option Bytes} {change value : Int}
    (counts : Counts cmd key field change) (fits : inI64 change = true)
    (stands : (store.counterCell key field).bind countOf = some value) :
    CountedExactly store key field value change (store.apply cmd).1 (store.apply cmd).2 := by
  obtain ⟨content, under, counted⟩ := Option.bind_eq_some_iff.mp stands
  cases counts with
  | incr named keyed =>
      rw [apply_incr (.inl named)]
      exact applyIncr_counted keyed (incrDelta_incr named) under counted
  | decr named keyed =>
      rw [apply_incr (.inr (.inl named))]
      exact applyIncr_counted keyed (incrDelta_decr named) under counted
  | incrby named keyed operated read =>
      rw [apply_incr (.inr (.inr (.inl named)))]
      exact applyIncr_counted keyed (incrDelta_incrby named operated read) under counted
  | @decrby operand n named keyed operated read =>
      have notSmallest : n ≠ i64Min := by
        intro smallest
        rw [(inI64_neg (asInt_fits read)).mpr smallest] at fits
        cases fits
      rw [apply_incr (.inr (.inr (.inr named)))]
      refine applyIncr_counted keyed ?_ under counted
      rw [incrDelta_decrby named operated read, wrappingNeg, if_neg notSmallest]
  | hincrby named keyed fielded operated read =>
      rw [apply_hincrby named]
      exact applyHincrby_counted keyed fielded operated read under counted

theorem countOf_fits {content : Option Bytes} {value : Int} (stands : countOf content = some value) :
    inI64 value = true := by
  cases content with
  | none =>
      cases stands
      rfl
  | some bytes => exact asInt_fits stands

/-- The negated smallest integer wraps to itself: the arm subtracts 2^63 from
what is not negative and refuses to add it to what is. -/
theorem smallest_not_counted {value : Int} (named : cmd.name = "DECRBY")
    (keyed : cmd.arg 1 = some key) (asked : incrDelta cmd = .ok i64Min)
    (stands : (store.stringCell key).bind countOf = some value) :
    ¬CountedExactly store key none value (-i64Min) (store.apply cmd).1 (store.apply cmd).2 := by
  obtain ⟨content, under, counted⟩ := Option.bind_eq_some_iff.mp stands
  rw [apply_incr (.inr (.inr (.inr named)))]
  have range := inI64_iff.mp (countOf_fits counted)
  intro claimed
  by_cases negative : value < 0
  · have fits : inI64 (value + -i64Min) = true := by
      rw [inI64_iff]
      unfold i64Min i64Max at *
      omega
    have wraps : inI64 (value + i64Min) = false := by
      rw [← Bool.not_eq_true, inI64_iff]
      unfold i64Min i64Max at *
      omega
    have answered := (claimed.fits fits).1
    rw [applyIncr_eq keyed asked under counted, if_neg (ne_true_of_eq_false wraps)] at answered
    cases answered
  · have exceeds : inI64 (value + -i64Min) = false := by
      rw [← Bool.not_eq_true, inI64_iff]
      unfold i64Min i64Max at *
      omega
    have wraps : inI64 (value + i64Min) = true := by
      rw [inI64_iff]
      unfold i64Min i64Max at *
      omega
    have failed := (claimed.overflows exceeds).1
    rw [applyIncr_eq keyed asked under counted, if_pos wraps] at failed
    cases failed

theorem applyIncr_refused {delta : Int} (keyed : cmd.key = some key)
    (asked : incrDelta cmd = .ok delta) (nothing : (store.stringCell key).bind countOf = none) :
    (store.applyIncr cmd).1.isError = true ∧ (store.applyIncr cmd).2 = store := by
  unfold applyIncr
  unfold stringCell at nothing
  simp only [keyed, asked]
  cases held : store.data[key]? with
  | none =>
      rw [held] at nothing
      cases nothing
  | some value =>
      cases value with
      | str bytes =>
          rw [held] at nothing
          have unread : asInt bytes = none := nothing
          simp only [unread, and_true]
          rfl
      | hash h => exact ⟨rfl, rfl⟩
      | set members => exact ⟨rfl, rfl⟩

theorem applyHincrby_refused {field operand : Bytes} {delta : Int}
    (keyed : cmd.arg 1 = some key) (fielded : cmd.arg 2 = some field)
    (operated : cmd.arg 3 = some operand) (read : asInt operand = some delta)
    (nothing : (store.fieldCell key field).bind countOf = none) :
    (store.applyHincrby cmd).1.isError = true ∧ (store.applyHincrby cmd).2 = store := by
  unfold applyHincrby
  unfold fieldCell at nothing
  simp only [keyed, fielded, operated, read]
  cases held : store.data[key]? with
  | none =>
      rw [held] at nothing
      cases nothing
  | some value =>
      cases value with
      | hash h =>
          rw [held] at nothing
          cases found : h[field]? with
          | none =>
              simp only [found] at nothing
              cases nothing
          | some bytes =>
              simp only [found] at nothing
              have unread : asInt bytes = none := nothing
              simp only [Option.getD_some, found, unread, insert_held held, and_true]
              rfl
      | str bytes => exact ⟨rfl, rfl⟩
      | set members => exact ⟨rfl, rfl⟩

theorem uncounted_refused {field : Option Bytes} {change : Int}
    (counts : Counts cmd key field change)
    (nothing : (store.counterCell key field).bind countOf = none) :
    (store.apply cmd).1.isError = true ∧ (store.apply cmd).2 = store := by
  cases counts with
  | incr named keyed =>
      rw [apply_incr (.inl named)]
      exact applyIncr_refused keyed (incrDelta_incr named) nothing
  | decr named keyed =>
      rw [apply_incr (.inr (.inl named))]
      exact applyIncr_refused keyed (incrDelta_decr named) nothing
  | incrby named keyed operated read =>
      rw [apply_incr (.inr (.inr (.inl named)))]
      exact applyIncr_refused keyed (incrDelta_incrby named operated read) nothing
  | decrby named keyed operated read =>
      rw [apply_incr (.inr (.inr (.inr named)))]
      exact applyIncr_refused keyed (incrDelta_decrby named operated read) nothing
  | hincrby named keyed fielded operated read =>
      rw [apply_hincrby named]
      exact applyHincrby_refused keyed fielded operated read nothing

theorem negationPanics_iff {field : Option Bytes} {change : Int}
    (counts : Counts cmd key field change) : cmd.negationPanics ↔ inI64 change = false := by
  have apart (other : String) (named : cmd.name = other) (different : other ≠ "DECRBY") :
      ¬cmd.negationPanics := by
    rintro ⟨decrby, _⟩
    exact different (named.symm.trans decrby)
  have within {n : Int} (fits : inI64 n = true) : ¬inI64 n = false := by
    rw [fits]
    exact Bool.false_ne_true.symm
  cases counts with
  | incr named keyed => exact iff_of_false (apart _ named (by decide)) (within rfl)
  | decr named keyed => exact iff_of_false (apart _ named (by decide)) (within rfl)
  | incrby named keyed operated read =>
      exact iff_of_false (apart _ named (by decide)) (within (asInt_fits read))
  | hincrby named keyed fielded operated read =>
      exact iff_of_false (apart _ named (by decide)) (within (asInt_fits read))
  | decrby named keyed operated read =>
      rw [inI64_neg (asInt_fits read)]
      constructor
      · rintro ⟨_, _, smallest⟩
        rw [operated, Option.bind_some, read] at smallest
        exact Option.some.inj smallest
      · rintro rfl
        refine ⟨named, ?_, ?_⟩
        · rw [Command.key, keyed]
          rfl
        · rw [operated, Option.bind_some, read]

/-- The change that was asked for is counted exactly, whatever integer the
counter stands at, if and only if it is itself a 64-bit integer.  The one that
is not is the negation that panics under overflow checks. -/
theorem counts_exactly_iff {field : Option Bytes} {change : Int}
    (counts : Counts cmd key field change) :
    (cmd.negationPanics ↔ inI64 change = false) ∧
      (∀ value, (store.counterCell key field).bind countOf = some value →
        (CountedExactly store key field value change (store.apply cmd).1 (store.apply cmd).2 ↔
          inI64 change = true)) ∧
      ((store.counterCell key field).bind countOf = none →
        (store.apply cmd).1.isError = true ∧ (store.apply cmd).2 = store) := by
  refine ⟨negationPanics_iff counts, ?_, uncounted_refused counts⟩
  intro value stands
  refine ⟨?_, fun fits => counts_exactly counts fits stands⟩
  intro counted
  rcases change_fits_or counts with fits | ⟨named, rfl, rfl, keyed, asked⟩
  · exact fits
  · exact absurd counted (smallest_not_counted named keyed asked stands)

end Spec

/-! ### A decrement by the smallest integer -/

def decrbySmallest : Command :=
  { name := "DECRBY"
    argv := [asBytes "DECRBY", asBytes "c", asBytes "-9223372036854775808"] }

/-- The change asked for is 2^63.  From zero the counter goes down by as much
instead of refusing; from minus one, where the exact sum fits, it refuses. -/
theorem decrby_smallest_not_exact :
    Counts decrbySmallest (asBytes "c") none (-i64Min) ∧ decrbySmallest.negationPanics ∧
      (new.apply decrbySmallest).1 = .integer i64Min ∧
      ¬CountedExactly new (asBytes "c") none 0 (-i64Min) (new.apply decrbySmallest).1
        (new.apply decrbySmallest).2 ∧
      (apply { new with data := new.data.insert (asBytes "c") (.str (asBytes "-1")) }
        decrbySmallest).1 = wouldOverflow := by
  have read : asInt (asBytes "-9223372036854775808") = some i64Min := by decide
  refine ⟨.decrby rfl rfl rfl read, ⟨rfl, rfl, read⟩, by decide, ?_, by decide⟩
  exact smallest_not_counted rfl rfl (incrDelta_decrby rfl rfl read) (by decide)

theorem counts_exactly_iff_incr :
    CountedExactly new (asBytes "c") none 0 1
      (new.apply { name := "INCR", argv := [asBytes "INCR", asBytes "c"] }).1
      (new.apply { name := "INCR", argv := [asBytes "INCR", asBytes "c"] }).2 :=
  ((counts_exactly_iff (.incr rfl rfl)).2.1 0 (by decide)).mpr rfl

end MemStore

end TrainsValkey
