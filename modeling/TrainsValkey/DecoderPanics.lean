import TrainsValkey.RespStream

/-
The request decoder with its panics.

The decoder is written out once more with every operation of it that can panic:
a slice out of range, a length addition out of range, and an allocation of more
than `isize::MAX` bytes.  `none` is the panic.  Only the allocation for the
elements that a header announces can fail.
-/

set_option autoImplicit false

namespace TrainsValkey

/-! ### What can panic -/

def usizeMax : Nat := 18446744073709551615

def usizeAdd (left right : Nat) : Option Nat :=
  if left + right ≤ usizeMax then some (left + right) else none

/-- `&b[start..stop]`. -/
def sliceRange (b : Bytes) (start stop : Nat) : Option Bytes :=
  if start ≤ stop ∧ stop ≤ b.length then some ((b.drop start).take (stop - start)) else none

def sliceFrom (b : Bytes) (start : Nat) : Option Bytes :=
  if start ≤ b.length then some (b.drop start) else none

/-- `Vec::with_capacity(count)` for elements of `size` bytes. -/
def withCapacity (size count : Nat) : Option Unit :=
  if size * count ≤ isizeMax then some () else none

/-- The sizes of the elements the codec allocates for, `Vec<u8>` and `Reply`. -/
structure ElementSizes where
  vec : Nat
  reply : Nat

section Operations

variable {b : Bytes}

theorem usizeAdd_eq {left right : Nat} (fits : left + right ≤ usizeMax) :
    usizeAdd left right = some (left + right) := if_pos fits

theorem sliceRange_eq {start stop : Nat} (ordered : start ≤ stop) (within : stop ≤ b.length) :
    sliceRange b start stop = some ((b.drop start).take (stop - start)) := if_pos ⟨ordered, within⟩

theorem sliceFrom_eq {start : Nat} (within : start ≤ b.length) :
    sliceFrom b start = some (b.drop start) := if_pos within

end Operations

/-! ### Requests -/

def parseCrlfLineChecked (b : Bytes) : Option (Option (Bytes × Nat)) :=
  match crlfPosition b with
  | none => some none
  | some idx => do
      let line ← sliceRange b 0 idx
      let used ← usizeAdd idx 2
      some (some (line, used))

def parseBulkChecked (b : Bytes) (cur : Nat) (bulkHdr : Bytes) (used : Nat) :
    Option (Except RespError (Option (Bytes × Nat))) :=
  if bulkHdr.head? ≠ some 36 then some (.error (.protocol .expectedBulkString))
  else do
    let digits ← sliceFrom bulkHdr 1
    match parseDecimal digits with
    | none => some (.error (.protocol .badBulkLength))
    | some len => do
        let cur ← usizeAdd cur used
        if len < 0 then some (.ok (some ([], cur)))
        else do
          let len := len.toNat
          let left ← sliceFrom b cur
          let needed ← usizeAdd len 2
          if left.length < needed then some (.ok none)
          else do
            let stop ← usizeAdd cur len
            let next ← usizeAdd stop 2
            let trailer ← sliceRange b stop next
            if trailer ≠ crlf then some (.error (.protocol .missingCrlf))
            else do
              let payload ← sliceRange b cur stop
              let taken ← usizeAdd len 2
              let cur ← usizeAdd cur taken
              some (.ok (some (payload, cur)))

def parseBulksChecked (b : Bytes) : Nat → Nat → List Bytes →
    Option (Except RespError (Option ParsedFrame))
  | 0, cur, argv => some (.ok (some (argv, cur)))
  | n + 1, cur, argv => do
      let left ← sliceFrom b cur
      let line ← parseCrlfLineChecked left
      match line with
      | none => some (.ok none)
      | some (bulkHdr, used) => do
          match ← parseBulkChecked b cur bulkHdr used with
          | .error e => some (.error e)
          | .ok none => some (.ok none)
          | .ok (some (word, cur)) => parseBulksChecked b n cur (argv ++ [word])

def splitWords (line : Bytes) : List Bytes :=
  (line.splitOnP (fun c => c = 32 || c = 9)).filter (fun word => !word.isEmpty)

def dropReturn (line : Bytes) : Option Bytes :=
  if line.getLast? = some 13 then sliceRange line 0 (line.length - 1) else some line

def parseInlineChecked (b : Bytes) : Option (Except RespError (Option ParsedFrame)) :=
  match b.findIdx? (fun c => c = 10) with
  | none => some (.ok none)
  | some nl => do
      let line ← sliceRange b 0 nl
      let line ← dropReturn line
      let used ← usizeAdd nl 1
      some (.ok (some (splitWords line, used)))

def parseCommandChecked (sizes : ElementSizes) (b : Bytes) :
    Option (Except RespError (Option ParsedFrame)) :=
  match b with
  | [] => some (.ok none)
  | first :: _ =>
      if first ≠ 42 then parseInlineChecked b
      else do
        let left ← sliceFrom b 0
        let line ← parseCrlfLineChecked left
        match line with
        | none => some (.ok none)
        | some (header, used) => do
            let digits ← sliceFrom header 1
            match parseDecimal digits with
            | none => some (.error (.protocol .badMultibulkHeader))
            | some n => do
                let cur ← usizeAdd 0 used
                if n ≤ 0 then some (.ok (some ([], cur)))
                else do
                  let _ ← withCapacity sizes.vec n.toNat
                  parseBulksChecked b n.toNat cur []

def announcedCount (b : Bytes) : Option Int :=
  if b.head? = some 42 then
    (parseCrlfLine b).bind (fun line => parseDecimal (line.1.drop 1))
  else none

section Requests

variable {b : Bytes} (held : b.length ≤ isizeMax)

include held

theorem usizeAdd_within {left right : Nat} (within : left + right ≤ b.length + 2) :
    usizeAdd left right = some (left + right) := by
  apply usizeAdd_eq
  unfold isizeMax at held
  unfold usizeMax
  omega

theorem parseCrlfLineChecked_eq : parseCrlfLineChecked b = some (parseCrlfLine b) := by
  unfold parseCrlfLineChecked parseCrlfLine
  cases found : crlfPosition b with
  | none => rfl
  | some idx =>
      have bound := crlfPosition_bound found
      have line : sliceRange b 0 idx = some (b.take idx) :=
        sliceRange_eq (Nat.zero_le idx) (by omega)
      have used : usizeAdd idx 2 = some (idx + 2) := usizeAdd_within held (by omega)
      simp only [line, used, Option.bind_eq_bind, Option.bind_some, Option.map_some]

omit held in
theorem dropReturn_eq (line : Bytes) :
    dropReturn line = some (if line.getLast? = some 13 then line.dropLast else line) := by
  unfold dropReturn
  split
  · rw [sliceRange_eq (Nat.zero_le _) (Nat.sub_le _ _), List.dropLast_eq_take]
    rfl
  · rfl

theorem parseInlineChecked_eq : parseInlineChecked b = some (parseInline b) := by
  unfold parseInlineChecked parseInline
  cases found : b.findIdx? (fun c => c = 10) with
  | none => rfl
  | some nl =>
      have within := (List.findIdx?_eq_some_iff_getElem.mp found).1
      have line : sliceRange b 0 nl = some (b.take nl) :=
        sliceRange_eq (Nat.zero_le nl) (Nat.le_of_lt within)
      have used : usizeAdd nl 1 = some (nl + 1) := usizeAdd_within held (by omega)
      simp only [line, dropReturn_eq, used, Option.bind_eq_bind, Option.bind_some]
      rfl

omit held in
theorem usizeAdd_parsed {digits : Bytes} {len : Int} (parsed : parseDecimal digits = some len) :
    usizeAdd len.toNat 2 = some (len.toNat + 2) := by
  apply usizeAdd_eq
  obtain ⟨text, _, number⟩ := Option.bind_eq_some_iff.mp parsed
  have fits := (Option.filter_eq_some_iff.mp number).2
  unfold inI64 i64Max at fits
  unfold usizeMax
  simp only [Bool.and_eq_true, decide_eq_true_eq] at fits
  omega

theorem parseBulkChecked_eq {cur : Nat} (within : cur ≤ b.length) {bulkHdr : Bytes} {used : Nat}
    (found : parseCrlfLine (b.drop cur) = some (bulkHdr, used)) :
    parseBulkChecked b cur bulkHdr used =
      some ((parseBulk (b.drop cur)).map (Option.map (fun element =>
        (element.1, cur + element.2)))) := by
  have bound := parseCrlfLine_bound found
  rw [List.length_drop] at bound
  unfold parseBulkChecked parseBulk
  rw [found]
  by_cases dollar : bulkHdr.head? ≠ some 36
  · simp only [if_pos dollar]
    rfl
  · simp only [if_neg dollar]
    have digits : sliceFrom bulkHdr 1 = some (bulkHdr.drop 1) := by
      apply sliceFrom_eq
      cases bulkHdr with
      | nil => exact absurd (by simp) dollar
      | cons first rest => exact Nat.succ_le_succ (Nat.zero_le _)
    have start : usizeAdd cur used = some (cur + used) := usizeAdd_within held (by omega)
    simp only [digits, Option.bind_eq_bind, Option.bind_some]
    cases parsed : parseDecimal (bulkHdr.drop 1) with
    | none => rfl
    | some len =>
        simp only [start, Option.bind_some]
        by_cases negative : len < 0
        · simp only [if_pos negative]
          rfl
        · have left : sliceFrom b (cur + used) = some ((b.drop cur).drop used) := by
            rw [sliceFrom_eq (by omega), List.drop_drop]
          simp only [if_neg negative, left, usizeAdd_parsed parsed, Option.bind_some]
          by_cases short : ((b.drop cur).drop used).length < len.toNat + 2
          · simp only [if_pos short]
            rfl
          · simp only [if_neg short]
            rw [List.length_drop, List.length_drop] at short
            have stop : usizeAdd (cur + used) len.toNat = some (cur + used + len.toNat) :=
              usizeAdd_within held (by omega)
            have next : usizeAdd (cur + used + len.toNat) 2 = some (cur + used + len.toNat + 2) :=
              usizeAdd_within held (by omega)
            have trailer : sliceRange b (cur + used + len.toNat) (cur + used + len.toNat + 2) =
                some ((((b.drop cur).drop used).drop len.toNat).take 2) := by
              rw [sliceRange_eq (by omega) (by omega), List.drop_drop, List.drop_drop,
                Nat.add_sub_cancel_left, Nat.add_assoc]
            have payload : sliceRange b (cur + used) (cur + used + len.toNat) =
                some (((b.drop cur).drop used).take len.toNat) := by
              rw [sliceRange_eq (by omega) (by omega), List.drop_drop, Nat.add_sub_cancel_left]
            have after : usizeAdd (cur + used) (len.toNat + 2) =
                some (cur + used + (len.toNat + 2)) := usizeAdd_within held (by omega)
            simp only [stop, next, trailer, payload, after, Option.bind_some]
            split
            · rfl
            · simp only [Nat.add_assoc]
              rfl

theorem parseBulksChecked_eq (n : Nat) {cur : Nat} (within : cur ≤ b.length) (argv : List Bytes) :
    parseBulksChecked b n cur argv = some (parseBulks b n cur argv) := by
  induction n generalizing cur argv with
  | zero => rfl
  | succ n ih =>
      have left : sliceFrom b cur = some (b.drop cur) := sliceFrom_eq within
      have line : parseCrlfLineChecked (b.drop cur) = some (parseCrlfLine (b.drop cur)) := by
        apply parseCrlfLineChecked_eq
        rw [List.length_drop]
        omega
      rw [parseBulksChecked, parseBulks]
      simp only [left, line, Option.bind_eq_bind, Option.bind_some]
      cases found : parseCrlfLine (b.drop cur) with
      | none =>
          unfold parseBulk
          rw [found]
      | some header =>
          obtain ⟨bulkHdr, used⟩ := header
          simp only [parseBulkChecked_eq held within found, Option.bind_some]
          cases element : parseBulk (b.drop cur) with
          | error e => rfl
          | ok answer =>
              cases answer with
              | none => rfl
              | some word =>
                  have bound := parseBulk_bound element
                  rw [List.length_drop] at bound
                  exact ih (by omega) (argv ++ [word.1])

/-- The header announces more elements than a vector can have room for. -/
def Overannounced (sizes : ElementSizes) (b : Bytes) : Prop :=
  ∃ n, announcedCount b = some n ∧ isizeMax < sizes.vec * n.toNat

omit held in
theorem crlfPosition_star {rest : Bytes} {idx : Nat}
    (found : crlfPosition (42 :: rest) = some idx) : 1 ≤ idx := by
  cases rest with
  | nil => cases found
  | cons second rest =>
      rw [crlfPosition, if_neg (fun both => absurd both.1 (by decide))] at found
      obtain ⟨later, _, rfl⟩ := Option.map_eq_some_iff.mp found
      exact Nat.le_add_left 1 later

omit held in
theorem sliceFrom_star {rest header : Bytes} {used : Nat}
    (found : parseCrlfLine (42 :: rest) = some (header, used)) :
    sliceFrom header 1 = some (header.drop 1) := by
  obtain ⟨idx, here, same⟩ := Option.map_eq_some_iff.mp found
  cases same
  apply sliceFrom_eq
  have positive := crlfPosition_star here
  have bound := crlfPosition_bound here
  rw [List.length_take]
  omega

/-- Without an allocation that is too large, the decoder with its panics is the
decoder. -/
theorem parseCommandChecked_eq {sizes : ElementSizes} (fits : ¬Overannounced sizes b) :
    parseCommandChecked sizes b = some (parseCommand b) := by
  cases b with
  | nil => rfl
  | cons first rest =>
      unfold parseCommandChecked parseCommand
      by_cases inline : first ≠ 42
      · simp only [if_pos inline]
        exact parseInlineChecked_eq held
      · obtain rfl := not_not.mp inline
        have left : sliceFrom (42 :: rest) 0 = some (42 :: rest) := sliceFrom_eq (Nat.zero_le _)
        simp only [if_neg inline, left, parseCrlfLineChecked_eq held, Option.bind_eq_bind,
          Option.bind_some]
        cases found : parseCrlfLine (42 :: rest) with
        | none => rfl
        | some line =>
            obtain ⟨header, used⟩ := line
            have bound := parseCrlfLine_bound found
            have start : usizeAdd 0 used = some used := by
              rw [usizeAdd_within held (by omega), Nat.zero_add]
            simp only [sliceFrom_star found, Option.bind_some]
            cases parsed : parseDecimal (header.drop 1) with
            | none => rfl
            | some n =>
                simp only [start, Option.bind_some]
                by_cases empty : n ≤ 0
                · simp only [if_pos empty]
                · have announced : announcedCount (42 :: rest) = some n := by
                    rw [announcedCount, if_pos List.head?_cons, found]
                    exact parsed
                  have room : withCapacity sizes.vec n.toNat = some () := by
                    apply if_pos
                    by_contra much
                    exact fits ⟨n, announced, Nat.lt_of_not_le much⟩
                  simp only [if_neg empty, room, Option.bind_some]
                  exact parseBulksChecked_eq held n.toNat bound.2 []

theorem parseCommandChecked_panics {sizes : ElementSizes} (exceeds : Overannounced sizes b) :
    parseCommandChecked sizes b = none := by
  obtain ⟨n, announced, much⟩ := exceeds
  unfold announcedCount at announced
  split at announced
  · rename_i star
    obtain ⟨⟨header, used⟩, found, parsed⟩ := Option.bind_eq_some_iff.mp announced
    cases b with
    | nil => cases star
    | cons first rest =>
        obtain rfl := Option.some.inj star
        have bound := parseCrlfLine_bound found
        have left : sliceFrom (42 :: rest) 0 = some (42 :: rest) := sliceFrom_eq (Nat.zero_le _)
        have start : usizeAdd 0 used = some used := by
          rw [usizeAdd_within held (by omega), Nat.zero_add]
        have positive : ¬n ≤ 0 := by
          intro low
          rw [Int.toNat_eq_zero.mpr low, Nat.mul_zero] at much
          exact absurd much (Nat.not_lt_zero _)
        have noRoom : withCapacity sizes.vec n.toNat = none := if_neg (Nat.not_le_of_lt much)
        unfold parseCommandChecked
        simp only [ne_eq, not_true_eq_false, if_false, left, parseCrlfLineChecked_eq held, found,
          sliceFrom_star found, parsed, start, if_neg positive, noRoom, Option.bind_eq_bind, Option.bind_some, Option.bind_none]
  · cases announced

end Requests

end TrainsValkey
