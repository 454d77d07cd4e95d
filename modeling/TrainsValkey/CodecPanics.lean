import TrainsValkey.DecoderPanics
import TrainsValkey.ReplyReader

/-
The codec with its panics.

The reply reader, too, is written out with every operation that can panic.  It
panics on what it comes to: where it looks for a reply is a matter of the
stream alone, and `Reaches` says so without the reader.
-/

set_option autoImplicit false

namespace TrainsValkey

/-! ### Replies -/

/-- `vec![0u8; len + 2]` and the read that fills it. -/
def readPayloadChecked (ended : Bool) (len : Nat) (rest : Bytes) : Option ReadOutcome := do
  let size ← usizeAdd len 2
  let _ ← withCapacity 1 size
  some (readPayload ended len rest)

def readItemsChecked (read : Bytes → Option ReadOutcome) : Nat → List Reply → Bytes →
    Option ReadOutcome
  | 0, items, rest => some (.finished (.ok (.array items)) rest)
  | n + 1, items, rest => do
      match ← read rest with
      | .blocked => some .blocked
      | .finished (.error e) rest => some (.finished (.error e) rest)
      | .finished (.ok item) rest => readItemsChecked read n (items ++ [item]) rest

def readMarkedChecked (sizes : ElementSizes) (ended : Bool) (read : Bytes → Option ReadOutcome)
    (marker : UInt8) (body rest : Bytes) : Option ReadOutcome :=
  if marker = 43 then some (.finished (.ok (.simple (fromUtf8Lossy body))) rest)
  else if marker = 45 then some (.finished (.ok (.error (fromUtf8Lossy body))) rest)
  else if marker = 58 then
    match parseReplyInt body with
    | none => some (.finished (.error .badInteger) rest)
    | some value => some (.finished (.ok (.integer value)) rest)
  else if marker = 36 then
    match parseReplyInt body with
    | none => some (.finished (.error .badInteger) rest)
    | some len =>
        if len < 0 then some (.finished (.ok .nil) rest)
        else readPayloadChecked ended len.toNat rest
  else if marker = 42 then
    match parseReplyInt body with
    | none => some (.finished (.error .badInteger) rest)
    | some len =>
        if len < 0 then some (.finished (.ok .nilArray) rest)
        else do
          let _ ← withCapacity sizes.reply len.toNat
          readItemsChecked read len.toNat [] rest
  else some (.finished (.error (.unknownMarker marker)) rest)

def readReplyForChecked (sizes : ElementSizes) (ended : Bool) : Nat → Bytes → Option ReadOutcome
  | 0, _ => some .blocked
  | depth + 1, input =>
      match readUntil ended input with
      | none => some .blocked
      | some ([], rest) => some (.finished (.error .eof) rest)
      | some (line, rest) =>
          let line := popLineEnd line
          if line.isEmpty then some (.finished (.error .emptyLine) rest)
          else do
            let body ← sliceFrom line 1
            let marker ← (line)[0]?
            readMarkedChecked sizes ended (readReplyForChecked sizes ended depth) marker body rest

def readReplyChecked (sizes : ElementSizes) (ended : Bool) (input : Bytes) : Option ReadOutcome :=
  readReplyForChecked sizes ended (input.length + 1) input

/-! ### Where a reader looks for a reply -/

/-- What starts at this position of the stream: the marker, its line and the
bytes after it. -/
def headAt (ended : Bool) (input : Bytes) : Option (UInt8 × Bytes × Bytes) :=
  (readUntil ended input).bind (fun taken =>
    (popLineEnd taken.1).head?.map (fun marker =>
      (marker, (popLineEnd taken.1).drop 1, taken.2)))

/-- The replies nested in the one that such a line starts, and the stream
after the line and its payload; `none` where reading ends. -/
def partOf (marker : UInt8) (body rest : Bytes) : Option (Nat × Bytes) :=
  if marker = 43 ∨ marker = 45 then some (0, rest)
  else
    (parseReplyInt body).bind (fun value =>
      if marker = 58 ∨ (marker = 36 ∧ value < 0) then some (0, rest)
      else if marker = 36 then
        if rest.length < value.toNat + 2 then none else some (0, rest.drop (value.toNat + 2))
      else if marker = 42 then some (value.toNat, rest)
      else none)

def partAt (ended : Bool) (input : Bytes) : Option (Nat × Bytes) :=
  (headAt ended input).bind (fun head => partOf head.1 head.2.1 head.2.2)

/-- The positions at which a reader that waits for `pending` replies looks for
one. -/
inductive Reaches (ended : Bool) : Nat → Bytes → Bytes → Prop
  | here (pending : Nat) (input : Bytes) : Reaches ended (pending + 1) input input
  | later {pending nested : Nat} {input rest position : Bytes}
      (part : partAt ended input = some (nested, rest))
      (reaches : Reaches ended (nested + pending) rest position) :
      Reaches ended (pending + 1) input position

/-- A bulk string or an array starts here that announces more than a vector
can have room for. -/
def Oversized (sizes : ElementSizes) (ended : Bool) (input : Bytes) : Prop :=
  ∃ marker body rest value, headAt ended input = some (marker, body, rest) ∧
    parseReplyInt body = some value ∧
      ((marker = 36 ∧ isizeMax < value.toNat + 2) ∨
        (marker = 42 ∧ isizeMax < sizes.reply * value.toNat))

section Replies

variable {sizes : ElementSizes} {ended : Bool}

theorem not_reaches_zero (input position : Bytes) : ¬Reaches ended 0 input position := by
  intro reaches
  cases reaches

theorem reaches_succ_iff {pending : Nat} {input position : Bytes} :
    Reaches ended (pending + 1) input position ↔ position = input ∨
      ∃ nested rest, partAt ended input = some (nested, rest) ∧
        Reaches ended (nested + pending) rest position := by
  constructor
  · intro reaches
    cases reaches with
    | here => exact .inl rfl
    | later part reaches => exact .inr ⟨_, _, part, reaches⟩
  · rintro (rfl | ⟨nested, rest, part, reaches⟩)
    · exact .here pending _
    · exact .later part reaches

theorem Reaches.more {pending : Nat} {input position : Bytes}
    (reaches : Reaches ended pending input position) (more : Nat) :
    Reaches ended (pending + more) input position := by
  induction reaches with
  | here pending input =>
      rw [Nat.succ_add]
      exact .here _ input
  | @later pending nested input rest position part reaches ih =>
      rw [Nat.succ_add]
      rw [Nat.add_assoc] at ih
      exact .later part ih

/-- What a reader that waits for `pending` replies does, in terms of the
positions it looks at. -/
inductive Foreseen (sizes : ElementSizes) (ended : Bool) (pending : Nat) (input : Bytes) :
    Option ReadOutcome → Prop
  | panics {position : Bytes} (reaches : Reaches ended pending input position)
      (exceeds : Oversized sizes ended position) : Foreseen sizes ended pending input none
  | completes {reply : Reply} {rest : Bytes} (shorter : rest.length ≤ input.length)
      (safe : ∀ position, Reaches ended pending input position → ¬Oversized sizes ended position)
      (splits : ∀ more position, Reaches ended (pending + more) input position ↔
        Reaches ended pending input position ∨ Reaches ended more rest position) :
      Foreseen sizes ended pending input (some (.finished (.ok reply) rest))
  | stops {outcome : ReadOutcome} (unfinished : ∀ reply rest, outcome ≠ .finished (.ok reply) rest)
      (safe : ∀ position, Reaches ended pending input position → ¬Oversized sizes ended position)
      (ends : ∀ more position, Reaches ended (pending + more) input position →
        Reaches ended pending input position) :
      Foreseen sizes ended pending input (some outcome)

theorem foreseen_items {read : Bytes → Option ReadOutcome} {bound : Nat}
    (foreseen : ∀ input : Bytes, input.length ≤ bound →
      Foreseen sizes ended 1 input (read input))
    (count : Nat) (items : List Reply) {input : Bytes} (within : input.length ≤ bound) :
    Foreseen sizes ended count input (readItemsChecked read count items input) := by
  induction count generalizing items input with
  | zero =>
      refine .completes (Nat.le_refl _) ?_ ?_
      · intro position reaches
        exact absurd reaches (not_reaches_zero input position)
      · intro more position
        rw [Nat.zero_add, or_iff_right (not_reaches_zero input position)]
  | succ count ih =>
      have first := foreseen input within
      rw [readItemsChecked]
      generalize read input = outcome at first
      cases first with
      | panics reaches exceeds =>
          have further := reaches.more count
          rw [Nat.add_comm] at further
          exact .panics further exceeds
      | @completes reply rest shorter safe splits =>
          have rest_ := ih (items ++ [reply]) (Nat.le_trans shorter within)
          have split (position : Bytes) : Reaches ended (count + 1) input position ↔
              Reaches ended 1 input position ∨ Reaches ended count rest position := by
            rw [Nat.add_comm]
            exact splits count position
          simp only [Option.bind_eq_bind, Option.bind_some]
          generalize readItemsChecked read count (items ++ [reply]) rest = outcome at rest_
          have safely (safeRest : ∀ position, Reaches ended count rest position →
              ¬Oversized sizes ended position) (position : Bytes)
              (reaches : Reaches ended (count + 1) input position) :
              ¬Oversized sizes ended position := by
            rcases (split position).mp reaches with here | there
            · exact safe position here
            · exact safeRest position there
          have regroup (more : Nat) : count + 1 + more = 1 + (count + more) := by omega
          cases rest_ with
          | panics reaches exceeds => exact .panics ((split _).mpr (.inr reaches)) exceeds
          | completes shorterRest safeRest splitsRest =>
              refine .completes (Nat.le_trans shorterRest shorter) (safely safeRest) ?_
              intro more position
              rw [regroup, splits, splitsRest, split, or_assoc]
          | stops unfinished safeRest ends =>
              refine .stops unfinished (safely safeRest) ?_
              intro more position reaches
              rw [regroup, splits] at reaches
              exact (split position).mpr (reaches.imp_right (ends more position))
      | @stops outcome unfinished safe ends =>
          have only (more : Nat) (position : Bytes)
              (reaches : Reaches ended (count + 1 + more) input position) :
              Reaches ended 1 input position := by
            refine ends (count + more) position ?_
            rw [show 1 + (count + more) = count + 1 + more by omega]
            exact reaches
          have further {position : Bytes} (here : Reaches ended 1 input position) :
              Reaches ended (count + 1) input position := by
            rw [Nat.add_comm]
            exact here.more count
          have stopped : Foreseen sizes ended (count + 1) input (some outcome) := by
            refine .stops unfinished ?_ ?_
            · intro position reaches
              exact safe position (only 0 position reaches)
            · intro more position reaches
              exact further (only more position reaches)
          cases outcome with
          | blocked => exact stopped
          | finished result rest =>
              cases result with
              | error e => exact stopped
              | ok reply => exact absurd rfl (unfinished reply rest)

/-! One reply, by what starts at its position. -/

theorem foreseen_line {input rest : Bytes} {reply : Reply}
    (part : partAt ended input = some (0, rest)) (fits : ¬Oversized sizes ended input)
    (shorter : rest.length ≤ input.length) :
    Foreseen sizes ended 1 input (some (.finished (.ok reply) rest)) := by
  have only (position : Bytes) : Reaches ended 1 input position ↔ position = input := by
    rw [reaches_succ_iff, or_iff_left]
    rintro ⟨nested, after, same, reaches⟩
    rw [part] at same
    cases same
    exact not_reaches_zero _ position reaches
  refine .completes shorter ?_ ?_
  · intro position reaches
    rw [(only position).mp reaches]
    exact fits
  · intro more position
    rw [Nat.add_comm, reaches_succ_iff, only, part]
    constructor
    · rintro (here | ⟨nested, after, same, reaches⟩)
      · exact .inl here
      · cases same
        rw [Nat.zero_add] at reaches
        exact .inr reaches
    · rintro (here | reaches)
      · exact .inl here
      · refine .inr ⟨0, rest, rfl, ?_⟩
        rw [Nat.zero_add]
        exact reaches

theorem foreseen_stop {input : Bytes} {outcome : ReadOutcome}
    (part : partAt ended input = none) (fits : ¬Oversized sizes ended input)
    (unfinished : ∀ reply rest, outcome ≠ .finished (.ok reply) rest) :
    Foreseen sizes ended 1 input (some outcome) := by
  have only (more : Nat) (position : Bytes) :
      Reaches ended (1 + more) input position ↔ position = input := by
    rw [Nat.add_comm, reaches_succ_iff, or_iff_left]
    rintro ⟨nested, after, same, reaches⟩
    rw [part] at same
    cases same
  refine .stops unfinished ?_ ?_
  · intro position reaches
    rw [(only 0 position).mp reaches]
    exact fits
  · intro more position reaches
    exact (only 0 position).mpr ((only more position).mp reaches)

theorem foreseen_nested {input rest : Bytes} {count : Nat} {outcome : Option ReadOutcome}
    (part : partAt ended input = some (count, rest)) (fits : ¬Oversized sizes ended input)
    (shorter : rest.length ≤ input.length) (inner : Foreseen sizes ended count rest outcome) :
    Foreseen sizes ended 1 input outcome := by
  have opened (more : Nat) (position : Bytes) : Reaches ended (1 + more) input position ↔
      position = input ∨ Reaches ended (count + more) rest position := by
    rw [Nat.add_comm, reaches_succ_iff, part]
    constructor
    · rintro (here | ⟨nested, after, same, reaches⟩)
      · exact .inl here
      · cases same
        exact .inr reaches
    · rintro (here | reaches)
      · exact .inl here
      · exact .inr ⟨count, rest, rfl, reaches⟩
  have safely (safeRest : ∀ position, Reaches ended count rest position →
      ¬Oversized sizes ended position) (position : Bytes)
      (reaches : Reaches ended 1 input position) : ¬Oversized sizes ended position := by
    rcases (opened 0 position).mp reaches with rfl | there
    · exact fits
    · exact safeRest position there
  cases inner with
  | panics reaches exceeds => exact .panics ((opened 0 _).mpr (.inr reaches)) exceeds
  | completes shorterRest safe splits =>
      refine .completes (Nat.le_trans shorterRest shorter) (safely safe) ?_
      intro more position
      rw [opened more, splits, opened 0, or_assoc]
      rfl
  | stops unfinished safe ends =>
      refine .stops unfinished (safely safe) ?_
      intro more position reaches
      exact (opened 0 position).mpr (((opened more position).mp reaches).imp_right
        (ends more position))

theorem readUntil_shorter {input line rest : Bytes}
    (found : readUntil ended input = some (line, rest)) :
    rest.length + line.length = input.length := by
  unfold readUntil at found
  split at found
  · cases found
    rw [List.length_take, List.length_drop]
    omega
  · split at found
    · cases found
      exact Nat.zero_add _
    · cases found

theorem oversized_iff {input body rest : Bytes} {marker : UInt8} {value : Int}
    (head : headAt ended input = some (marker, body, rest))
    (parsed : parseReplyInt body = some value) :
    Oversized sizes ended input ↔ (marker = 36 ∧ isizeMax < value.toNat + 2) ∨
      (marker = 42 ∧ isizeMax < sizes.reply * value.toNat) := by
  constructor
  · rintro ⟨_, _, _, _, sameHead, sameValue, much⟩
    rw [head] at sameHead
    cases sameHead
    rw [parsed] at sameValue
    cases sameValue
    exact much
  · intro much
    exact ⟨marker, body, rest, value, head, parsed, much⟩

theorem read_headless (sizes : ElementSizes) (depth : Nat) {input : Bytes}
    (headless : headAt ended input = none) :
    ∃ outcome, readReplyForChecked sizes ended (depth + 1) input = some outcome ∧
      ∀ reply rest, outcome ≠ .finished (.ok reply) rest := by
  unfold headAt at headless
  rw [readReplyForChecked]
  cases found : readUntil ended input with
  | none => exact ⟨.blocked, rfl, by simp⟩
  | some taken =>
      obtain ⟨line, rest⟩ := taken
      rw [found] at headless
      have empty : popLineEnd line = [] := by
        simpa using headless
      cases line with
      | nil => exact ⟨.finished (.error .eof) rest, rfl, by simp⟩
      | cons first line =>
          refine ⟨.finished (.error .emptyLine) rest, ?_, by simp⟩
          simp only [empty]
          rfl

theorem read_headed (sizes : ElementSizes) (depth : Nat) {input body rest : Bytes} {marker : UInt8}
    (head : headAt ended input = some (marker, body, rest)) :
    readReplyForChecked sizes ended (depth + 1) input =
      readMarkedChecked sizes ended (readReplyForChecked sizes ended depth) marker body rest ∧
      rest.length < input.length := by
  obtain ⟨⟨line, after⟩, found, here⟩ := Option.bind_eq_some_iff.mp head
  obtain ⟨first, marked, same⟩ := Option.map_eq_some_iff.mp here
  cases same
  have lengths := readUntil_shorter found
  rw [readReplyForChecked, found]
  cases line with
  | nil => cases marked
  | cons char line =>
      cases popped : popLineEnd (char :: line) with
      | nil =>
          rw [popped] at marked
          cases marked
      | cons first body =>
          simp only [popped, List.head?_cons, Option.some.injEq] at marked
          subst marked
          constructor
          · simp only [popped]
            rfl
          · rw [List.length_cons] at lengths
            change after.length < input.length
            omega

theorem foreseen_bulk {input body rest : Bytes} {marker : UInt8} {value : Int}
    (dollar : marker = 36) (head : headAt ended input = some (marker, body, rest))
    (part : partAt ended input =
      if marker = 58 ∨ (marker = 36 ∧ value < 0) then some (0, rest)
      else if marker = 36 then
        if rest.length < value.toNat + 2 then none else some (0, rest.drop (value.toNat + 2))
      else if marker = 42 then some (value.toNat, rest)
      else none)
    (parsed : parseReplyInt body = some value) (shorter : rest.length ≤ input.length) :
    Foreseen sizes ended 1 input
      (if value < 0 then some (.finished (.ok .nil) rest)
        else readPayloadChecked ended value.toNat rest) := by
  subst dollar
  have size := usizeAdd_parsed (show parseDecimal body = some value from parsed)
  by_cases negative : value < 0
  · rw [if_pos (.inr ⟨rfl, negative⟩)] at part
    rw [if_pos negative]
    refine foreseen_line part ?_ shorter
    rw [oversized_iff head parsed]
    rintro (⟨_, much⟩ | ⟨array, _⟩)
    · rw [Int.toNat_eq_zero.mpr (Int.le_of_lt negative)] at much
      exact absurd much (by decide)
    · exact absurd array (by decide)
  · rw [if_neg (by simp [negative]), if_pos rfl] at part
    rw [if_neg negative, readPayloadChecked]
    simp only [size, Option.bind_eq_bind, Option.bind_some]
    by_cases room : 1 * (value.toNat + 2) ≤ isizeMax
    · have allocated : withCapacity 1 (value.toNat + 2) = some () := if_pos room
      have safe : ¬Oversized sizes ended input := by
        rw [oversized_iff head parsed]
        rintro (⟨_, much⟩ | ⟨array, _⟩)
        · omega
        · exact absurd array (by decide)
      simp only [allocated, Option.bind_some, readPayload]
      split
      · rename_i short
        rw [if_pos short] at part
        split
        · exact foreseen_stop part safe (by simp)
        · exact foreseen_stop part safe (by simp)
      · rename_i enough
        rw [if_neg enough] at part
        refine foreseen_line part safe ?_
        rw [List.length_drop]
        omega
    · have refused : withCapacity 1 (value.toNat + 2) = none := if_neg room
      simp only [refused, Option.bind_none]
      refine .panics (.here 0 input) ?_
      rw [oversized_iff head parsed]
      exact .inl ⟨rfl, by omega⟩

theorem foreseen_array {read : Bytes → Option ReadOutcome} {input body rest : Bytes}
    {marker : UInt8} {value : Int} (star : marker = 42)
    (head : headAt ended input = some (marker, body, rest))
    (part : partAt ended input = some (value.toNat, rest))
    (parsed : parseReplyInt body = some value) (shorter : rest.length ≤ input.length)
    (inner : Foreseen sizes ended value.toNat rest (readItemsChecked read value.toNat [] rest)) :
    Foreseen sizes ended 1 input
      (if value < 0 then some (.finished (.ok .nilArray) rest)
        else do
          let _ ← withCapacity sizes.reply value.toNat
          readItemsChecked read value.toNat [] rest) := by
  subst star
  by_cases negative : value < 0
  · have none_ : value.toNat = 0 := Int.toNat_eq_zero.mpr (Int.le_of_lt negative)
    rw [none_] at part
    rw [if_pos negative]
    refine foreseen_line part ?_ shorter
    rw [oversized_iff head parsed, none_]
    rintro (⟨bulk, _⟩ | ⟨_, much⟩)
    · exact absurd bulk (by decide)
    · exact absurd much (by simp)
  · rw [if_neg negative]
    by_cases room : sizes.reply * value.toNat ≤ isizeMax
    · have allocated : withCapacity sizes.reply value.toNat = some () := if_pos room
      simp only [allocated, Option.bind_eq_bind, Option.bind_some]
      refine foreseen_nested part ?_ shorter inner
      rw [oversized_iff head parsed]
      rintro (⟨bulk, _⟩ | ⟨_, much⟩)
      · exact absurd bulk (by decide)
      · omega
    · have refused : withCapacity sizes.reply value.toNat = none := if_neg room
      simp only [refused, Option.bind_eq_bind, Option.bind_none]
      refine .panics (.here 0 input) ?_
      rw [oversized_iff head parsed]
      exact .inr ⟨rfl, Nat.lt_of_not_le room⟩

theorem foreseen_marked {read : Bytes → Option ReadOutcome} {input body rest : Bytes}
    {marker : UInt8} (head : headAt ended input = some (marker, body, rest))
    (shorter : rest.length ≤ input.length)
    (inner : ∀ count, Foreseen sizes ended count rest (readItemsChecked read count [] rest)) :
    Foreseen sizes ended 1 input
      (readMarkedChecked sizes ended read marker body rest) := by
  have part : partAt ended input = partOf marker body rest := by
    unfold partAt
    rw [head, Option.bind_some]
  have fits (simple : marker ≠ 36) (array : marker ≠ 42) : ¬Oversized sizes ended input := by
    rintro ⟨_, _, _, _, same, _, ⟨bulk, _⟩ | ⟨nested, _⟩⟩
    · rw [head] at same
      cases same
      exact simple bulk
    · rw [head] at same
      cases same
      exact array nested
  unfold partOf at part
  unfold readMarkedChecked
  by_cases plus : marker = 43
  · subst plus
    rw [if_pos (.inl rfl)] at part
    rw [if_pos rfl]
    exact foreseen_line part (fits (by decide) (by decide)) shorter
  rw [if_neg plus]
  by_cases minus : marker = 45
  · subst minus
    rw [if_pos (.inr rfl)] at part
    rw [if_pos rfl]
    exact foreseen_line part (fits (by decide) (by decide)) shorter
  rw [if_neg minus]
  rw [if_neg (by simp [plus, minus])] at part
  cases parsed : parseReplyInt body with
  | none =>
      rw [parsed, Option.bind_none] at part
      have safe : ¬Oversized sizes ended input := by
        rintro ⟨_, _, _, _, same, read, _⟩
        rw [head] at same
        cases same
        rw [parsed] at read
        cases read
      split
      · exact foreseen_stop part safe (by simp)
      · split
        · exact foreseen_stop part safe (by simp)
        · split
          · exact foreseen_stop part safe (by simp)
          · exact foreseen_stop part safe (by simp)
  | some value =>
      rw [parsed, Option.bind_some] at part
      simp only
      by_cases colon : marker = 58
      · subst colon
        rw [if_pos (.inl rfl)] at part
        rw [if_pos rfl]
        exact foreseen_line part (fits (by decide) (by decide)) shorter
      rw [if_neg colon]
      by_cases dollar : marker = 36
      · rw [if_pos dollar]
        exact foreseen_bulk dollar head part parsed shorter
      rw [if_neg dollar]
      rw [if_neg (by simp [colon, dollar]), if_neg dollar] at part
      by_cases star : marker = 42
      · rw [if_pos star] at part ⊢
        exact foreseen_array star head part parsed shorter (inner value.toNat)
      · rw [if_neg star] at part ⊢
        exact foreseen_stop part (fits dollar star) (by simp)

/-- Every read is foreseen once the depth covers the input. -/
theorem foreseen_read (depth : Nat) {input : Bytes} (deep : input.length < depth) :
    Foreseen sizes ended 1 input (readReplyForChecked sizes ended depth input) := by
  induction depth generalizing input with
  | zero => exact absurd deep (Nat.not_lt_zero _)
  | succ depth ih =>
      cases head : headAt ended input with
      | none =>
          obtain ⟨outcome, read, unfinished⟩ := read_headless sizes depth head
          have part : partAt ended input = none := by
            unfold partAt
            rw [head, Option.bind_none]
          rw [read]
          refine foreseen_stop part ?_ unfinished
          rintro ⟨_, _, _, _, same, _⟩
          rw [head] at same
          cases same
      | some found =>
          obtain ⟨marker, body, rest⟩ := found
          obtain ⟨read, shorter⟩ := read_headed sizes depth head
          rw [read]
          refine foreseen_marked head (Nat.le_of_lt shorter) ?_
          intro count
          have elements (nested : Bytes) (within : nested.length ≤ rest.length) :
              Foreseen sizes ended 1 nested (readReplyForChecked sizes ended depth nested) :=
            ih (by omega)
          exact foreseen_items elements count [] (Nat.le_refl _)

/-! Without a panic the reader is the reader. -/

theorem readItemsChecked_agrees {checked : Bytes → Option ReadOutcome} {read : Bytes → ReadOutcome}
    (agrees : ∀ input outcome, checked input = some outcome → read input = outcome)
    (count : Nat) (items : List Reply) (input : Bytes) {outcome : ReadOutcome}
    (returned : readItemsChecked checked count items input = some outcome) :
    readItems read count items input = outcome := by
  induction count generalizing items input with
  | zero => exact Option.some.inj returned
  | succ count ih =>
      rw [readItemsChecked] at returned
      rw [readItems]
      cases first : checked input with
      | none =>
          rw [first] at returned
          cases returned
      | some element =>
          rw [agrees input element first]
          simp only [first, Option.bind_eq_bind, Option.bind_some] at returned
          cases element with
          | blocked => exact Option.some.inj returned
          | finished result rest =>
              cases result with
              | error e => exact Option.some.inj returned
              | ok item => exact ih (items ++ [item]) rest returned

theorem readPayloadChecked_agrees {len : Nat} {rest : Bytes} {outcome : ReadOutcome}
    (returned : readPayloadChecked ended len rest = some outcome) :
    readPayload ended len rest = outcome := by
  unfold readPayloadChecked at returned
  obtain ⟨size, _, later⟩ := Option.bind_eq_some_iff.mp returned
  obtain ⟨_, _, same⟩ := Option.bind_eq_some_iff.mp later
  exact Option.some.inj same

theorem readMarkedChecked_agrees {checked : Bytes → Option ReadOutcome}
    {read : Bytes → ReadOutcome}
    (agrees : ∀ input outcome, checked input = some outcome → read input = outcome)
    {marker : UInt8} {body rest : Bytes} {outcome : ReadOutcome}
    (returned : readMarkedChecked sizes ended checked marker body rest = some outcome) :
    readMarked ended read marker body rest = outcome := by
  unfold readMarkedChecked at returned
  unfold readMarked
  by_cases plus : marker = 43
  · rw [if_pos plus] at returned ⊢
    exact Option.some.inj returned
  rw [if_neg plus] at returned ⊢
  by_cases minus : marker = 45
  · rw [if_pos minus] at returned ⊢
    exact Option.some.inj returned
  rw [if_neg minus] at returned ⊢
  cases parsed : parseReplyInt body with
  | none =>
      simp only [parsed] at returned ⊢
      split at returned
      · rename_i colon
        rw [if_pos colon]
        exact Option.some.inj returned
      · rename_i colon
        rw [if_neg colon]
        split at returned
        · rename_i dollar
          rw [if_pos dollar]
          exact Option.some.inj returned
        · rename_i dollar
          rw [if_neg dollar]
          split at returned
          · rename_i star
            rw [if_pos star]
            exact Option.some.inj returned
          · rename_i star
            rw [if_neg star]
            exact Option.some.inj returned
  | some value =>
      simp only [parsed] at returned ⊢
      by_cases colon : marker = 58
      · rw [if_pos colon] at returned ⊢
        exact Option.some.inj returned
      rw [if_neg colon] at returned ⊢
      by_cases dollar : marker = 36
      · rw [if_pos dollar] at returned ⊢
        by_cases negative : value < 0
        · rw [if_pos negative] at returned ⊢
          exact Option.some.inj returned
        · rw [if_neg negative] at returned ⊢
          exact readPayloadChecked_agrees returned
      rw [if_neg dollar] at returned ⊢
      by_cases star : marker = 42
      · rw [if_pos star] at returned ⊢
        by_cases negative : value < 0
        · rw [if_pos negative] at returned ⊢
          exact Option.some.inj returned
        · rw [if_neg negative] at returned ⊢
          obtain ⟨_, _, later⟩ := Option.bind_eq_some_iff.mp returned
          exact readItemsChecked_agrees agrees value.toNat [] rest later
      · rw [if_neg star] at returned ⊢
        exact Option.some.inj returned

theorem readReplyForChecked_agrees (depth : Nat) (input : Bytes) (outcome : ReadOutcome)
    (returned : readReplyForChecked sizes ended depth input = some outcome) :
    readReplyFor ended depth input = outcome := by
  induction depth generalizing input outcome with
  | zero => exact Option.some.inj returned
  | succ depth ih =>
      rw [readReplyForChecked] at returned
      rw [readReplyFor]
      cases found : readUntil ended input with
      | none =>
          rw [found] at returned
          exact Option.some.inj returned
      | some taken =>
          obtain ⟨line, rest⟩ := taken
          rw [found] at returned
          cases line with
          | nil => exact Option.some.inj returned
          | cons char line =>
              simp only at returned ⊢
              cases popped : popLineEnd (char :: line) with
              | nil =>
                  rw [popped] at returned
                  exact Option.some.inj returned
              | cons marker body =>
                  rw [popped] at returned
                  exact readMarkedChecked_agrees ih returned

theorem readReplyChecked_agrees {input : Bytes} {outcome : ReadOutcome}
    (returned : readReplyChecked sizes ended input = some outcome) :
    readReply ended input = outcome :=
  readReplyForChecked_agrees _ input outcome returned

theorem readReplyChecked_panics_iff (input : Bytes) :
    readReplyChecked sizes ended input = none ↔
      ∃ position, Reaches ended 1 input position ∧ Oversized sizes ended position := by
  have foreseen : Foreseen sizes ended 1 input (readReplyChecked sizes ended input) :=
    foreseen_read (input.length + 1) (Nat.lt_succ_self _)
  generalize readReplyChecked sizes ended input = outcome at foreseen
  cases foreseen with
  | panics reaches exceeds => exact iff_of_true rfl ⟨_, reaches, exceeds⟩
  | completes shorter safe splits =>
      refine iff_of_false (by simp) ?_
      rintro ⟨position, reaches, exceeds⟩
      exact safe position reaches exceeds
  | stops unfinished safe ends =>
      refine iff_of_false (by simp) ?_
      rintro ⟨position, reaches, exceeds⟩
      exact safe position reaches exceeds

end Replies

/-- The codec panics exactly on a count or a length that a vector cannot have
room for: that of the multibulk header in front of a buffer, or of a bulk
string or an array that the reader comes to.  Everywhere else it returns what
the decoder and the reader of the other modules return. -/
theorem codec_panics_iff (sizes : ElementSizes) (ended : Bool) {b : Bytes}
    (held : b.length ≤ isizeMax) :
    (parseCommandChecked sizes b ≠ none ↔ ¬Overannounced sizes b) ∧
      (readReplyChecked sizes ended b ≠ none ↔
        ∀ position, Reaches ended 1 b position → ¬Oversized sizes ended position) ∧
      (∀ answer, parseCommandChecked sizes b = some answer → parseCommand b = answer) ∧
      ∀ outcome, readReplyChecked sizes ended b = some outcome → readReply ended b = outcome := by
  refine ⟨?_, ?_, ?_, fun _ => readReplyChecked_agrees⟩
  · constructor
    · exact fun returns exceeds => returns (parseCommandChecked_panics held exceeds)
    · intro fits
      rw [parseCommandChecked_eq held fits]
      exact Option.some_ne_none _
  · rw [ne_eq, readReplyChecked_panics_iff]
    simp only [not_exists, not_and]
  · intro answer returned
    have fits : ¬Overannounced sizes b := by
      intro exceeds
      rw [parseCommandChecked_panics held exceeds] at returned
      cases returned
    rw [parseCommandChecked_eq held fits] at returned
    exact Option.some.inj returned

/-! ### A header of 24 bytes -/

/-- On a 64-bit target a `Vec<u8>` takes 24 bytes and a `Reply` takes 32. -/
def target64 : ElementSizes := { vec := 24, reply := 32 }

def hugeCount : Bytes := asBytes "*9223372036854775807\r\n"

def hugeLength : Bytes := asBytes "$9223372036854775807\r\n"

theorem huge_header_panics :
    parseCommandChecked target64 hugeCount = none ∧
      readReplyChecked target64 true hugeCount = none ∧
        readReplyChecked target64 true hugeLength = none := by
  refine ⟨by decide, by decide, by decide⟩

theorem codec_panics_iff_ping : parseCommandChecked target64 (asBytes "*1\r\n") ≠ none := by
  apply (codec_panics_iff target64 true (by decide)).1.mpr
  rintro ⟨n, announced, much⟩
  have one : announcedCount (asBytes "*1\r\n") = some 1 := by decide
  rw [one] at announced
  cases announced
  revert much
  decide

end TrainsValkey
