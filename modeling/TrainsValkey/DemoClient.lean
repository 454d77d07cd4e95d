import TrainsValkey.ReplyReader

/-
The RESP client of the demos.

It keeps what it has received and not yet read in a buffer, so how the socket
cuts the replies up does not matter to it.  A reply is read item by item, and
an item that raises ends the call: what stands behind it in the same reply is
left for the next call, which takes it for its own reply.
-/

set_option autoImplicit false

namespace TrainsValkey

namespace Demo

/-! ### Values and exceptions -/

inductive PyValue where
  | none
  | int (value : Int)
  | str (text : String)
  | list (items : List PyValue)

inductive PyError where
  | connection
  | index
  | unicode
  | value
  | recursion
  | runtime (text : String)
  | unexpectedByte (kind : UInt8)

def decode (bytes : Bytes) : Except PyError String :=
  match fromUtf8 bytes with
  | some text => .ok (String.ofList text)
  | none => .error .unicode

def isAsciiSpace (char : Char) : Bool := (9 ≤ char.toNat && char.toNat ≤ 13) || char == ' '

def strip (text : List Char) : List Char :=
  ((text.dropWhile isAsciiSpace).reverse.dropWhile isAsciiSpace).reverse

/-- Single underscores may stand between digits. -/
def digitGroups (text : List Char) : Option Nat :=
  if text.head? == some '_' || text.getLast? == some '_' ||
      (text.zip text.tail).any (fun pair => pair == ('_', '_')) then Option.none
  else digitsValue (text.filter (fun char => char != '_'))

def signed : List Char → Option Int
  | '-' :: digits => (digitGroups digits).map (fun value : Nat => -(value : Int))
  | '+' :: digits => (digitGroups digits).map Int.ofNat
  | digits => (digitGroups digits).map Int.ofNat

def int (bytes : Bytes) : Except PyError Int :=
  match (fromUtf8 bytes).bind (fun text => signed (strip text)) with
  | some value => .ok value
  | Option.none => .error .value

/-- `bytes[:n]` and `bytes[n:]`, which count from the end below 0. -/
def sliceTo (n : Int) (bytes : Bytes) : Bytes :=
  if 0 ≤ n then bytes.take n.toNat else bytes.take (bytes.length - (-n).toNat)

def sliceFrom (n : Int) (bytes : Bytes) : Bytes :=
  if 0 ≤ n then bytes.drop n.toNat else bytes.drop (bytes.length - (-n).toNat)

/-! ### The client -/

/-- `arriving` is what `recv` returns, call after call.  Behind it, or when it
returns nothing, the peer is gone. -/
structure Resp where
  buf : Bytes
  arriving : List Bytes

namespace Resp

/-- `buf.partition(b"\r\n")`, should the separator be there. -/
def partition : Bytes → Option (Bytes × Bytes)
  | [] => none
  | byte :: rest =>
      if byte = 13 ∧ rest.head? = some 10 then some ([], rest.tail)
      else (partition rest).map (fun parts => (byte :: parts.1, parts.2))

def readlineFrom : Bytes → List Bytes → Except PyError Bytes × Resp
  | buf, [] =>
      match partition buf with
      | some (line, after) => (.ok line, ⟨after, []⟩)
      | none => (.error .connection, ⟨buf, []⟩)
  | buf, chunk :: arriving =>
      match partition buf with
      | some (line, after) => (.ok line, ⟨after, chunk :: arriving⟩)
      | none =>
          if chunk = [] then (.error .connection, ⟨buf, arriving⟩)
          else readlineFrom (buf ++ chunk) arriving

def readline (conn : Resp) : Except PyError Bytes × Resp := readlineFrom conn.buf conn.arriving

def readnFrom (n : Int) : Bytes → List Bytes → Except PyError Bytes × Resp
  | buf, [] =>
      if (buf.length : Int) < n + 2 then (.error .connection, ⟨buf, []⟩)
      else (.ok (sliceTo n buf), ⟨sliceFrom (n + 2) buf, []⟩)
  | buf, chunk :: arriving =>
      if (buf.length : Int) < n + 2 then
        if chunk = [] then (.error .connection, ⟨buf, arriving⟩)
        else readnFrom n (buf ++ chunk) arriving
      else (.ok (sliceTo n buf), ⟨sliceFrom (n + 2) buf, chunk :: arriving⟩)

def readn (n : Int) (conn : Resp) : Except PyError Bytes × Resp :=
  readnFrom n conn.buf conn.arriving

def readItems (read : Resp → Except PyError PyValue × Resp) :
    Nat → Resp → Except PyError (List PyValue) × Resp
  | 0, conn => (.ok [], conn)
  | n + 1, conn =>
      match read conn with
      | (.error e, conn) => (.error e, conn)
      | (.ok item, conn) =>
          match readItems read n conn with
          | (.error e, conn) => (.error e, conn)
          | (.ok items, conn) => (.ok (item :: items), conn)

def readKind (read : Resp → Except PyError PyValue × Resp) (kind : UInt8) (rest : Bytes)
    (conn : Resp) : Except PyError PyValue × Resp :=
  if kind = 43 then ((decode rest).map .str, conn)
  else if kind = 45 then ((decode rest).bind (fun text => .error (.runtime text)), conn)
  else if kind = 58 then ((int rest).map .int, conn)
  else if kind = 36 then
    match int rest with
    | .error e => (.error e, conn)
    | .ok n =>
        if n = -1 then (.ok .none, conn)
        else
          match conn.readn n with
          | (.error e, conn) => (.error e, conn)
          | (.ok data, conn) => ((decode data).map .str, conn)
  else if kind = 42 then
    match int rest with
    | .error e => (.error e, conn)
    | .ok n =>
        match readItems read n.toNat conn with
        | (.error e, conn) => (.error e, conn)
        | (.ok items, conn) => (.ok (.list items), conn)
  else (.error (.unexpectedByte kind), conn)

/-- The interpreter's stack has room for that many nested calls. -/
def readReply : Nat → Resp → Except PyError PyValue × Resp
  | 0, conn => (.error .recursion, conn)
  | room + 1, conn =>
      match conn.readline with
      | (.error e, conn) => (.error e, conn)
      | (.ok [], conn) => (.error .index, conn)
      | (.ok (kind :: rest), conn) => readKind (readReply room) kind rest conn

def calls (room : Nat) : Nat → Resp → List (Except PyError PyValue) × Resp
  | 0, conn => ([], conn)
  | n + 1, conn =>
      let (result, conn) := conn.readReply room
      let (later, conn) := calls room n conn
      (result :: later, conn)

end Resp

/-! ### Integers -/

theorem strip_eq_self {text : List Char} (solid : ∀ char ∈ text, isAsciiSpace char = false) :
    strip text = text := by
  have kept (chars : List Char) (all : ∀ char ∈ chars, isAsciiSpace char = false) :
      chars.dropWhile isAsciiSpace = chars := by
    cases chars with
    | nil => rfl
    | cons first rest => exact List.dropWhile_cons_of_neg (by simp [all first List.mem_cons_self])
  rw [strip, kept text solid, kept text.reverse (fun char member =>
    solid char (List.mem_reverse.mp member)), List.reverse_reverse]

theorem repr_isDigit {value : Nat} {char : Char} (member : char ∈ value.repr.toList) :
    char.isDigit = true := by
  rw [Nat.toList_repr] at member
  exact Nat.isDigit_of_mem_toDigits (by decide) (by decide) member

theorem digitGroups_repr (value : Nat) : digitGroups value.repr.toList = some value := by
  have digits : ∀ char ∈ value.repr.toList, char ≠ '_' := by
    rintro char member rfl
    exact absurd (repr_isDigit member) (by decide)
  have front : (value.repr.toList.head? == some '_') = false := by
    rw [beq_eq_false_iff_ne]
    intro first
    exact digits _ (List.mem_of_head? first) rfl
  have back : (value.repr.toList.getLast? == some '_') = false := by
    rw [beq_eq_false_iff_ne]
    intro last
    exact digits _ (List.mem_of_getLast? last) rfl
  have between : (value.repr.toList.zip value.repr.toList.tail).any
      (fun pair => pair == ('_', '_')) = false := by
    rw [List.any_eq_false]
    intro pair member same
    rw [beq_iff_eq] at same
    subst same
    exact digits _ (List.of_mem_zip member).1 rfl
  have plain : value.repr.toList.filter (fun char => char != '_') = value.repr.toList := by
    rw [List.filter_eq_self]
    intro char member
    simpa using digits char member
  rw [digitGroups, front, back, between, plain]
  exact digitsValue_repr value

theorem signed_repr (value : Nat) : signed value.repr.toList = some (value : Int) := by
  have read := digitGroups_repr value
  have solid : ∀ char ∈ value.repr.toList, char.isDigit = true := fun _ => repr_isDigit
  generalize value.repr.toList = digits at read solid
  unfold signed
  split
  · exact absurd (solid '-' List.mem_cons_self) (by decide)
  · exact absurd (solid '+' List.mem_cons_self) (by decide)
  · rw [read]
    rfl

theorem signed_toString (value : Int) : signed (toString value).toList = some value := by
  rw [Int.toString_eq_repr, Int.repr_eq_if]
  split
  · rename_i notNegative
    rw [signed_repr, Int.toNat_of_nonneg notNegative]
  · rename_i negative
    have same : -((-value).toNat : Int) = value := by omega
    rw [String.toList_append]
    change (digitGroups (-value).toNat.repr.toList).map (fun value : Nat => -(value : Int)) = _
    rw [digitGroups_repr, Option.map_some, same]

theorem strip_toString (value : Int) : strip (toString value).toList = (toString value).toList := by
  apply strip_eq_self
  intro char member
  have bounds := isDecimalChar_range (toString_decimal value char member)
  have notSpace : char ≠ ' ' := by
    rintro rfl
    exact absurd bounds.1 (by decide)
  unfold isAsciiSpace
  simp [notSpace]
  omega

theorem int_i64Bytes (value : Int) : int (i64Bytes value) = .ok value := by
  rw [int, i64Bytes, fromUtf8_asBytes, Option.bind_some, strip_toString, signed_toString]

/-! ### Lines and payloads -/

namespace Resp

def stream (conn : Resp) : Bytes := conn.buf ++ conn.arriving.flatten

def Open (conn : Resp) : Prop := ∀ chunk ∈ conn.arriving, chunk ≠ []

theorem Open.later {buf buf' chunk : Bytes} {arriving : List Bytes}
    (opened : Open ⟨buf, chunk :: arriving⟩) : Open ⟨buf', arriving⟩ :=
  fun other member => opened other (List.mem_cons_of_mem _ member)

/-- A read that ends with a result and leaves a stream to the next one. -/
structure Leaves {α : Type} (read : Except PyError α × Resp) (result : Except PyError α)
    (after : Bytes) : Prop where
  result : read.1 = result
  opened : read.2.Open
  stream : read.2.stream = after

theorem partition_append {buf : Bytes} {parts : Bytes × Bytes} (found : partition buf = some parts)
    (more : Bytes) : partition (buf ++ more) = some (parts.1, parts.2 ++ more) := by
  induction buf generalizing parts with
  | nil => cases found
  | cons byte rest ih =>
      rw [partition] at found
      rw [List.cons_append, partition]
      split at found
      · rename_i here
        cases rest with
        | nil => exact absurd here.2 (by simp)
        | cons next rest =>
            cases found
            exact if_pos here
      · rename_i notHere
        obtain ⟨later, foundLater, rfl⟩ := Option.map_eq_some_iff.mp found
        have still : ¬(byte = 13 ∧ (rest ++ more).head? = some 10) := by
          cases rest with
          | nil => cases foundLater
          | cons next rest => exact notHere
        rw [if_neg still, ih foundLater]
        rfl

theorem partition_line {line : Bytes} (clear : 10 ∉ line) (after : Bytes) :
    partition (line ++ (crlf ++ after)) = some (line, after) := by
  induction line with
  | nil => rfl
  | cons byte line ih =>
      rw [List.mem_cons, not_or] at clear
      have notHere : ¬(byte = 13 ∧ (line ++ (crlf ++ after)).head? = some 10) := by
        rintro ⟨_, feed⟩
        cases line with
        | nil => exact absurd (Option.some.inj feed) (by decide)
        | cons next line =>
            apply clear.2
            rw [List.cons_append, List.head?_cons] at feed
            rw [Option.some.inj feed]
            exact List.mem_cons_self
      rw [List.cons_append, partition, if_neg notHere, ih clear.2]
      rfl

theorem readlineFrom_line {line : Bytes} (clear : 10 ∉ line) {arriving : List Bytes} {buf : Bytes}
    (opened : Open ⟨buf, arriving⟩) {after : Bytes}
    (coming : stream ⟨buf, arriving⟩ = line ++ (crlf ++ after)) :
    Leaves (readlineFrom buf arriving) (.ok line) after := by
  have whole := partition_line clear after
  rw [← coming] at whole
  induction arriving generalizing buf with
  | nil =>
      rw [stream, List.flatten_nil, List.append_nil] at whole
      rw [readlineFrom, whole]
      exact ⟨rfl, opened, List.append_nil after⟩
  | cons chunk arriving ih =>
      rw [readlineFrom]
      cases found : partition buf with
      | some parts =>
          have joined := partition_append found (chunk :: arriving).flatten
          obtain ⟨rfl, rfl⟩ := Prod.mk.inj (Option.some.inj (joined.symm.trans whole))
          exact ⟨rfl, opened, rfl⟩
      | none =>
          have some_ := opened chunk List.mem_cons_self
          have same : stream ⟨buf ++ chunk, arriving⟩ = stream ⟨buf, chunk :: arriving⟩ := by
            rw [stream, stream, List.flatten_cons, List.append_assoc]
          rw [← same] at coming whole
          simp only [if_neg some_]
          exact ih opened.later coming whole

theorem slice_payload {buf more payload after : Bytes} (enough : payload.length + 2 ≤ buf.length)
    (joined : buf ++ more = payload ++ (crlf ++ after)) :
    sliceTo payload.length buf = payload ∧ sliceFrom (payload.length + 2) buf ++ more = after := by
  have front := congrArg (List.take payload.length) joined
  have back := congrArg (List.drop (payload.length + 2)) joined
  rw [List.take_append_of_le_length (by omega), List.take_left] at front
  have rest : (payload ++ (crlf ++ after)).drop (payload.length + 2) = after := by
    rw [← List.drop_drop, List.drop_left]
    rfl
  rw [List.drop_append_of_le_length enough, rest] at back
  have positive : (0 : Int) ≤ payload.length + 2 := by omega
  have length : ((payload.length : Int) + 2).toNat = payload.length + 2 := by omega
  rw [sliceTo, if_pos (Int.natCast_nonneg _), Int.toNat_natCast, front, sliceFrom,
    if_pos positive, length, back]
  exact ⟨rfl, rfl⟩

theorem readnFrom_payload {payload after : Bytes} {arriving : List Bytes} {buf : Bytes}
    (opened : Open ⟨buf, arriving⟩)
    (coming : stream ⟨buf, arriving⟩ = payload ++ (crlf ++ after)) :
    Leaves (readnFrom payload.length buf arriving) (.ok payload) after := by
  induction arriving generalizing buf with
  | nil =>
      have joined : buf ++ [] = payload ++ (crlf ++ after) := coming
      have enough : payload.length + 2 ≤ buf.length := by
        have length := congrArg List.length joined
        have lineEnd : crlf.length = 2 := rfl
        rw [List.append_nil, List.length_append, List.length_append, lineEnd] at length
        omega
      obtain ⟨data, rest⟩ := slice_payload enough joined
      have notShort : ¬(buf.length : Int) < payload.length + 2 := by omega
      rw [readnFrom, if_neg notShort]
      exact ⟨congrArg Except.ok data, opened, rest⟩
  | cons chunk arriving ih =>
      rw [readnFrom]
      split
      · have some_ := opened chunk List.mem_cons_self
        have same : stream ⟨buf ++ chunk, arriving⟩ = stream ⟨buf, chunk :: arriving⟩ := by
          rw [stream, stream, List.flatten_cons, List.append_assoc]
        rw [if_neg some_]
        exact ih opened.later (same.trans coming)
      · rename_i notShort
        have joined : buf ++ (chunk :: arriving).flatten = payload ++ (crlf ++ after) := coming
        have enough : payload.length + 2 ≤ buf.length := by omega
        obtain ⟨data, rest⟩ := slice_payload enough joined
        exact ⟨congrArg Except.ok data, opened, rest⟩

end Resp

/-! ### What a call makes of its reply -/

mutual

def outcome : WireReply → Except PyError PyValue
  | .simple line => (decode line).map .str
  | .error line => (decode line).bind (fun text => .error (.runtime text))
  | .integer value => .ok (.int value)
  | .bulk payload => (decode payload).map .str
  | .nil => .ok .none
  | .nilArray => .ok (.list [])
  | .array items => (itemOutcomes items).map .list

def itemOutcomes : List WireReply → Except PyError (List PyValue)
  | [] => .ok []
  | item :: items =>
      match outcome item with
      | .error e => .error e
      | .ok value => (itemOutcomes items).map (value :: ·)

end

mutual

def behind : WireReply → List WireReply
  | .array items => itemsBehind items
  | _ => []

def itemsBehind : List WireReply → List WireReply
  | [] => []
  | item :: items =>
      match outcome item with
      | .error _ => behind item ++ items
      | .ok _ => itemsBehind items

end

mutual

def nesting : WireReply → Nat
  | .array items => itemsNesting items + 1
  | _ => 1

def itemsNesting : List WireReply → Nat
  | [] => 0
  | item :: items => max (nesting item) (itemsNesting items)

end

theorem itemsBehind_of_ok {items : List WireReply} {values : List PyValue}
    (read : itemOutcomes items = .ok values) : itemsBehind items = [] := by
  induction items generalizing values with
  | nil => rfl
  | cons item items ih =>
      rw [itemOutcomes] at read
      rw [itemsBehind]
      split at read
      · cases read
      · cases later : itemOutcomes items with
        | error e =>
            rw [later] at read
            cases read
        | ok values => exact ih later

theorem behind_of_ok {reply : WireReply} {value : PyValue} (read : outcome reply = .ok value) :
    behind reply = [] := by
  cases reply with
  | array items =>
      rw [outcome] at read
      cases inside : itemOutcomes items with
      | error e =>
          rw [inside] at read
          cases read
      | ok values => exact itemsBehind_of_ok inside
  | _ => rfl

/-- A reply that the client can be sent, and that the stack has room for. -/
structure Readable (room : Nat) (reply : WireReply) : Prop where
  wellFormed : reply.WellFormed
  shallow : nesting reply ≤ room

theorem nesting_le_items {item : WireReply} {items : List WireReply} (member : item ∈ items) :
    nesting item ≤ itemsNesting items := by
  induction items with
  | nil => cases member
  | cons first items ih =>
      rw [itemsNesting]
      rcases List.mem_cons.mp member with rfl | later
      · exact Nat.le_max_left _ _
      · exact Nat.le_trans (ih later) (Nat.le_max_right _ _)

theorem Readable.item {room : Nat} {items : List WireReply}
    (readable : Readable (room + 1) (.array items)) {item : WireReply} (member : item ∈ items) :
    Readable room item := by
  have shallow := readable.shallow
  rw [nesting] at shallow
  exact ⟨((WireReply.all_array items).mp readable.wellFormed).2 item member,
    Nat.le_trans (nesting_le_items member) (Nat.le_of_succ_le_succ shallow)⟩

theorem Readable.more {room room' : Nat} {reply : WireReply} (readable : Readable room reply)
    (more : room ≤ room') : Readable room' reply :=
  ⟨readable.wellFormed, Nat.le_trans readable.shallow more⟩

mutual

theorem readable_behind {room : Nat} (reply : WireReply) (readable : Readable room reply) :
    ∀ part ∈ behind reply, Readable room part := by
  cases reply with
  | array items =>
      cases room with
      | zero => exact absurd readable.shallow (by simp [nesting])
      | succ room =>
          intro part member
          have items := readable_itemsBehind items (fun item member => readable.item member)
          exact (items part member).more (Nat.le_succ room)
  | _ =>
      intro part member
      cases member

theorem readable_itemsBehind {room : Nat} (items : List WireReply)
    (readable : ∀ item ∈ items, Readable room item) :
    ∀ part ∈ itemsBehind items, Readable room part := by
  cases items with
  | nil =>
      intro part member
      cases member
  | cons item items =>
      have later : ∀ other ∈ items, Readable room other :=
        fun other member => readable other (List.mem_cons_of_mem _ member)
      intro part member
      rw [itemsBehind] at member
      split at member
      · rcases List.mem_append.mp member with inside | after
        · exact readable_behind item (readable item List.mem_cons_self) part inside
        · exact later part after
      · exact readable_itemsBehind items later part member

end

namespace Resp

/-! ### Reading a reply -/

theorem Leaves.pair {α : Type} {read : Except PyError α × Resp} {result : Except PyError α}
    {after : Bytes} (leaves : Leaves read result after) :
    ∃ conn, read = (result, conn) ∧ conn.Open ∧ conn.stream = after :=
  ⟨read.2, Prod.ext leaves.result rfl, leaves.opened, leaves.stream⟩

theorem readReply_line {room : Nat} {conn : Resp} (opened : conn.Open) {kind : UInt8}
    {line after : Bytes} (marked : kind ≠ 10) (clear : 10 ∉ line)
    (coming : conn.stream = kind :: (line ++ crlf) ++ after) :
    ∃ conn', conn'.Open ∧ conn'.stream = after ∧
      readReply (room + 1) conn = readKind (readReply room) kind line conn' := by
  have first : 10 ∉ kind :: line := by
    rw [List.mem_cons, not_or]
    exact ⟨marked.symm, clear⟩
  rw [List.cons_append, List.append_assoc, ← List.cons_append] at coming
  obtain ⟨conn', read, opened', rest⟩ := (readlineFrom_line first opened coming).pair
  refine ⟨conn', opened', rest, ?_⟩
  rw [readReply, readline, read]

section Kinds

variable {read : Resp → Except PyError PyValue × Resp} {rest : Bytes} {conn conn' : Resp} {n : Int}

theorem readKind_bulk (counted : int rest = .ok n) (some_ : n ≠ -1) {data : Bytes}
    (payload : conn.readn n = (.ok data, conn')) :
    readKind read 36 rest conn = ((decode data).map .str, conn') := by
  rw [readKind, counted]
  simp [some_, payload]

theorem readKind_array (counted : int rest = .ok n) {items : Except PyError (List PyValue)}
    (inside : readItems read n.toNat conn = (items, conn')) :
    readKind read 42 rest conn = (items.map .list, conn') := by
  rw [readKind, counted]
  cases items with
  | error e => simp [inside, Except.map]
  | ok values => simp [inside, Except.map]

end Kinds

theorem readItems_leaves {read : Resp → Except PyError PyValue × Resp} {items : List WireReply}
    (reads : ∀ item ∈ items, ∀ conn after, conn.Open → conn.stream = item.bytes ++ after →
      Leaves (read conn) (outcome item) ((behind item).flatMap WireReply.bytes ++ after))
    {conn : Resp} (opened : conn.Open) {after : Bytes}
    (coming : conn.stream = items.flatMap WireReply.bytes ++ after) :
    Leaves (readItems read items.length conn) (itemOutcomes items)
      ((itemsBehind items).flatMap WireReply.bytes ++ after) := by
  induction items generalizing conn with
  | nil => exact ⟨rfl, opened, coming⟩
  | cons item items ih =>
      rw [List.flatMap_cons, List.append_assoc] at coming
      obtain ⟨conn', first, opened', rest⟩ :=
        (reads item List.mem_cons_self conn _ opened coming).pair
      rw [List.length_cons, readItems, first, itemOutcomes, itemsBehind]
      cases result : outcome item with
      | error e =>
          refine ⟨rfl, opened', ?_⟩
          rw [rest, List.flatMap_append, List.append_assoc]
      | ok value =>
          rw [behind_of_ok result] at rest
          obtain ⟨conn'', later, opened'', rest'⟩ :=
            (ih (fun other member => reads other (List.mem_cons_of_mem _ member)) opened'
              rest).pair
          simp only [later]
          cases itemOutcomes items with
          | error e => exact ⟨rfl, opened'', rest'⟩
          | ok values => exact ⟨rfl, opened'', rest'⟩

theorem readReply_leaves {reply : WireReply} {room : Nat} (readable : Readable room reply)
    {conn : Resp} (opened : conn.Open) {after : Bytes}
    (coming : conn.stream = reply.bytes ++ after) :
    Leaves (readReply room conn) (outcome reply)
      ((behind reply).flatMap WireReply.bytes ++ after) := by
  induction room generalizing reply conn after with
  | zero =>
      have shallow := readable.shallow
      cases reply with
      | _ => exact absurd shallow (by simp [nesting])
  | succ room ih =>
      have counted (kind : UInt8) (marked : kind ≠ 10) (count : Int) {after : Bytes}
          (coming : conn.stream = kind :: (i64Bytes count ++ crlf) ++ after) :
          ∃ conn', conn'.Open ∧ conn'.stream = after ∧
            readReply (room + 1) conn = readKind (readReply room) kind (i64Bytes count) conn' :=
        readReply_line opened marked (isLine_i64Bytes count).1 coming
      cases reply with
      | simple line =>
          have clear := (readable.wellFormed).1.1
          obtain ⟨conn', opened', rest, read⟩ := readReply_line opened (by decide) clear coming
          rw [read]
          exact ⟨rfl, opened', rest⟩
      | error line =>
          have clear := (readable.wellFormed).1.1
          obtain ⟨conn', opened', rest, read⟩ := readReply_line opened (by decide) clear coming
          rw [read]
          exact ⟨rfl, opened', rest⟩
      | integer value =>
          obtain ⟨conn', opened', rest, read⟩ := counted 58 (by decide) value coming
          rw [read, readKind, int_i64Bytes]
          exact ⟨rfl, opened', rest⟩
      | bulk payload =>
          rw [WireReply.bytes, List.append_assoc, List.append_assoc] at coming
          obtain ⟨conn', opened', rest, read⟩ := counted 36 (by decide) payload.length coming
          obtain ⟨conn'', data, opened'', rest'⟩ := (readnFrom_payload opened' rest).pair
          have some_ : (payload.length : Int) ≠ -1 := by omega
          rw [read, readKind_bulk (int_i64Bytes _) some_ data]
          exact ⟨rfl, opened'', rest'⟩
      | nil =>
          obtain ⟨conn', opened', rest, read⟩ := counted 36 (by decide) (-1) coming
          rw [read, readKind, int_i64Bytes]
          exact ⟨rfl, opened', rest⟩
      | nilArray =>
          obtain ⟨conn', opened', rest, read⟩ := counted 42 (by decide) (-1) coming
          rw [read, readKind, int_i64Bytes]
          exact ⟨rfl, opened', rest⟩
      | array items =>
          rw [WireReply.bytes, List.append_assoc, WireReply.itemBytes_eq] at coming
          obtain ⟨conn', opened', rest, read⟩ := counted 42 (by decide) items.length coming
          have inside := readItems_leaves
            (fun item member _ _ opened coming => ih (readable.item member) opened coming)
            opened' rest
          obtain ⟨conn'', result, opened'', rest'⟩ := inside.pair
          rw [← Int.toNat_natCast items.length] at result
          rw [read, readKind_array (int_i64Bytes _) result]
          exact ⟨rfl, opened'', rest'⟩

end Resp

/-! ### Call after call -/

/-- Calls that take the replies one by one, and what a reply leaves behind
before the next. -/
def drain : Nat → List WireReply → List (Except PyError PyValue) × List WireReply
  | n + 1, reply :: replies =>
      let (later, left) := drain n (behind reply ++ replies)
      (outcome reply :: later, left)
  | _, replies => ([], replies)

theorem drain_left {n : Nat} {replies : List WireReply} (more : n < replies.length) :
    (drain n replies).2 ≠ [] := by
  induction n generalizing replies with
  | zero => exact List.length_pos_iff.mp more
  | succ n ih =>
      cases replies with
      | nil => exact absurd more (Nat.not_lt_zero _)
      | cons reply replies =>
          have still : n < (behind reply ++ replies).length := by
            rw [List.length_append]
            rw [List.length_cons] at more
            omega
          exact ih still

theorem drain_whole {replies : List WireReply} (whole : ∀ reply ∈ replies, behind reply = []) :
    drain replies.length replies = (replies.map outcome, []) := by
  induction replies with
  | nil => rfl
  | cons reply replies ih =>
      rw [List.length_cons, drain, whole reply List.mem_cons_self, List.nil_append,
        ih (fun other member => whole other (List.mem_cons_of_mem _ member))]
      rfl

theorem drain_left_iff (replies : List WireReply) :
    (drain replies.length replies).2 = [] ↔ ∀ reply ∈ replies, behind reply = [] := by
  constructor
  · intro nothing
    induction replies with
    | nil =>
        intro reply member
        cases member
    | cons reply replies ih =>
        rw [List.length_cons, drain] at nothing
        cases rest : behind reply with
        | nil =>
            rw [rest] at nothing
            exact List.forall_mem_cons.mpr ⟨rest, ih nothing⟩
        | cons part parts =>
            rw [rest] at nothing
            have more : replies.length < (part :: parts ++ replies).length := by
              rw [List.length_append, List.length_cons]
              omega
            exact absurd nothing (drain_left more)
  · intro whole
    rw [drain_whole whole]

theorem calls_drain {room n : Nat} {replies : List WireReply}
    (readable : ∀ reply ∈ replies, Readable room reply) (enough : n ≤ replies.length)
    {conn : Resp} (opened : conn.Open) {after : Bytes}
    (coming : conn.stream = replies.flatMap WireReply.bytes ++ after) :
    (conn.calls room n).1 = (drain n replies).1 ∧
      (conn.calls room n).2.stream = (drain n replies).2.flatMap WireReply.bytes ++ after := by
  induction n generalizing replies conn with
  | zero => exact ⟨rfl, coming⟩
  | succ n ih =>
      cases replies with
      | nil => exact absurd enough (Nat.not_succ_le_zero n)
      | cons reply replies =>
          rw [List.flatMap_cons, List.append_assoc] at coming
          have here := readable reply List.mem_cons_self
          obtain ⟨conn', first, opened', rest⟩ := (Resp.readReply_leaves here opened coming).pair
          rw [← List.append_assoc, ← List.flatMap_append] at rest
          have still : ∀ part ∈ behind reply ++ replies, Readable room part := by
            intro part member
            rcases List.mem_append.mp member with inside | later
            · exact readable_behind reply here part inside
            · exact readable part (List.mem_cons_of_mem _ later)
          have more : n ≤ (behind reply ++ replies).length := by
            rw [List.length_append]
            rw [List.length_cons] at enough
            omega
          obtain ⟨results, left⟩ := ih still more opened' rest
          rw [Resp.calls, first, drain]
          exact ⟨congrArg (outcome reply :: ·) results, left⟩

/-- However the socket cuts the replies up, every call takes its own reply, and
all of it, unless a reply raises within an array. -/
theorem demoReplies_aligned_iff {room : Nat} {replies : List WireReply}
    (readable : ∀ reply ∈ replies, Readable room reply) {conn : Resp} (opened : conn.Open)
    {after : Bytes} (coming : conn.stream = replies.flatMap WireReply.bytes ++ after) :
    ((conn.calls room replies.length).1 = replies.map outcome ∧
        (conn.calls room replies.length).2.stream = after) ↔
      ∀ reply ∈ replies, behind reply = [] := by
  obtain ⟨results, left⟩ := calls_drain readable (Nat.le_refl _) opened coming
  constructor
  · rintro ⟨_, whole⟩
    rw [whole] at left
    have nothing := List.append_left_eq_self.mp left.symm
    rw [← drain_left_iff]
    cases unread : (drain replies.length replies).2 with
    | nil => rfl
    | cons part parts =>
        rw [unread, List.flatMap_cons, List.append_eq_nil_iff] at nothing
        exact absurd nothing.1 part.bytes_ne_nil
  · intro whole
    rw [results, left, drain_whole whole]
    exact ⟨rfl, rfl⟩

def raisingReplies : List WireReply :=
  [.array [.error (asBytes "ERR"), .integer 7], .simple (asBytes "OK")]

def raisingConn : Resp :=
  let bytes := raisingReplies.flatMap WireReply.bytes
  ⟨bytes.take 3, [(bytes.drop 3).take 8, bytes.drop 11]⟩

theorem raisingReplies_aligned_iff :
    ((raisingConn.calls 4 2).1 = raisingReplies.map outcome ∧
        (raisingConn.calls 4 2).2.stream = []) ↔
      ∀ reply ∈ raisingReplies, behind reply = [] := by
  have lines : IsLine (asBytes "ERR") ∧ IsLine (asBytes "OK") := by decide
  have error : Readable 4 (.array [.error (asBytes "ERR"), .integer 7]) := by
    constructor
    · have two : 2 ≤ isizeMax := by decide
      have seven : inI64 7 = true := by decide
      exact ⟨⟨True.intro, two⟩, ⟨lines.1, True.intro⟩, ⟨True.intro, seven⟩, True.intro⟩
    · decide
  have ok : Readable 4 (.simple (asBytes "OK")) := ⟨⟨lines.2, True.intro⟩, by decide⟩
  have readable : ∀ reply ∈ raisingReplies, Readable 4 reply := by
    intro reply member
    rcases List.mem_cons.mp member with rfl | later
    · exact error
    · rw [List.mem_singleton.mp later]
      exact ok
  have opened : raisingConn.Open := by
    rw [Resp.Open]
    decide
  have coming : raisingConn.stream = raisingReplies.flatMap WireReply.bytes ++ [] := by decide
  exact demoReplies_aligned_iff readable opened coming

end Demo

end TrainsValkey
