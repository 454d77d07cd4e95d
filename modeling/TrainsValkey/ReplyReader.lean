import TrainsValkey.RespStream

/-
The reply side of the wire protocol: the encoder of a reply, and the reader
that takes one reply off a stream.

Simple and error replies end with their line; nothing in them is escaped.  So
the reader gets a reply back when its texts are lines: no line feed in them,
and no carriage return at their end.
-/

set_option autoImplicit false

namespace TrainsValkey

/-! ### Replies on the wire -/

/-- A reply as it travels: its texts are bytes. -/
inductive WireReply where
  | simple (line : Bytes)
  | error (line : Bytes)
  | integer (value : Int)
  | bulk (bytes : Bytes)
  | nil
  | nilArray
  | array (items : List WireReply)

namespace WireReply

mutual

def bytes : WireReply → Bytes
  | .simple line => 43 :: (line ++ crlf)
  | .error line => 45 :: (line ++ crlf)
  | .integer value => 58 :: (i64Bytes value ++ crlf)
  | .bulk payload => 36 :: (i64Bytes payload.length ++ crlf) ++ (payload ++ crlf)
  | .nil => asBytes "$-1\r\n"
  | .nilArray => asBytes "*-1\r\n"
  | .array items => 42 :: (i64Bytes items.length ++ crlf) ++ itemBytes items

def itemBytes : List WireReply → Bytes
  | [] => []
  | item :: items => item.bytes ++ itemBytes items

end

mutual

def reply : WireReply → Reply
  | .simple line => .simple (fromUtf8Lossy line)
  | .error line => .error (fromUtf8Lossy line)
  | .integer value => .integer value
  | .bulk payload => .bulk payload
  | .nil => .nil
  | .nilArray => .nilArray
  | .array items => .array (itemReplies items)

def itemReplies : List WireReply → List Reply
  | [] => []
  | item :: items => item.reply :: itemReplies items

end

mutual

def All (property : WireReply → Prop) : WireReply → Prop
  | .array items => property (.array items) ∧ AllItems property items
  | other => property other

def AllItems (property : WireReply → Prop) : List WireReply → Prop
  | [] => True
  | item :: items => item.All property ∧ AllItems property items

end

theorem bytes_ne_nil (reply : WireReply) : reply.bytes ≠ [] := by
  cases reply with
  | nil => decide
  | nilArray => decide
  | _ => exact List.cons_ne_nil _ _

theorem itemBytes_eq (items : List WireReply) : itemBytes items = items.flatMap bytes := by
  induction items with
  | nil => rfl
  | cons item items ih => rw [itemBytes, ih, List.flatMap_cons]

theorem itemReplies_eq (items : List WireReply) : itemReplies items = items.map reply := by
  induction items with
  | nil => rfl
  | cons item items ih => rw [itemReplies, ih, List.map_cons]

theorem allItems_iff {property : WireReply → Prop} (items : List WireReply) :
    AllItems property items ↔ ∀ item ∈ items, item.All property := by
  induction items with
  | nil => simp [AllItems]
  | cons item items ih => simp [AllItems, ih]

mutual

theorem all_and {first second : WireReply → Prop} (reply : WireReply) (left : reply.All first)
    (right : reply.All second) : reply.All (fun part => first part ∧ second part) := by
  cases reply with
  | array items => exact ⟨⟨left.1, right.1⟩, allItems_and items left.2 right.2⟩
  | _ => exact ⟨left, right⟩

theorem allItems_and {first second : WireReply → Prop} (items : List WireReply)
    (left : AllItems first items) (right : AllItems second items) :
    AllItems (fun part => first part ∧ second part) items := by
  cases items with
  | nil => exact True.intro
  | cons item items => exact ⟨all_and item left.1 right.1, allItems_and items left.2 right.2⟩

end

theorem all_array {property : WireReply → Prop} (items : List WireReply) :
    (WireReply.array items).All property ↔
      property (.array items) ∧ ∀ item ∈ items, item.All property := by
  rw [All, allItems_iff]

end WireReply

namespace Reply

mutual

def encode : Reply → Bytes
  | .simple s => 43 :: (asBytes s ++ crlf)
  | .error s => 45 :: (asBytes s ++ crlf)
  | .integer i => 58 :: (i64Bytes i ++ crlf)
  | .bulk b => 36 :: (asBytes (toString b.length) ++ crlf ++ (b ++ crlf))
  | .nil => asBytes "$-1\r\n"
  | .nilArray => asBytes "*-1\r\n"
  | .array items => 42 :: (asBytes (toString items.length) ++ crlf ++ encodeItems items)

def encodeItems : List Reply → Bytes
  | [] => []
  | item :: items => item.encode ++ encodeItems items

end

mutual

def wire : Reply → WireReply
  | .simple s => .simple (asBytes s)
  | .error s => .error (asBytes s)
  | .integer i => .integer i
  | .bulk b => .bulk b
  | .nil => .nil
  | .nilArray => .nilArray
  | .array items => .array (wireItems items)

def wireItems : List Reply → List WireReply
  | [] => []
  | item :: items => item.wire :: wireItems items

end

theorem wireItems_eq (items : List Reply) : wireItems items = items.map wire := by
  induction items with
  | nil => rfl
  | cons item items ih => rw [wireItems, ih, List.map_cons]

mutual

theorem encode_eq (reply : Reply) : reply.encode = reply.wire.bytes := by
  cases reply with
  | array items =>
      rw [encode, wire, WireReply.bytes, encodeItems_eq items, wireItems_eq, List.length_map]
      rfl
  | _ => rfl

theorem encodeItems_eq (items : List Reply) :
    encodeItems items = WireReply.itemBytes (wireItems items) := by
  cases items with
  | nil => rfl
  | cons item items => rw [encodeItems, wireItems, WireReply.itemBytes, encode_eq, encodeItems_eq]

end

mutual

theorem reply_wire (reply : Reply) : reply.wire.reply = reply := by
  cases reply with
  | simple s => exact congrArg Reply.simple (fromUtf8Lossy_asBytes s)
  | error s => exact congrArg Reply.error (fromUtf8Lossy_asBytes s)
  | array items => exact congrArg Reply.array (itemReplies_wireItems items)
  | _ => rfl

theorem itemReplies_wireItems (items : List Reply) :
    WireReply.itemReplies (wireItems items) = items := by
  cases items with
  | nil => rfl
  | cons item items =>
      rw [wireItems, WireReply.itemReplies, reply_wire, itemReplies_wireItems]

end

end Reply

/-! ### Reading one reply -/

inductive ReadError where
  | eof
  | emptyLine
  | badInteger
  | shortPayload
  | unknownMarker (other : UInt8)

def ReadError.display : ReadError → String
  | .eof => "eof reading reply"
  | .emptyLine => "empty reply line"
  | .badInteger => "bad RESP integer"
  | .shortPayload => "failed to fill whole buffer"
  | .unknownMarker other => s!"unknown RESP reply marker {other}"

/-- A read from a stream waits for bytes that have not come, or finishes and
leaves the rest of what has come. -/
inductive ReadOutcome where
  | blocked
  | finished (result : Except ReadError Reply) (rest : Bytes)

/-- `read_until(b'\n', ..)`.  A stream that has ended yields what is left. -/
def readUntil (ended : Bool) (input : Bytes) : Option (Bytes × Bytes) :=
  match input.findIdx? (fun c => c = 10) with
  | some nl => some (input.take (nl + 1), input.drop (nl + 1))
  | none => if ended then some (input, []) else none

/-- The loop that pops the line end. -/
def popLineEnd (line : Bytes) : Bytes :=
  (line.reverse.dropWhile (fun c => c = 10 || c = 13)).reverse

def parseReplyInt (b : Bytes) : Option Int :=
  (fromUtf8 b).bind (fun text => parseI64 (trim text))

def readPayload (ended : Bool) (len : Nat) (rest : Bytes) : ReadOutcome :=
  if rest.length < len + 2 then
    if ended then .finished (.error .shortPayload) [] else .blocked
  else .finished (.ok (.bulk (rest.take len))) (rest.drop (len + 2))

def readItems (read : Bytes → ReadOutcome) : Nat → List Reply → Bytes → ReadOutcome
  | 0, items, rest => .finished (.ok (.array items)) rest
  | n + 1, items, rest =>
      match read rest with
      | .blocked => .blocked
      | .finished (.error e) rest => .finished (.error e) rest
      | .finished (.ok item) rest => readItems read n (items ++ [item]) rest

def readMarked (ended : Bool) (read : Bytes → ReadOutcome) (marker : UInt8) (body rest : Bytes) :
    ReadOutcome :=
  if marker = 43 then .finished (.ok (.simple (fromUtf8Lossy body))) rest
  else if marker = 45 then .finished (.ok (.error (fromUtf8Lossy body))) rest
  else if marker = 58 then
    match parseReplyInt body with
    | none => .finished (.error .badInteger) rest
    | some value => .finished (.ok (.integer value)) rest
  else if marker = 36 then
    match parseReplyInt body with
    | none => .finished (.error .badInteger) rest
    | some len =>
        if len < 0 then .finished (.ok .nil) rest else readPayload ended len.toNat rest
  else if marker = 42 then
    match parseReplyInt body with
    | none => .finished (.error .badInteger) rest
    | some len =>
        if len < 0 then .finished (.ok .nilArray) rest else readItems read len.toNat [] rest
  else .finished (.error (.unknownMarker marker)) rest

/-- The depth bounds the nesting of arrays; every level takes a line. -/
def readReplyFor (ended : Bool) : Nat → Bytes → ReadOutcome
  | 0, _ => .blocked
  | depth + 1, input =>
      match readUntil ended input with
      | none => .blocked
      | some ([], rest) => .finished (.error .eof) rest
      | some (line, rest) =>
          match popLineEnd line with
          | [] => .finished (.error .emptyLine) rest
          | marker :: body => readMarked ended (readReplyFor ended depth) marker body rest

def readReply (ended : Bool) (input : Bytes) : ReadOutcome :=
  readReplyFor ended (input.length + 1) input

/-! ### Lines -/

def IsLine (bytes : Bytes) : Prop := 10 ∉ bytes ∧ bytes.getLast? ≠ some 13

instance (bytes : Bytes) : Decidable (IsLine bytes) := inferInstanceAs (Decidable (_ ∧ _))

theorem IsLine.append {front back : Bytes} (clear : 10 ∉ front) (line : IsLine back)
    (some_ : back ≠ []) : IsLine (front ++ back) := by
  constructor
  · rw [List.mem_append, not_or]
    exact ⟨clear, line.1⟩
  · rw [List.getLast?_append_of_ne_nil _ some_]
    exact line.2

theorem IsLine.join {front back : Bytes} (first : IsLine front) (second : IsLine back) :
    IsLine (front ++ back) := by
  by_cases empty : back = []
  · subst empty
    rw [List.append_nil]
    exact first
  · exact IsLine.append first.1 second empty

theorem IsLine.marked {line : Bytes} (isLine : IsLine line) {marker : UInt8} (feed : marker ≠ 10)
    (ret : marker ≠ 13) : IsLine (marker :: line) := by
  by_cases empty : line = []
  · subst empty
    exact ⟨by simpa using feed.symm, by simpa using ret⟩
  · have clear : (10 : UInt8) ∉ [marker] := by simpa using feed.symm
    exact IsLine.append clear isLine empty

theorem isLine_i64Bytes (value : Int) : IsLine (i64Bytes value) := by
  refine ⟨not_mem_i64Bytes value (by decide), fun last => ?_⟩
  exact not_mem_i64Bytes value (by decide) (List.mem_of_getLast? last)

theorem readUntil_line {line : Bytes} (clear : 10 ∉ line) (ended : Bool) (rest : Bytes) :
    readUntil ended (line ++ crlf ++ rest) = some (line ++ crlf, rest) := by
  have before : line.findIdx? (fun c => c = 10) = none := by
    rw [List.findIdx?_eq_none_iff]
    intro byte member
    exact decide_eq_false (fun same => clear (same ▸ member))
  have found : (line ++ crlf ++ rest).findIdx? (fun c => c = 10) = some (line.length + 1) := by
    have lineEnd : (crlf ++ rest).findIdx? (fun c => c = 10) = some 1 := rfl
    rw [List.append_assoc, List.findIdx?_append, before, lineEnd, Option.none_or, Option.map_some,
      Nat.add_comm]
  have length : (line ++ crlf).length = line.length + 1 + 1 := List.length_append
  rw [readUntil, found]
  simp only
  rw [← length, List.take_left, List.drop_left]

theorem popLineEnd_line {line : Bytes} (isLine : IsLine line) : popLineEnd (line ++ crlf) = line := by
  have kept : line.reverse.dropWhile (fun c => c = 10 || c = 13) = line.reverse := by
    cases back : line.reverse with
    | nil => rfl
    | cons last before =>
        have lastly : line.getLast? = some last := by
          rw [← List.head?_reverse, back]
          rfl
        have feed : last ≠ 10 := fun same => isLine.1 (same ▸ List.mem_of_getLast? lastly)
        have ret : last ≠ 13 := fun same => isLine.2 (same ▸ lastly)
        exact List.dropWhile_cons_of_neg (by simp [feed, ret])
  rw [popLineEnd, List.reverse_append]
  change (line.reverse.dropWhile (fun c => c = 10 || c = 13)).reverse = line
  rw [kept, List.reverse_reverse]

theorem readReplyFor_line {marker : UInt8} {line : Bytes} (isLine : IsLine line)
    (feed : marker ≠ 10) (ret : marker ≠ 13) (ended : Bool) (depth : Nat) (rest : Bytes) :
    readReplyFor ended (depth + 1) (marker :: (line ++ crlf) ++ rest) =
      readMarked ended (readReplyFor ended depth) marker line rest := by
  have marked := isLine.marked feed ret
  have until_ := readUntil_line marked.1 ended rest
  rw [readReplyFor, ← List.cons_append, until_]
  have popped := popLineEnd_line marked
  change (match popLineEnd ((marker :: line) ++ crlf) with
    | [] => ReadOutcome.finished (.error .emptyLine) rest
    | marker :: body => readMarked ended (readReplyFor ended depth) marker body rest) = _
  rw [popped]

section Marked

variable {read : Bytes → ReadOutcome} {body rest : Bytes} {len : Int}

theorem readMarked_bulk (parsed : parseReplyInt body = some len) (ended : Bool) :
    readMarked ended read 36 body rest =
      if len < 0 then .finished (.ok .nil) rest else readPayload ended len.toNat rest := by
  rw [readMarked, parsed]
  rfl

theorem readMarked_array (parsed : parseReplyInt body = some len) (ended : Bool) :
    readMarked ended read 42 body rest =
      if len < 0 then .finished (.ok .nilArray) rest else readItems read len.toNat [] rest := by
  rw [readMarked, parsed]
  rfl

end Marked

theorem parseReplyInt_i64Bytes {value : Int} (fits : inI64 value = true) :
    parseReplyInt (i64Bytes value) = some value := parse_i64Bytes fits

theorem readPayload_append (ended : Bool) (payload rest : Bytes) :
    readPayload ended payload.length (payload ++ (crlf ++ rest)) =
      .finished (.ok (.bulk payload)) rest := by
  have enough : ¬(payload ++ (crlf ++ rest)).length < payload.length + 2 := by
    rw [List.length_append]
    exact Nat.not_lt.mpr (Nat.add_le_add_left (Nat.le_add_left 2 rest.length) _)
  rw [readPayload, if_neg enough, List.take_left, ← List.drop_drop, List.drop_left]
  rfl

/-! ### Reading a reply back -/

def WireReply.Lined : WireReply → Prop
  | .simple line | .error line => IsLine line
  | _ => True

/-- What the types of the source promise of a reply: an integer has 64 bits,
and a vector has at most `isize::MAX` elements. -/
def WireReply.Sized : WireReply → Prop
  | .integer value => inI64 value = true
  | .bulk payload => payload.length ≤ isizeMax
  | .array items => items.length ≤ isizeMax
  | _ => True

def WireReply.WellFormed (reply : WireReply) : Prop :=
  reply.All (fun part => part.Lined ∧ part.Sized)

theorem readItems_flatMap {read : Bytes → ReadOutcome} {items : List WireReply}
    (reads : ∀ item ∈ items, ∀ rest, read (item.bytes ++ rest) = .finished (.ok item.reply) rest)
    (before : List Reply) (rest : Bytes) :
    readItems read items.length before (items.flatMap WireReply.bytes ++ rest) =
      .finished (.ok (.array (before ++ items.map WireReply.reply))) rest := by
  induction items generalizing before with
  | nil => simp [readItems]
  | cons item items ih =>
      have first := reads item List.mem_cons_self (items.flatMap WireReply.bytes ++ rest)
      have later := ih (fun other member => reads other (List.mem_cons_of_mem _ member))
        (before ++ [item.reply])
      rw [List.length_cons, readItems, List.flatMap_cons, List.append_assoc, first]
      simp only
      rw [later, List.map_cons, List.append_assoc, List.singleton_append]

theorem readReplyFor_bytes {reply : WireReply} (wellFormed : reply.WellFormed) (ended : Bool)
    {depth : Nat} (deep : reply.bytes.length ≤ depth) (rest : Bytes) :
    readReplyFor ended depth (reply.bytes ++ rest) = .finished (.ok reply.reply) rest := by
  induction depth generalizing reply rest with
  | zero => exact absurd (List.length_eq_zero_iff.mp (Nat.le_zero.mp deep)) reply.bytes_ne_nil
  | succ depth ih =>
      -- the line that starts an integer, a bulk string or an array
      have counted (marker : UInt8) (feed : marker ≠ 10) (ret : marker ≠ 13) (count : Int) :=
        readReplyFor_line (isLine_i64Bytes count) feed ret ended depth
      cases reply with
      | simple line =>
          exact readReplyFor_line wellFormed.1 (by decide) (by decide) ended depth rest
      | error line =>
          exact readReplyFor_line wellFormed.1 (by decide) (by decide) ended depth rest
      | integer value =>
          rw [WireReply.bytes, counted 58 (by decide) (by decide), readMarked,
            parseReplyInt_i64Bytes wellFormed.2]
          rfl
      | bulk payload =>
          rw [WireReply.bytes, List.append_assoc, List.append_assoc,
            counted 36 (by decide) (by decide),
            readMarked_bulk (parseReplyInt_i64Bytes (inI64_of_le wellFormed.2)),
            if_neg (Int.not_lt.mpr (Int.natCast_nonneg _)), Int.toNat_natCast, readPayload_append]
          rfl
      | nil => exact counted 36 (by decide) (by decide) (-1) rest
      | nilArray => exact counted 42 (by decide) (by decide) (-1) rest
      | array items =>
          obtain ⟨sized, nested⟩ := (WireReply.all_array items).mp wellFormed
          have shorter : ∀ item ∈ items, item.bytes.length ≤ depth := by
            intro item member
            obtain ⟨before, after, rfl⟩ := List.append_of_mem member
            simp only [WireReply.bytes, WireReply.itemBytes_eq, List.flatMap_append,
              List.flatMap_cons, List.length_cons, List.length_append] at deep
            omega
          have reads := readItems_flatMap
            (fun item member rest => ih (nested item member) (shorter item member) rest) [] rest
          rw [WireReply.bytes, List.append_assoc, counted 42 (by decide) (by decide),
            readMarked_array (parseReplyInt_i64Bytes (inI64_of_le sized.2)),
            if_neg (Int.not_lt.mpr (Int.natCast_nonneg _)), Int.toNat_natCast,
            WireReply.itemBytes_eq, reads, WireReply.reply, WireReply.itemReplies_eq]
          rfl

/-- A well-formed reply is read whole, and nothing after it. -/
theorem readReply_bytes {reply : WireReply} (wellFormed : reply.WellFormed) (ended : Bool)
    (rest : Bytes) :
    readReply ended (reply.bytes ++ rest) = .finished (.ok reply.reply) rest := by
  apply readReplyFor_bytes wellFormed
  rw [List.length_append]
  omega

/-! ### Reading a stream of replies -/

def readRepliesFor : Nat → Bytes → Option (List Reply)
  | 0, _ => none
  | turns + 1, input =>
      if input = [] then some []
      else
        match readReply true input with
        | .finished (.ok reply) rest => (readRepliesFor turns rest).map (reply :: ·)
        | _ => none

/-- Every turn but the last consumes a byte. -/
def readReplies (input : Bytes) : Option (List Reply) := readRepliesFor (input.length + 1) input

theorem encode_ne_nil (reply : Reply) : reply.encode ≠ [] := by
  rw [Reply.encode_eq]
  exact reply.wire.bytes_ne_nil

theorem length_le_flatMap_encode (replies : List Reply) :
    replies.length ≤ (replies.flatMap Reply.encode).length := by
  induction replies with
  | nil => exact Nat.le_refl 0
  | cons reply replies ih =>
      have some_ := List.length_pos_iff.mpr (encode_ne_nil reply)
      rw [List.length_cons, List.flatMap_cons, List.length_append]
      omega

/-- Well-formed replies at the front of a stream are read back. -/
theorem readRepliesFor_front {replies : List Reply}
    (wellFormed : ∀ reply ∈ replies, reply.wire.WellFormed) (turns : Nat) (rest : Bytes) :
    readRepliesFor (replies.length + turns) (replies.flatMap Reply.encode ++ rest) =
      (readRepliesFor turns rest).map (replies ++ ·) := by
  induction replies with
  | nil => simp
  | cons reply replies ih =>
      have later := ih (fun other member => wellFormed other (List.mem_cons_of_mem _ member))
      have first := readReply_bytes (wellFormed reply List.mem_cons_self) true
        (replies.flatMap Reply.encode ++ rest)
      have some_ : reply.encode ++ (replies.flatMap Reply.encode ++ rest) ≠ [] :=
        fun empty => encode_ne_nil reply (List.append_eq_nil_iff.mp empty).1
      rw [← Reply.encode_eq, Reply.reply_wire] at first
      rw [List.length_cons, Nat.succ_add, List.flatMap_cons, List.append_assoc, readRepliesFor,
        if_neg some_, first]
      simp only
      rw [later, Option.map_map]
      rfl

theorem readReplies_flatMap {replies : List Reply}
    (wellFormed : ∀ reply ∈ replies, reply.wire.WellFormed) :
    readReplies (replies.flatMap Reply.encode) = some replies := by
  have bound := length_le_flatMap_encode replies
  obtain ⟨turns, enough⟩ := Nat.exists_eq_add_of_le bound
  have read := readRepliesFor_front wellFormed (turns + 1) []
  rw [List.append_nil, ← Nat.add_assoc, ← enough] at read
  rw [readReplies, read]
  simp [readRepliesFor]

/-! ### A text that leaves its line -/

theorem popLineEnd_front (line : Bytes) : popLineEnd line <+: line := by
  have suffix := List.dropWhile_suffix (l := line.reverse) (fun c => c = 10 || c = 13)
  have front := List.reverse_prefix.mpr suffix
  rw [List.reverse_reverse] at front
  exact front

theorem readUntil_clear {ended : Bool} {input line rest : Bytes}
    (found : readUntil ended input = some (line, rest)) : 10 ∉ popLineEnd line := by
  unfold readUntil at found
  cases position : input.findIdx? (fun c => c = 10) with
  | none =>
      rw [position] at found
      have clear := List.findIdx?_eq_none_iff.mp position
      cases ended with
      | false => cases found
      | true =>
          cases found
          intro member
          exact absurd (clear 10 ((popLineEnd_front _).subset member)) (by decide)
  | some nl =>
      rw [position] at found
      cases found
      obtain ⟨within, feed, before⟩ := List.findIdx?_eq_some_iff_getElem.mp position
      have clear : 10 ∉ input.take nl := by
        intro member
        obtain ⟨index, low, same⟩ := List.mem_take_iff_getElem.mp member
        exact before index (by omega) (decide_eq_true same)
      have popped : popLineEnd (input.take (nl + 1)) = popLineEnd (input.take nl) := by
        rw [List.take_succ_eq_append_getElem within, of_decide_eq_true feed, popLineEnd,
          List.reverse_append]
        rfl
      rw [popped]
      exact fun member => clear ((popLineEnd_front _).subset member)

theorem readUntil_head {ended : Bool} {first : UInt8} {input line rest : Bytes}
    (found : readUntil ended (first :: input) = some (line, rest)) :
    ∃ tail, line = first :: tail := by
  unfold readUntil at found
  split at found
  · cases found
    exact ⟨_, rfl⟩
  · split at found
    · cases found
      exact ⟨_, rfl⟩
    · cases found

theorem readReply_broken {text : String} (broken : 10 ∈ asBytes text) (ended : Bool)
    (more rest : Bytes) :
    readReply ended ((Reply.error text).encode ++ more) ≠ .finished (.ok (.error text)) rest := by
  intro read
  rw [readReply, readReplyFor] at read
  cases found : readUntil ended ((Reply.error text).encode ++ more) with
  | none =>
      rw [found] at read
      cases read
  | some taken =>
      obtain ⟨line, after⟩ := taken
      obtain ⟨tail, rfl⟩ := readUntil_head found
      have clear := readUntil_clear found
      rw [found] at read
      simp only at read
      cases popped : popLineEnd (45 :: tail) with
      | nil =>
          rw [popped] at read
          cases read
      | cons marker body =>
          have front := popLineEnd_front (45 :: tail)
          rw [popped] at front clear read
          obtain ⟨rfl, _⟩ := List.cons_prefix_cons.mp front
          have same : text = fromUtf8Lossy body := by
            injection read with ok _
            injection ok with error
            injection error with text_
            exact text_.symm
          rw [same] at broken
          exact fromUtf8Lossy_clear (fun member => clear (List.mem_cons_of_mem _ member)) broken

theorem readReplies_broken {front later : List Reply} {text : String}
    (wellFormed : ∀ reply ∈ front, reply.wire.WellFormed) (broken : 10 ∈ asBytes text) :
    readReplies ((front ++ .error text :: later).flatMap Reply.encode) ≠
      some (front ++ .error text :: later) := by
  intro read
  have bound := length_le_flatMap_encode (front ++ .error text :: later)
  rw [List.length_append] at bound
  obtain ⟨turns, enough⟩ := Nat.exists_eq_add_of_le
    (Nat.le_trans (Nat.le_add_right front.length _) bound)
  have fronts := readRepliesFor_front wellFormed (turns + 1)
    ((Reply.error text :: later).flatMap Reply.encode)
  rw [← List.flatMap_append, ← Nat.add_assoc, ← enough] at fronts
  rw [readReplies, fronts] at read
  obtain ⟨replies, readLater, same⟩ := Option.map_eq_some_iff.mp read
  rw [List.append_cancel_left same, List.flatMap_cons, readRepliesFor] at readLater
  split at readLater
  · cases readLater
  · split at readLater
    · rename_i reply rest first
      obtain ⟨others, _, joined⟩ := Option.map_eq_some_iff.mp readLater
      obtain ⟨rfl, _⟩ := List.cons.inj joined
      exact readReply_broken broken true _ _ first
    · cases readLater

end TrainsValkey
