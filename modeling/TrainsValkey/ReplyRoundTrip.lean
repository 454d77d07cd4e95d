import TrainsValkey.ReplyReader

/-
Reply trees through the encoder and back through the reader.

Bulk strings carry any bytes; the texts of simple and error replies must stay
on their line.  What follows an encoded reply stays unread.
-/

set_option autoImplicit false

namespace TrainsValkey

namespace Reply

mutual

def All (property : Reply → Prop) : Reply → Prop
  | .array items => property (.array items) ∧ AllItems property items
  | other => property other

def AllItems (property : Reply → Prop) : List Reply → Prop
  | [] => True
  | item :: items => item.All property ∧ AllItems property items

end

/-- No carriage return and no line feed in the text of the reply itself. -/
def Unbroken : Reply → Prop
  | .simple text | .error text => '\r' ∉ text.toList ∧ '\n' ∉ text.toList
  | _ => True

/-- What the types of the source promise of the reply itself. -/
def Typed : Reply → Prop
  | .integer value => inI64 value = true
  | .bulk bytes => bytes.length ≤ isizeMax
  | .array items => items.length ≤ isizeMax
  | _ => True

theorem isLine_asBytes {text : String} (noReturn : '\r' ∉ text.toList)
    (noFeed : '\n' ∉ text.toList) : IsLine (asBytes text) := by
  constructor
  · exact fun feed => noFeed (mem_of_mem_asBytes (by decide) feed)
  · exact fun last => noReturn (mem_of_mem_asBytes (by decide) (List.mem_of_getLast? last))

mutual

theorem wellFormed_wire (reply : Reply) (unbroken : reply.All Unbroken) (typed : reply.All Typed) :
    reply.wire.WellFormed := by
  cases reply with
  | simple text => exact ⟨isLine_asBytes unbroken.1 unbroken.2, True.intro⟩
  | error text => exact ⟨isLine_asBytes unbroken.1 unbroken.2, True.intro⟩
  | integer value => exact ⟨True.intro, typed⟩
  | bulk bytes => exact ⟨True.intro, typed⟩
  | nil => exact ⟨True.intro, True.intro⟩
  | nilArray => exact ⟨True.intro, True.intro⟩
  | array items =>
      have count : (wireItems items).length ≤ isizeMax := by
        rw [wireItems_eq, List.length_map]
        exact typed.1
      exact ⟨⟨True.intro, count⟩, wellFormed_wireItems items unbroken.2 typed.2⟩

theorem wellFormed_wireItems (items : List Reply) (unbroken : AllItems Unbroken items)
    (typed : AllItems Typed items) :
    WireReply.AllItems (fun part => part.Lined ∧ part.Sized) (wireItems items) := by
  cases items with
  | nil => exact True.intro
  | cons item items =>
      exact ⟨wellFormed_wire item unbroken.1 typed.1,
        wellFormed_wireItems items unbroken.2 typed.2⟩

end

end Reply

/-- A reply as a value of its type: 64-bit integers, and vectors of at most
`isize::MAX` elements. -/
structure TypedReply where
  reply : Reply
  typed : reply.All Reply.Typed

/-- An encoded reply is read back whole with everything after it left unread,
and a sequence of encoded replies reads back as the sequence. -/
theorem reply_round_trip :
    (∀ (value : TypedReply) (ended : Bool) (rest : Bytes), value.reply.All Reply.Unbroken →
      readReply ended (value.reply.encode ++ rest) = .finished (.ok value.reply) rest) ∧
    ∀ values : List TypedReply, (∀ value ∈ values, value.reply.All Reply.Unbroken) →
      readReplies ((values.map TypedReply.reply).flatMap Reply.encode) =
        some (values.map TypedReply.reply) := by
  constructor
  · intro value ended rest unbroken
    have wellFormed := value.reply.wellFormed_wire unbroken value.typed
    have read := readReply_bytes wellFormed ended rest
    rw [← Reply.encode_eq, Reply.reply_wire] at read
    exact read
  · intro values unbroken
    apply readReplies_flatMap
    intro reply member
    obtain ⟨value, among, rfl⟩ := List.mem_map.mp member
    exact value.reply.wellFormed_wire (unbroken value among) value.typed

/-! ### A bulk string with line ends inside an array -/

def nested : TypedReply where
  reply := .array [.bulk crlf, .array [.nil, .error "ERR no such key"], .integer (-3)]
  typed := by simp [Reply.All, Reply.AllItems, Reply.Typed, isizeMax, crlf, inI64, i64Min, i64Max]

theorem reply_round_trip_nested :
    readReply false (nested.reply.encode ++ [43]) = .finished (.ok nested.reply) [43] := by
  apply reply_round_trip.1 nested false [43]
  simp only [nested, Reply.All, Reply.AllItems, Reply.Unbroken, true_and, and_true]
  decide

end TrainsValkey
