import TrainsValkey.Library.Incremental
import TrainsValkey.Resp
import TrainsValkey.TextRoundTrip

/-
The request side of the wire protocol: the encoder of a request, and the
incremental decoder that takes one command at a time off the front of its
buffer.

The decoder parses the buffer from its start every time more bytes arrive.  It
is a frame parser of the library: a frame takes at least one byte, and neither
a frame nor an error changes when the buffer grows.
-/

set_option autoImplicit false

namespace TrainsValkey

open Library (FrameParser Drained)

/-! ### Encoding a request -/

def crlf : Bytes := [13, 10]

/-- `format!("{marker}{count}\r\n").into_bytes()`. -/
def header (marker : Char) (count : Nat) : Bytes := asBytes s!"{marker}{count}" ++ crlf

def encodeRequest (argv : List Bytes) : Bytes :=
  header '*' argv.length ++ argv.flatMap (fun a => header '$' a.length ++ (a ++ crlf))

/-! ### Decoding -/

/-- The static texts that a protocol error carries. -/
inductive ProtocolText where
  | badMultibulkHeader
  | expectedBulkString
  | badBulkLength
  | missingCrlf
deriving DecidableEq

def ProtocolText.asStr : ProtocolText → String
  | .badMultibulkHeader => "bad multibulk header"
  | .expectedBulkString => "expected bulk-string element"
  | .badBulkLength => "bad bulk length"
  | .missingCrlf => "missing CRLF after bulk payload"

inductive RespError where
  | protocol (text : ProtocolText)
deriving DecidableEq

def RespError.display : RespError → String
  | .protocol text => s!"protocol error: {text.asStr}"

/-- `std::str::from_utf8(b).ok().and_then(|s| s.trim().parse().ok())`. -/
def parseDecimal (bytes : Bytes) : Option Int :=
  (fromUtf8 bytes).bind (fun text => parseI64 (trim text))

/-- `b.windows(2).position(|w| w == b"\r\n")`. -/
def crlfPosition : Bytes → Option Nat
  | first :: second :: rest =>
      if first = 13 ∧ second = 10 then some 0
      else (crlfPosition (second :: rest)).map (· + 1)
  | _ => none

def parseCrlfLine (b : Bytes) : Option (Bytes × Nat) :=
  (crlfPosition b).map (fun idx => (b.take idx, idx + 2))

abbrev ParsedFrame := List Bytes × Nat

/-- The body of the element loop of `parse_command`, on what is left of the
buffer: the element and the number of bytes it took. -/
def parseBulk (b : Bytes) : Except RespError (Option (Bytes × Nat)) :=
  match parseCrlfLine b with
  | none => .ok none
  | some (bulkHdr, used) =>
      if bulkHdr.head? ≠ some 36 then .error (.protocol .expectedBulkString)
      else
        match parseDecimal (bulkHdr.drop 1) with
        | none => .error (.protocol .badBulkLength)
        | some len =>
            if len < 0 then .ok (some ([], used))
            else
              let len := len.toNat
              if (b.drop used).length < len + 2 then .ok none
              else if ((b.drop used).drop len).take 2 ≠ crlf then
                .error (.protocol .missingCrlf)
              else .ok (some ((b.drop used).take len, used + (len + 2)))

def parseBulks (b : Bytes) : Nat → Nat → List Bytes → Except RespError (Option ParsedFrame)
  | 0, cur, argv => .ok (some (argv, cur))
  | n + 1, cur, argv =>
      match parseBulk (b.drop cur) with
      | .error e => .error e
      | .ok none => .ok none
      | .ok (some (word, used)) => parseBulks b n (cur + used) (argv ++ [word])

def inlineWords (line : Bytes) : List Bytes :=
  let line := if line.getLast? = some 13 then line.dropLast else line
  (line.splitOnP (fun c => c = 32 || c = 9)).filter (fun word => !word.isEmpty)

def parseInline (b : Bytes) : Except RespError (Option ParsedFrame) :=
  match b.findIdx? (fun c => c = 10) with
  | none => .ok none
  | some nl => .ok (some (inlineWords (b.take nl), nl + 1))

def parseCommand (b : Bytes) : Except RespError (Option ParsedFrame) :=
  match b with
  | [] => .ok none
  | first :: _ =>
      if first ≠ 42 then parseInline b
      else
        match parseCrlfLine b with
        | none => .ok none
        | some (header, used) =>
            match parseDecimal (header.drop 1) with
            | none => .error (.protocol .badMultibulkHeader)
            | some n =>
                if n ≤ 0 then .ok (some ([], used))
                else parseBulks b n.toNat used []

structure RespDecoder where
  buf : Bytes

namespace RespDecoder

def new : RespDecoder := { buf := [] }

def feed (decoder : RespDecoder) (bytes : Bytes) : RespDecoder :=
  { buf := decoder.buf ++ bytes }

def nextCommand (decoder : RespDecoder) :
    Except RespError (Option (List Bytes)) × RespDecoder :=
  match parseCommand decoder.buf with
  | .error e => (.error e, decoder)
  | .ok none => (.ok none, decoder)
  | .ok (some (argv, used)) => (.ok (some argv), { buf := decoder.buf.drop used })

end RespDecoder

/-! ### No answer changes as more bytes arrive -/

section Settled

variable {b : Bytes}

theorem crlfPosition_bound {idx : Nat} (found : crlfPosition b = some idx) :
    idx + 2 ≤ b.length := by
  induction b generalizing idx with
  | nil => cases found
  | cons first rest ih =>
      cases rest with
      | nil => cases found
      | cons second rest =>
          rw [crlfPosition] at found
          split at found
          · cases found
            simp only [List.length_cons]
            omega
          · obtain ⟨later, here, rfl⟩ := Option.map_eq_some_iff.mp found
            have bound := ih here
            rw [List.length_cons]
            omega

theorem crlfPosition_append {idx : Nat} (found : crlfPosition b = some idx) (more : Bytes) :
    crlfPosition (b ++ more) = some idx := by
  induction b generalizing idx with
  | nil => cases found
  | cons first rest ih =>
      cases rest with
      | nil => cases found
      | cons second rest =>
          rw [crlfPosition] at found
          change crlfPosition (first :: second :: (rest ++ more)) = _
          rw [crlfPosition]
          split at found
          · rename_i here
            rw [if_pos here]
            exact found
          · rename_i notHere
            obtain ⟨later, here, rfl⟩ := Option.map_eq_some_iff.mp found
            have still : crlfPosition (second :: (rest ++ more)) = some later := ih here
            rw [if_neg notHere, still]
            rfl

theorem parseCrlfLine_bound {line : Bytes} {used : Nat}
    (found : parseCrlfLine b = some (line, used)) : 2 ≤ used ∧ used ≤ b.length := by
  obtain ⟨idx, here, same⟩ := Option.map_eq_some_iff.mp found
  cases same
  exact ⟨Nat.le_add_left 2 idx, crlfPosition_bound here⟩

theorem parseCrlfLine_append {line : Bytes} {used : Nat}
    (found : parseCrlfLine b = some (line, used)) (more : Bytes) :
    parseCrlfLine (b ++ more) = some (line, used) := by
  obtain ⟨idx, here, same⟩ := Option.map_eq_some_iff.mp found
  cases same
  have bound := crlfPosition_bound here
  rw [parseCrlfLine, crlfPosition_append here, Option.map_some,
    List.take_append_of_le_length (by omega)]

theorem parseBulk_bound {word : Bytes} {used : Nat}
    (parsed : parseBulk b = .ok (some (word, used))) : used ≤ b.length := by
  unfold parseBulk at parsed
  cases found : parseCrlfLine b with
  | none =>
      rw [found] at parsed
      cases parsed
  | some line =>
      have bound := parseCrlfLine_bound found
      simp only [found, List.length_drop] at parsed
      split at parsed
      · cases parsed
      · split at parsed
        · cases parsed
        · split at parsed
          · cases parsed
            exact bound.2
          · split at parsed
            · cases parsed
            · split at parsed
              · cases parsed
              · cases parsed
                omega

theorem parseBulk_settled (settled : parseBulk b ≠ .ok none) (more : Bytes) :
    parseBulk (b ++ more) = parseBulk b := by
  unfold parseBulk at settled ⊢
  cases found : parseCrlfLine b with
  | none =>
      rw [found] at settled
      exact absurd rfl settled
  | some line =>
      have bound := parseCrlfLine_bound found
      rw [parseCrlfLine_append found more]
      simp only [found] at settled ⊢
      rw [List.drop_append_of_le_length bound.2]
      by_cases dollar : line.1.head? ≠ some 36
      · rw [if_pos dollar, if_pos dollar]
      · rw [if_neg dollar] at settled ⊢
        rw [if_neg dollar]
        cases decimal : parseDecimal (line.1.drop 1) with
        | none => rfl
        | some len =>
            simp only [decimal] at settled ⊢
            by_cases negative : len < 0
            · rw [if_pos negative, if_pos negative]
            · rw [if_neg negative] at settled ⊢
              rw [if_neg negative]
              by_cases short : (b.drop line.2).length < len.toNat + 2
              · exact absurd (if_pos short) settled
              · have longer : ¬(b.drop line.2 ++ more).length < len.toNat + 2 := by
                  rw [List.length_append]
                  omega
                have whole : len.toNat ≤ (b.drop line.2).length := by omega
                have trailer : 2 ≤ ((b.drop line.2).drop len.toNat).length := by
                  rw [List.length_drop]
                  omega
                rw [if_neg short, if_neg longer, List.drop_append_of_le_length whole,
                  List.take_append_of_le_length trailer, List.take_append_of_le_length whole]

theorem parseBulks_bound {n cur : Nat} {argv words : List Bytes} {used : Nat}
    (within : cur ≤ b.length) (parsed : parseBulks b n cur argv = .ok (some (words, used))) :
    cur ≤ used ∧ used ≤ b.length := by
  induction n generalizing cur argv with
  | zero =>
      cases parsed
      exact ⟨Nat.le_refl _, within⟩
  | succ n ih =>
      rw [parseBulks] at parsed
      cases element : parseBulk (b.drop cur) with
      | error e =>
          rw [element] at parsed
          cases parsed
      | ok answer =>
          cases answer with
          | none =>
              rw [element] at parsed
              cases parsed
          | some found =>
              have bound := parseBulk_bound element
              rw [List.length_drop] at bound
              rw [element] at parsed
              have later := ih (by omega) parsed
              omega

theorem parseBulks_settled {n cur : Nat} {argv : List Bytes} (within : cur ≤ b.length)
    (settled : parseBulks b n cur argv ≠ .ok none) (more : Bytes) :
    parseBulks (b ++ more) n cur argv = parseBulks b n cur argv := by
  induction n generalizing cur argv with
  | zero => rfl
  | succ n ih =>
      rw [parseBulks] at settled
      rw [parseBulks, parseBulks, List.drop_append_of_le_length within]
      cases element : parseBulk (b.drop cur) with
      | error e =>
          rw [parseBulk_settled (by rw [element]; exact fun equal => nomatch equal), element]
      | ok answer =>
          cases answer with
          | none =>
              rw [element] at settled
              exact absurd rfl settled
          | some found =>
              have bound := parseBulk_bound element
              rw [List.length_drop] at bound
              rw [parseBulk_settled (by rw [element]; exact fun equal => nomatch equal), element]
              rw [element] at settled
              exact ih (by omega) settled

theorem parseInline_bound {argv : List Bytes} {used : Nat}
    (parsed : parseInline b = .ok (some (argv, used))) : 0 < used ∧ used ≤ b.length := by
  unfold parseInline at parsed
  cases found : b.findIdx? (fun c => c = 10) with
  | none =>
      rw [found] at parsed
      cases parsed
  | some nl =>
      rw [found] at parsed
      cases parsed
      have within := (List.findIdx?_eq_some_iff_getElem.mp found).1
      exact ⟨Nat.succ_pos nl, within⟩

theorem parseInline_settled (settled : parseInline b ≠ .ok none) (more : Bytes) :
    parseInline (b ++ more) = parseInline b := by
  unfold parseInline at settled ⊢
  cases found : b.findIdx? (fun c => c = 10) with
  | none =>
      rw [found] at settled
      exact absurd rfl settled
  | some nl =>
      have within := (List.findIdx?_eq_some_iff_getElem.mp found).1
      have still : (b ++ more).findIdx? (fun c => c = 10) = some nl := by
        rw [List.findIdx?_append, found]
        rfl
      rw [still]
      simp only
      rw [List.take_append_of_le_length (Nat.le_of_lt within)]

theorem parseCommand_bound {argv : List Bytes} {used : Nat}
    (parsed : parseCommand b = .ok (some (argv, used))) : 0 < used ∧ used ≤ b.length := by
  cases b with
  | nil => cases parsed
  | cons first rest =>
      unfold parseCommand at parsed
      simp only at parsed
      split at parsed
      · exact parseInline_bound parsed
      · split at parsed
        · cases parsed
        · rename_i found
          have bound := parseCrlfLine_bound found
          split at parsed
          · cases parsed
          · split at parsed
            · cases parsed
              omega
            · have later := parseBulks_bound bound.2 parsed
              omega

theorem parseCommand_settled (settled : parseCommand b ≠ .ok none) (more : Bytes) :
    parseCommand (b ++ more) = parseCommand b := by
  cases b with
  | nil => exact absurd rfl settled
  | cons first rest =>
      rw [parseCommand] at settled
      rw [List.cons_append, parseCommand, parseCommand, ← List.cons_append]
      by_cases inline : first ≠ 42
      · rw [if_pos inline] at settled
        rw [if_pos inline, if_pos inline, parseInline_settled settled]
      · rw [if_neg inline] at settled
        rw [if_neg inline, if_neg inline]
        cases found : parseCrlfLine (first :: rest) with
        | none =>
            rw [found] at settled
            exact absurd rfl settled
        | some line =>
            have bound := parseCrlfLine_bound found
            rw [parseCrlfLine_append found more]
            simp only [found] at settled ⊢
            cases decimal : parseDecimal (line.1.drop 1) with
            | none => rfl
            | some n =>
                simp only [decimal] at settled ⊢
                by_cases empty : n ≤ 0
                · rw [if_pos empty, if_pos empty]
                · rw [if_neg empty] at settled
                  rw [if_neg empty, if_neg empty, parseBulks_settled bound.2 settled]

end Settled

/-! ### The decoder as a frame parser -/

def respFrames : FrameParser UInt8 (List Bytes) RespError where
  parse := parseCommand
  consumes := parseCommand_bound
  settled more settled := parseCommand_settled settled more

namespace RespDecoder

/-- `decoder.feed(chunk)`, then `next_command` until it answers that it needs
more or fails; the turns bound the commands a buffer can hold. -/
def drainFor : Nat → RespDecoder → List (List Bytes) × Except RespError RespDecoder
  | 0, decoder => ([], .ok decoder)
  | turns + 1, decoder =>
      match decoder.nextCommand with
      | (.error e, _) => ([], .error e)
      | (.ok none, decoder) => ([], .ok decoder)
      | (.ok (some argv), decoder) =>
          let (later, left) := drainFor turns decoder
          (argv :: later, left)

/-- What a connection decodes from its chunks: the commands in order, and the
decoder it is left with, or the error that ended it. -/
def run : RespDecoder → List Bytes → List (List Bytes) × Except RespError RespDecoder
  | decoder, [] => ([], .ok decoder)
  | decoder, chunk :: rest =>
      let fed := decoder.feed chunk
      match drainFor (fed.buf.length + 1) fed with
      | (commands, .error e) => (commands, .error e)
      | (commands, .ok decoder) =>
          let (later, left) := run decoder rest
          (commands ++ later, left)

def ofDrained (drained : Drained UInt8 (List Bytes) RespError) :
    List (List Bytes) × Except RespError RespDecoder :=
  (drained.frames, drained.left.map RespDecoder.mk)

theorem drainFor_eq (turns : Nat) (buf : Bytes) :
    drainFor turns { buf } = ofDrained (respFrames.drainFor turns buf) := by
  induction turns generalizing buf with
  | zero => rfl
  | succ turns ih =>
      rw [drainFor, FrameParser.drainFor, nextCommand]
      simp only [respFrames]
      cases parsed : parseCommand buf with
      | error e => rfl
      | ok answer =>
          cases answer with
          | none => rfl
          | some found =>
              simp only [ih]
              rfl

theorem run_eq (decoder : RespDecoder) (chunks : List Bytes) :
    decoder.run chunks = ofDrained (respFrames.feedAll decoder.buf chunks) := by
  induction chunks generalizing decoder with
  | nil => rfl
  | cons chunk rest ih =>
      rw [run, FrameParser.feedAll]
      have drained := drainFor_eq ((decoder.buf ++ chunk).length + 1) (decoder.buf ++ chunk)
      change (match drainFor ((decoder.buf ++ chunk).length + 1) { buf := decoder.buf ++ chunk } with
        | (commands, .error e) => (commands, Except.error e)
        | (commands, .ok decoder) => _) = _
      rw [drained]
      change (match ofDrained (respFrames.drain (decoder.buf ++ chunk)) with
        | (commands, .error e) => (commands, Except.error e)
        | (commands, .ok decoder) => _) = _
      unfold ofDrained
      cases ends : (respFrames.drain (decoder.buf ++ chunk)).left with
      | error e => simp only [ends, Except.map]
      | ok left => simp only [ih, Except.map]; rfl

/-- What a connection decodes does not depend on how its bytes were cut. -/
theorem run_whole (chunks : List Bytes) :
    new.run chunks = ofDrained (respFrames.drain chunks.flatten) := by
  have whole : respFrames.feedAll [] chunks = respFrames.drain ([] ++ chunks.flatten) :=
    FrameParser.feedAll_eq_drain rfl chunks
  rw [List.nil_append] at whole
  rw [run_eq, ← whole]
  rfl

end RespDecoder

end TrainsValkey
