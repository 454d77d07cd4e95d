import TrainsValkey.RespDecoder

/-
What a connection makes of the bytes it receives.

The commands it decodes depend on the bytes alone, and a pipelined stream of
encoded requests decodes to the requests.
-/

set_option autoImplicit false

namespace TrainsValkey

open Library (FrameParser Drained)

/-- However a byte stream is cut into chunks, the decoder yields the same
commands and ends with the same error or the same retained buffer. -/
theorem decoding_chunk_independent (stream : Bytes) (first second : List Bytes)
    (hFirst : first.flatten = stream) (hSecond : second.flatten = stream) :
    RespDecoder.new.run first = RespDecoder.new.run second := by
  rw [RespDecoder.run_whole, RespDecoder.run_whole, hFirst, hSecond]

/-- A cut between the two bytes of a line end. -/
theorem decoding_chunk_independent_cut :
    RespDecoder.new.run [[42, 49, 13], [10, 36, 49, 13, 10, 88, 13, 10]] =
      RespDecoder.new.run [[42, 49, 13, 10, 36, 49, 13, 10, 88, 13, 10]] :=
  decoding_chunk_independent [42, 49, 13, 10, 36, 49, 13, 10, 88, 13, 10] _ _ rfl rfl

/-! ### Reading an encoded request -/

theorem header_eq {marker : Char} {byte : UInt8} (ascii : asBytes (toString marker) = [byte])
    (count : Nat) : header marker count = byte :: (i64Bytes count ++ crlf) := by
  have text : s!"{marker}{count}" = toString marker ++ toString count := rfl
  have number : toString count = toString (count : Int) := rfl
  rw [header, text, asBytes_append, ascii, number]
  rfl

theorem asBytes_star : asBytes (toString '*') = [42] := by rfl

theorem asBytes_dollar : asBytes (toString '$') = [36] := by rfl

theorem parseCrlfLine_line {line : Bytes} (plain : 13 ∉ line) (rest : Bytes) :
    parseCrlfLine (line ++ crlf ++ rest) = some (line, line.length + 2) := by
  have position : crlfPosition (line ++ crlf ++ rest) = some line.length := by
    induction line with
    | nil => rfl
    | cons first line ih =>
        have later := ih (fun member => plain (List.mem_cons_of_mem _ member))
        have notReturn : first ≠ 13 := fun same => plain (same ▸ List.mem_cons_self)
        cases line with
        | nil =>
            change crlfPosition (first :: 13 :: (10 :: rest)) = _
            rw [crlfPosition, if_neg (fun both => notReturn both.1)]
            rfl
        | cons second line =>
            change crlfPosition (first :: second :: (line ++ crlf ++ rest)) = _
            rw [crlfPosition, if_neg (fun both => notReturn both.1)]
            change (crlfPosition ((second :: line) ++ crlf ++ rest)).map (· + 1) = _
            rw [later]
            rfl
  rw [parseCrlfLine, position, Option.map_some, List.append_assoc, List.take_left]

theorem not_mem_i64Bytes (value : Int) {byte : UInt8} (low : byte.toNat < 45) :
    byte ∉ i64Bytes value := by
  intro member
  have range := i64Bytes_range value byte member
  omega

/-- `isize::MAX`, the most bytes or elements that a slice can have. -/
def isizeMax : Nat := 9223372036854775807

theorem inI64_of_le {count : Nat} (short : count ≤ isizeMax) : inI64 count = true := by
  unfold isizeMax at short
  unfold inI64 i64Min i64Max
  simp
  omega

theorem parseDecimal_count {count : Nat} (short : count ≤ isizeMax) :
    parseDecimal (i64Bytes count) = some (count : Int) := parse_i64Bytes (inI64_of_le short)

theorem parseCrlfLine_header {marker : Char} {byte : UInt8}
    (ascii : asBytes (toString marker) = [byte]) (plain : byte ≠ 13) (count : Nat) (rest : Bytes) :
    parseCrlfLine (header marker count ++ rest) =
      some (byte :: i64Bytes count, (header marker count).length) := by
  have clear : 13 ∉ byte :: i64Bytes count := by
    rw [List.mem_cons, not_or]
    exact ⟨plain.symm, not_mem_i64Bytes count (by decide)⟩
  have line := parseCrlfLine_line clear rest
  have length : (header marker count).length = (byte :: i64Bytes count).length + 2 := by
    rw [header_eq ascii, ← List.cons_append, List.length_append]
    rfl
  rw [length, header_eq ascii, ← List.cons_append, line]

def encodeBulk (word : Bytes) : Bytes := header '$' word.length ++ (word ++ crlf)

theorem parseBulk_encodeBulk {word : Bytes} (short : word.length ≤ isizeMax) (rest : Bytes) :
    parseBulk (encodeBulk word ++ rest) = .ok (some (word, (encodeBulk word).length)) := by
  have shape : encodeBulk word ++ rest = header '$' word.length ++ (word ++ (crlf ++ rest)) := by
    simp only [encodeBulk, List.append_assoc]
  have length : (encodeBulk word).length = (header '$' word.length).length + (word.length + 2) := by
    simp only [encodeBulk, List.length_append]
    rfl
  have enough : ¬(word ++ (crlf ++ rest)).length < word.length + 2 := by
    rw [List.length_append]
    exact Nat.not_lt.mpr (Nat.add_le_add_left (Nat.le_add_left 2 rest.length) _)
  rw [parseBulk, shape, parseCrlfLine_header asBytes_dollar (by decide)]
  simp only [List.head?_cons, List.drop_one, List.tail_cons, ne_eq, not_true_eq_false, if_false,
    parseDecimal_count short, List.drop_left, Int.toNat_natCast, List.take_left]
  rw [if_neg (Int.not_lt.mpr (Int.natCast_nonneg _)), if_neg enough, if_neg (fun bad => bad rfl),
    length]

theorem parseBulks_encode {words : List Bytes} (short : ∀ word ∈ words, word.length ≤ isizeMax)
    (front rest : Bytes) (argv : List Bytes) :
    parseBulks (front ++ (words.flatMap encodeBulk ++ rest)) words.length front.length argv =
      .ok (some (argv ++ words, (front ++ words.flatMap encodeBulk).length)) := by
  induction words generalizing front argv with
  | nil => simp [parseBulks]
  | cons word words ih =>
      have later := ih (fun other member => short other (List.mem_cons_of_mem _ member))
        (front ++ encodeBulk word) (argv ++ [word])
      have element := parseBulk_encodeBulk (short word List.mem_cons_self)
        (words.flatMap encodeBulk ++ rest)
      simp only [List.append_assoc, List.length_append] at later
      rw [List.length_cons, parseBulks, List.drop_left, List.flatMap_cons, List.append_assoc, element]
      simp only
      rw [later]
      simp only [List.singleton_append, List.length_append]

/-- The arguments of a request: slices, which never hold more than
`isize::MAX` elements or bytes. -/
structure ArgSlices where
  argv : List Bytes
  count_le : argv.length ≤ isizeMax
  length_le : ∀ a ∈ argv, a.length ≤ isizeMax

theorem encodeRequest_eq (argv : List Bytes) :
    encodeRequest argv = header '*' argv.length ++ argv.flatMap encodeBulk := rfl

theorem parseCommand_encodeRequest (request : ArgSlices) (rest : Bytes) :
    parseCommand (encodeRequest request.argv ++ rest) =
      .ok (some (request.argv, (encodeRequest request.argv).length)) := by
  have line := parseCrlfLine_header asBytes_star (by decide) request.argv.length
    (request.argv.flatMap encodeBulk ++ rest)
  have elements := parseBulks_encode request.length_le (header '*' request.argv.length) rest []
  have star : header '*' request.argv.length =
      42 :: (i64Bytes request.argv.length ++ crlf) := header_eq asBytes_star _
  rw [encodeRequest_eq, List.append_assoc]
  generalize body : header '*' request.argv.length ++
    (request.argv.flatMap encodeBulk ++ rest) = input at line elements
  have starts : ∃ tail, input = 42 :: tail := by
    rw [← body, star, List.cons_append]
    exact ⟨_, rfl⟩
  obtain ⟨tail, rfl⟩ := starts
  rw [parseCommand, if_neg (fun bad => bad rfl), line]
  simp only [List.drop_one, List.tail_cons, parseDecimal_count request.count_le]
  cases empty : request.argv with
  | nil => simp
  | cons word words =>
      have positive : ¬((word :: words).length : Int) ≤ 0 := by
        rw [List.length_cons]
        omega
      rw [empty, List.nil_append] at elements
      rw [if_neg positive, Int.toNat_natCast, elements]

/-- A pipelined stream of encoded requests decodes, however it is cut, to the
arguments of each in order, and leaves nothing. -/
theorem requests_round_trip (requests : List ArgSlices) (chunks : List Bytes)
    (hStream : chunks.flatten = requests.flatMap (fun request => encodeRequest request.argv)) :
    RespDecoder.new.run chunks = (requests.map (·.argv), .ok RespDecoder.new) := by
  have reads : ∀ frame ∈ requests.map (·.argv), ∀ rest,
      respFrames.parse (encodeRequest frame ++ rest) =
        .ok (some (frame, (encodeRequest frame).length)) := by
    intro frame member rest
    obtain ⟨request, _, rfl⟩ := List.mem_map.mp member
    exact parseCommand_encodeRequest request rest
  have drained := FrameParser.drain_flatMap reads []
  have nothing : respFrames.drain [] = ⟨[], .ok []⟩ := FrameParser.drain_waiting rfl
  rw [List.flatMap_map, List.append_nil, nothing] at drained
  rw [RespDecoder.run_whole, hStream, drained]
  simp only [RespDecoder.ofDrained, Drained.after, List.append_nil]
  rfl

/-- Two requests, one of them with an empty argument, cut inside a header. -/
theorem requests_round_trip_cut :
    RespDecoder.new.run
        [[42, 50, 13, 10, 36], [49, 13, 10, 88, 13, 10, 36, 48, 13, 10, 13, 10, 42, 48, 13, 10]] =
      ([[[88], []], []], .ok RespDecoder.new) :=
  requests_round_trip
    [⟨[[88], []], by decide, by decide⟩, ⟨[], by decide, by decide⟩] _ (by rfl)

end TrainsValkey
