import TrainsValkey.Text

/-
The texts a Rust string can hold, read back from their bytes.

Decoding inverts the encoding of a string and makes no line feed of other
bytes, and the integer parser inverts the printer on every 64-bit value.
-/

set_option autoImplicit false

namespace TrainsValkey

/-! ### The bytes of a string -/

theorem asBytes_eq (text : String) : asBytes text = text.toList.flatMap String.utf8EncodeChar := by
  unfold asBytes
  rw [String.toUTF8_eq_toByteArray, ← String.utf8Encode_toList, List.utf8Encode]
  exact List.toList_data_toByteArray

theorem asBytes_append (first second : String) :
    asBytes (first ++ second) = asBytes first ++ asBytes second := by
  simp only [asBytes_eq, String.toList_append, List.flatMap_append]

/-! ### One character -/

section Step

variable {first second third fourth : UInt8} (rest : Bytes)

theorem isContinuation_iff (byte : UInt8) :
    isContinuation byte = true ↔ 128 ≤ byte.toNat ∧ byte.toNat ≤ 191 := by
  simp [isContinuation, UInt8.le_iff_toNat_le]

theorem secondOfThree_of (next : 128 ≤ second.toNat ∧ second.toNat ≤ 191)
    (low : first.toNat = 224 → 160 ≤ second.toNat)
    (high : first.toNat = 237 → second.toNat ≤ 159) : secondOfThree first second = true := by
  unfold secondOfThree
  split
  · rename_i lead
    have above := low (congrArg UInt8.toNat lead)
    simp [UInt8.le_iff_toNat_le, above, next.2]
  · split
    · rename_i lead
      have below := high (congrArg UInt8.toNat lead)
      simp [UInt8.le_iff_toNat_le, below, next.1]
    · exact (isContinuation_iff second).mpr next

theorem secondOfFour_of (next : 128 ≤ second.toNat ∧ second.toNat ≤ 191)
    (low : first.toNat = 240 → 144 ≤ second.toNat)
    (high : first.toNat = 244 → second.toNat ≤ 143) : secondOfFour first second = true := by
  unfold secondOfFour
  split
  · rename_i lead
    have above := low (congrArg UInt8.toNat lead)
    simp [UInt8.le_iff_toNat_le, above, next.2]
  · split
    · rename_i lead
      have below := high (congrArg UInt8.toNat lead)
      simp [UInt8.le_iff_toNat_le, below, next.1]
    · exact (isContinuation_iff second).mpr next

theorem utf8Step_one (low : first.toNat < 128) :
    utf8Step first rest = (some (Char.ofNat first.toNat), 0) := by
  have small : first < 0x80 := UInt8.lt_iff_toNat_lt.mpr low
  rw [utf8Step, if_pos small]

theorem utf8Step_two (lead : 194 ≤ first.toNat ∧ first.toNat ≤ 223)
    (next : isContinuation second = true) :
    utf8Step first (second :: rest) =
      (some (Char.ofNat (first.toNat % 32 * 64 + second.toNat % 64)), 1) := by
  have large : ¬first < 0x80 := by
    rw [UInt8.lt_iff_toNat_lt]
    exact Nat.not_lt.mpr (Nat.le_trans (by decide) lead.1)
  have two : (decide (0xC2 ≤ first) && decide (first ≤ 0xDF)) = true := by
    simp [UInt8.le_iff_toNat_le, lead]
  simp [utf8Step, large, two, next]

theorem utf8Step_three (lead : 224 ≤ first.toNat ∧ first.toNat ≤ 239)
    (next : secondOfThree first second = true) (last : isContinuation third = true) :
    utf8Step first (second :: third :: rest) =
      (some (Char.ofNat
        (first.toNat % 16 * 4096 + second.toNat % 64 * 64 + third.toNat % 64)), 2) := by
  have large : ¬first < 0x80 := by
    rw [UInt8.lt_iff_toNat_lt]
    exact Nat.not_lt.mpr (Nat.le_trans (by decide) lead.1)
  have notTwo : ¬first ≤ 0xDF := by
    rw [UInt8.le_iff_toNat_le]
    exact Nat.not_le.mpr (Nat.lt_of_lt_of_le (by decide) lead.1)
  have three : 0xE0 ≤ first ∧ first ≤ 0xEF := by
    simp only [UInt8.le_iff_toNat_le]
    exact lead
  simp [utf8Step, large, notTwo, three, next, last]

theorem utf8Step_four (lead : 240 ≤ first.toNat ∧ first.toNat ≤ 244)
    (next : secondOfFour first second = true) (then_ : isContinuation third = true)
    (last : isContinuation fourth = true) :
    utf8Step first (second :: third :: fourth :: rest) =
      (some (Char.ofNat
        (first.toNat % 8 * 262144 + second.toNat % 64 * 4096 + third.toNat % 64 * 64 +
          fourth.toNat % 64)), 3) := by
  have large : ¬first < 0x80 := by
    rw [UInt8.lt_iff_toNat_lt]
    exact Nat.not_lt.mpr (Nat.le_trans (by decide) lead.1)
  have notTwo : ¬first ≤ 0xDF := by
    rw [UInt8.le_iff_toNat_le]
    exact Nat.not_le.mpr (Nat.lt_of_lt_of_le (by decide) lead.1)
  have notThree : ¬first ≤ 0xEF := by
    rw [UInt8.le_iff_toNat_le]
    exact Nat.not_le.mpr (Nat.lt_of_lt_of_le (by decide) lead.1)
  have four : 0xF0 ≤ first ∧ first ≤ 0xF4 := by
    simp only [UInt8.le_iff_toNat_le]
    exact lead
  simp [utf8Step, large, notTwo, notThree, four, next, then_, last]

end Step

theorem utf8Step_encode (char : Char) (rest : Bytes) :
    ∃ first tail, String.utf8EncodeChar char = first :: tail ∧
      utf8Step first (tail ++ rest) = (some char, tail.length) := by
  have valid := char.valid
  simp only [UInt32.isValidChar, Nat.isValidChar] at valid
  have back : Char.ofNat char.val.toNat = char := Char.ofNat_toNat char
  unfold String.utf8EncodeChar
  generalize char.val.toNat = code at valid back
  simp only
  split
  · rename_i one
    refine ⟨_, [], rfl, ?_⟩
    have same : (UInt8.ofNat code).toNat = code := by
      rw [UInt8.toNat_ofNat']
      omega
    rw [List.nil_append, utf8Step_one rest (by omega), same, back]
    rfl
  · split
    · refine ⟨_, [_], rfl, ?_⟩
      rw [List.singleton_append, utf8Step_two]
      · simp only [UInt8.toNat_ofNat', List.length_singleton]
        rw [← back]
        congr 3
        omega
      · rw [UInt8.toNat_ofNat']
        omega
      · rw [isContinuation_iff, UInt8.toNat_ofNat']
        omega
    · split
      · refine ⟨_, [_, _], rfl, ?_⟩
        rw [List.cons_append, List.singleton_append, utf8Step_three]
        · simp only [UInt8.toNat_ofNat', List.length_cons, List.length_nil]
          rw [← back]
          congr 3
          omega
        · rw [UInt8.toNat_ofNat']
          omega
        · apply secondOfThree_of <;> simp only [UInt8.toNat_ofNat'] <;> omega
        · rw [isContinuation_iff, UInt8.toNat_ofNat']
          omega
      · refine ⟨_, [_, _, _], rfl, ?_⟩
        rw [List.cons_append, List.cons_append, List.singleton_append, utf8Step_four]
        · simp only [UInt8.toNat_ofNat', List.length_cons, List.length_nil]
          rw [← back]
          congr 3
          omega
        · rw [UInt8.toNat_ofNat']
          omega
        · apply secondOfFour_of <;> simp only [UInt8.toNat_ofNat'] <;> omega
        · rw [isContinuation_iff, UInt8.toNat_ofNat']
          omega
        · rw [isContinuation_iff, UInt8.toNat_ofNat']
          omega

theorem utf8Chunks_skip (skipped rest : Bytes) :
    utf8Chunks skipped.length (skipped ++ rest) = utf8Chunks 0 rest := by
  induction skipped with
  | nil => rfl
  | cons first skipped ih => exact ih

theorem utf8Chunks_encode (text : List Char) :
    utf8Chunks 0 (text.flatMap String.utf8EncodeChar) = text.map some := by
  induction text with
  | nil => rfl
  | cons char rest ih =>
      obtain ⟨first, tail, encoded, step⟩ :=
        utf8Step_encode char (rest.flatMap String.utf8EncodeChar)
      rw [List.flatMap_cons, encoded, List.cons_append, utf8Chunks]
      simp only [step]
      rw [utf8Chunks_skip, ih]
      rfl

theorem fromUtf8Lossy_asBytes (text : String) : fromUtf8Lossy (asBytes text) = text := by
  rw [fromUtf8Lossy, asBytes_eq, utf8Chunks_encode, List.map_map]
  exact (congrArg String.ofList (List.map_id text.toList)).trans String.ofList_toList

theorem fromUtf8_asBytes (text : String) : fromUtf8 (asBytes text) = some text.toList := by
  simp [fromUtf8, asBytes_eq, utf8Chunks_encode]

/-! ### Line feeds -/

theorem ofNat_newline {code : Nat} (newline : some (Char.ofNat code) = some '\n') : code = 10 := by
  have same : Char.ofNat code = '\n' := Option.some.inj newline
  by_cases valid : code.isValidChar
  · have here : Char.ofNat code = Char.ofNatAux code valid := dif_pos valid
    rw [here] at same
    exact congrArg Char.toNat same
  · have here : Char.ofNat code = _ := dif_neg valid
    rw [here] at same
    exact absurd same (by decide)

theorem utf8Step_newline {first : UInt8} {rest : Bytes}
    (newline : (utf8Step first rest).1 = some '\n') : first = 10 := by
  unfold utf8Step at newline
  simp only at newline
  split at newline
  · exact UInt8.toNat_inj.mp (ofNat_newline newline)
  · split at newline
    · rename_i two
      simp only [Bool.and_eq_true, decide_eq_true_eq, UInt8.le_iff_toNat_le] at two
      split at newline
      · have code := ofNat_newline newline
        have lead : 194 ≤ first.toNat := two.1
        have last : first.toNat ≤ 223 := two.2
        omega
      · cases newline
    · split at newline
      · rename_i three
        simp only [Bool.and_eq_true, decide_eq_true_eq, UInt8.le_iff_toNat_le] at three
        split at newline
        · cases newline
        · split at newline
          · cases newline
          · rename_i second _
            have code := ofNat_newline newline
            have lead : 224 ≤ first.toNat := three.1
            have last : first.toNat ≤ 239 := three.2
            have overlong : first.toNat = 224 → 160 ≤ (rest[0]?.getD 0).toNat ∧
                (rest[0]?.getD 0).toNat ≤ 191 := by
              intro same
              have byte : first = 0xE0 := UInt8.toNat_inj.mp same
              simpa [secondOfThree, byte, UInt8.le_iff_toNat_le] using second
            omega
      · split at newline
        · rename_i four
          simp only [Bool.and_eq_true, decide_eq_true_eq, UInt8.le_iff_toNat_le] at four
          split at newline
          · cases newline
          · split at newline
            · cases newline
            · split at newline
              · cases newline
              · rename_i second _ _
                have code := ofNat_newline newline
                have lead : 240 ≤ first.toNat := four.1
                have last : first.toNat ≤ 244 := four.2
                have overlong : first.toNat = 240 → 144 ≤ (rest[0]?.getD 0).toNat ∧
                    (rest[0]?.getD 0).toNat ≤ 191 := by
                  intro same
                  have byte : first = 0xF0 := UInt8.toNat_inj.mp same
                  simpa [secondOfFour, byte, UInt8.le_iff_toNat_le] using second
                omega
        · cases newline

theorem utf8Chunks_newline {bytes : Bytes} {skip : Nat}
    (newline : some '\n' ∈ utf8Chunks skip bytes) : 10 ∈ bytes := by
  induction bytes generalizing skip with
  | nil => cases newline
  | cons first rest ih =>
      cases skip with
      | succ skip => exact List.mem_cons_of_mem _ (ih newline)
      | zero =>
          rcases List.mem_cons.mp newline with here | later
          · rw [utf8Step_newline here.symm]
            exact List.mem_cons_self
          · exact List.mem_cons_of_mem _ (ih later)

theorem mem_encode_ascii {char : Char} {ascii : UInt8} (low : ascii.toNat < 128)
    (member : ascii ∈ String.utf8EncodeChar char) : char = Char.ofNat ascii.toNat := by
  have valid := char.valid
  simp only [UInt32.isValidChar, Nat.isValidChar] at valid
  have back : Char.ofNat char.val.toNat = char := Char.ofNat_toNat char
  unfold String.utf8EncodeChar at member
  generalize char.val.toNat = code at valid back member
  have byte {value : Nat} (same : ascii = UInt8.ofNat value) : value % 256 = ascii.toNat := by
    have values := congrArg UInt8.toNat same
    rw [UInt8.toNat_ofNat'] at values
    exact values.symm
  simp only at member
  split at member
  · have same := byte (List.mem_singleton.mp member)
    have here : code = ascii.toNat := by omega
    rw [← back, here]
  · exfalso
    split at member
    · simp only [List.mem_cons, List.not_mem_nil, or_false] at member
      rcases member with first | second
      · have same := byte first
        omega
      · have same := byte second
        omega
    · split at member
      · simp only [List.mem_cons, List.not_mem_nil, or_false] at member
        rcases member with first | second | third
        · have same := byte first
          omega
        · have same := byte second
          omega
        · have same := byte third
          omega
      · simp only [List.mem_cons, List.not_mem_nil, or_false] at member
        rcases member with first | second | third | fourth
        · have same := byte first
          omega
        · have same := byte second
          omega
        · have same := byte third
          omega
        · have same := byte fourth
          omega

theorem mem_of_mem_asBytes {text : String} {ascii : UInt8} (low : ascii.toNat < 128)
    (member : ascii ∈ asBytes text) : Char.ofNat ascii.toNat ∈ text.toList := by
  rw [asBytes_eq] at member
  obtain ⟨char, inText, inChar⟩ := List.mem_flatMap.mp member
  rw [← mem_encode_ascii low inChar]
  exact inText

theorem fromUtf8Lossy_clear {bytes : Bytes} (clear : 10 ∉ bytes) :
    10 ∉ asBytes (fromUtf8Lossy bytes) := by
  intro member
  have inText := mem_of_mem_asBytes (by decide) member
  rw [fromUtf8Lossy, String.toList_ofList] at inText
  obtain ⟨chunk, inChunks, same⟩ := List.mem_map.mp inText
  cases chunk with
  | none => exact absurd same (by decide)
  | some other =>
      have newline : other = '\n' := same
      subst newline
      exact clear (utf8Chunks_newline inChunks)

/-! ### Integers -/

theorem digitsValue_repr (value : Nat) : digitsValue value.repr.toList = some value := by
  have allDigits : (Nat.toDigits 10 value).all Char.isDigit = true :=
    List.all_eq_true.mpr (fun _ member => Nat.isDigit_of_mem_toDigits (by decide) (by decide) member)
  have read : (Nat.toDigits 10 value).foldl
      (fun value digit => value * 10 + (digit.toNat - 48)) 0 = value := by
    have same := Nat.ofDigitChars_ten_toDigits (n := value)
    rw [Nat.ofDigitChars_eq_foldl] at same
    simp only [Nat.mul_comm] at same
    exact same
  rw [Nat.toList_repr, digitsValue, allDigits, List.isEmpty_eq_false_iff.mpr Nat.toDigits_ne_nil,
    read]
  rfl

def isDecimalChar (char : Char) : Bool := char.isDigit || char == '-'

theorem isDecimalChar_range {char : Char} (decimal : isDecimalChar char = true) :
    45 ≤ char.toNat ∧ char.toNat ≤ 57 := by
  rcases Bool.or_eq_true_iff.mp decimal with digit | minus
  · have range := Char.isDigit_iff_toNat.mp digit
    exact ⟨Nat.le_trans (by decide) range.1, range.2⟩
  · rw [eq_of_beq minus]
    decide

theorem not_isWhitespace_of_decimal {char : Char} (decimal : isDecimalChar char = true) :
    isWhitespace char = false := by
  have bounds := isDecimalChar_range decimal
  unfold isWhitespace
  simp
  omega

theorem toString_decimal (value : Int) : ∀ char ∈ (toString value).toList, isDecimalChar char = true := by
  have digits (number : Nat) : ∀ char ∈ number.repr.toList, isDecimalChar char = true := by
    intro char member
    rw [Nat.toList_repr] at member
    rw [isDecimalChar, Nat.isDigit_of_mem_toDigits (by decide) (by decide) member]
    rfl
  intro char member
  rw [Int.toString_eq_repr, Int.repr_eq_if] at member
  split at member
  · exact digits _ char member
  · rw [String.toList_append] at member
    rcases List.mem_append.mp member with minus | digit
    · have same : char = '-' := List.mem_singleton.mp minus
      rw [same]
      decide
    · exact digits _ char digit

theorem trim_eq_self {text : List Char} (solid : ∀ char ∈ text, isWhitespace char = false) :
    trim text = text := by
  have kept (chars : List Char) (all : ∀ char ∈ chars, isWhitespace char = false) :
      chars.dropWhile isWhitespace = chars := by
    cases chars with
    | nil => rfl
    | cons first rest => exact List.dropWhile_cons_of_neg (by simp [all first List.mem_cons_self])
  rw [trim, kept text solid, kept text.reverse (fun char member =>
    solid char (List.mem_reverse.mp member)), List.reverse_reverse]

theorem parseI64_digits (value : Nat) :
    parseI64 value.repr.toList = (some (value : Int)).filter inI64 := by
  have read := digitsValue_repr value
  have solid : ∀ char ∈ value.repr.toList, char.isDigit = true := by
    intro char member
    rw [Nat.toList_repr] at member
    exact Nat.isDigit_of_mem_toDigits (by decide) (by decide) member
  generalize value.repr.toList = digits at read solid
  unfold parseI64
  split
  · exact absurd (solid '-' List.mem_cons_self) (by decide)
  · exact absurd (solid '+' List.mem_cons_self) (by decide)
  · rw [read]
    rfl

theorem parseI64_toString {value : Int} (fits : inI64 value = true) :
    parseI64 (toString value).toList = some value := by
  rw [Int.toString_eq_repr, Int.repr_eq_if]
  split
  · rename_i notNegative
    rw [parseI64_digits, Int.toNat_of_nonneg notNegative, Option.filter_some, if_pos fits]
  · rename_i negative
    rw [String.toList_append]
    have same : -((-value).toNat : Int) = value := by omega
    change ((digitsValue (-value).toNat.repr.toList).map
      (fun value => -(value : Int))).filter inI64 = _
    rw [digitsValue_repr]
    change (some (-((-value).toNat : Int))).filter inI64 = _
    rw [same, Option.filter_some, if_pos fits]

/-- Reading a printed 64-bit integer back, with the spaces around it that the
code allows. -/
theorem parse_i64Bytes {value : Int} (fits : inI64 value = true) :
    (fromUtf8 (i64Bytes value)).bind (fun text => parseI64 (trim text)) = some value := by
  have solid : ∀ char ∈ (toString value).toList, isWhitespace char = false :=
    fun char member => not_isWhitespace_of_decimal (toString_decimal value char member)
  rw [i64Bytes, fromUtf8_asBytes, Option.bind_some, trim_eq_self solid, parseI64_toString fits]

theorem i64Bytes_range (value : Int) :
    ∀ byte ∈ i64Bytes value, 45 ≤ byte.toNat ∧ byte.toNat ≤ 57 := by
  intro byte member
  rw [i64Bytes, asBytes_eq] at member
  obtain ⟨char, inText, inChar⟩ := List.mem_flatMap.mp member
  have range := isDecimalChar_range (toString_decimal value char inText)
  have small : char.val.toNat ≤ 127 := Nat.le_trans range.2 (by decide)
  rw [String.utf8EncodeChar, if_pos small, List.mem_singleton] at inChar
  rw [inChar, UInt8.toNat_ofNat']
  change 45 ≤ char.toNat % 256 ∧ char.toNat % 256 ≤ 57
  omega

end TrainsValkey
