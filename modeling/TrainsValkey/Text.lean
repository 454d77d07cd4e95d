import Mathlib.Data.List.Basic

/-
Byte strings, and the parts of the standard library that read text out of
them: lossy and strict UTF-8 decoding, trimming, and 64-bit decimal integers.

A Rust `String` is a Lean `String` and a borrowed `str` that is only read is
the list of its characters.  An `i64` is an `Int` with the range written out
where the code can leave it.
-/

set_option autoImplicit false

namespace TrainsValkey

abbrev Bytes := List UInt8

/-- `str::as_bytes`; `b"..."` in the source is `asBytes "..."` here. -/
def asBytes (text : String) : Bytes := text.toUTF8.data.toList

/-! ### UTF-8 -/

def isContinuation (byte : UInt8) : Bool := 0x80 ≤ byte && byte ≤ 0xBF

def secondOfThree (first second : UInt8) : Bool :=
  if first = 0xE0 then 0xA0 ≤ second && second ≤ 0xBF
  else if first = 0xED then 0x80 ≤ second && second ≤ 0x9F
  else isContinuation second

def secondOfFour (first second : UInt8) : Bool :=
  if first = 0xF0 then 0x90 ≤ second && second ≤ 0xBF
  else if first = 0xF4 then 0x80 ≤ second && second ≤ 0x8F
  else isContinuation second

/-- One step of the standard decoder: the character that starts here, or
`none` for a maximal ill-formed part, and how many bytes after the first the
step consumes. -/
def utf8Step (first : UInt8) (rest : Bytes) : Option Char × Nat :=
  let safeGet (position : Nat) : UInt8 := rest[position]?.getD 0
  let low (byte : UInt8) : Nat := byte.toNat % 64
  if first < 0x80 then (some (Char.ofNat first.toNat), 0)
  else if 0xC2 ≤ first && first ≤ 0xDF then
    if isContinuation (safeGet 0) then
      (some (Char.ofNat (first.toNat % 32 * 64 + low (safeGet 0))), 1)
    else (none, 0)
  else if 0xE0 ≤ first && first ≤ 0xEF then
    if !secondOfThree first (safeGet 0) then (none, 0)
    else if !isContinuation (safeGet 1) then (none, 1)
    else
      (some (Char.ofNat
        (first.toNat % 16 * 4096 + low (safeGet 0) * 64 + low (safeGet 1))), 2)
  else if 0xF0 ≤ first && first ≤ 0xF4 then
    if !secondOfFour first (safeGet 0) then (none, 0)
    else if !isContinuation (safeGet 1) then (none, 1)
    else if !isContinuation (safeGet 2) then (none, 2)
    else
      (some (Char.ofNat
        (first.toNat % 8 * 262144 + low (safeGet 0) * 4096 + low (safeGet 1) * 64 +
          low (safeGet 2))), 3)
  else (none, 0)

/-- The decoded characters and the ill-formed parts, in order; `skip` bytes at
the front belong to the step before. -/
def utf8Chunks (skip : Nat) : Bytes → List (Option Char)
  | [] => []
  | first :: rest =>
      match skip with
      | skip + 1 => utf8Chunks skip rest
      | 0 =>
          let step := utf8Step first rest
          step.1 :: utf8Chunks step.2 rest

/-- `String::from_utf8_lossy`: each ill-formed part becomes one U+FFFD. -/
def fromUtf8Lossy (bytes : Bytes) : String :=
  String.ofList ((utf8Chunks 0 bytes).map (fun chunk => chunk.getD '\uFFFD'))

/-- `std::str::from_utf8`. -/
def fromUtf8 (bytes : Bytes) : Option (List Char) :=
  let chunks := utf8Chunks 0 bytes
  if chunks.all Option.isSome then some (chunks.filterMap id) else none

def toAsciiUppercase (text : String) : String :=
  String.ofList (text.toList.map (fun char =>
    if 'a' ≤ char ∧ char ≤ 'z' then Char.ofNat (char.toNat - 32) else char))

/-- `char::is_whitespace`: the Unicode `White_Space` characters. -/
def isWhitespace (char : Char) : Bool :=
  let code := char.toNat
  (9 ≤ code && code ≤ 13) || code == 0x20 || code == 0x85 || code == 0xA0 ||
    code == 0x1680 || (0x2000 ≤ code && code ≤ 0x200A) || code == 0x2028 ||
    code == 0x2029 || code == 0x202F || code == 0x205F || code == 0x3000

def trim (text : List Char) : List Char :=
  ((text.dropWhile isWhitespace).reverse.dropWhile isWhitespace).reverse

/-! ### Signed 64-bit integers -/

def i64Min : Int := -9223372036854775808

def i64Max : Int := 9223372036854775807

def inI64 (value : Int) : Bool := i64Min ≤ value && value ≤ i64Max

def checkedAdd (left right : Int) : Option Int :=
  if inI64 (left + right) then some (left + right) else none

/-- Unary minus on `i64` as the release profile compiles it: the one operand
whose negation does not fit wraps to itself.  A build with overflow checks
panics there instead. -/
def wrappingNeg (value : Int) : Int := if value = i64Min then i64Min else -value

def digitsValue (digits : List Char) : Option Nat :=
  if digits.isEmpty || !digits.all Char.isDigit then none
  else some (digits.foldl (fun value digit => value * 10 + (digit.toNat - 48)) 0)

/-- `str::parse::<i64>`: an optional sign and at least one decimal digit. -/
def parseI64 (text : List Char) : Option Int :=
  let value : Option Int :=
    match text with
    | '-' :: digits => (digitsValue digits).map (fun value => -(value : Int))
    | '+' :: digits => (digitsValue digits).map Int.ofNat
    | digits => (digitsValue digits).map Int.ofNat
  value.filter inI64

/-- `i64::to_string().into_bytes()`. -/
def i64Bytes (value : Int) : Bytes := asBytes (toString value)

end TrainsValkey
