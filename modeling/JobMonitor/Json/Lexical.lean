import JobMonitor.Json.Value
import JobMonitor.Text.Bytes

set_option autoImplicit false

/-! # The tokens of JSON text

Readers for blanks, literals, strings and numbers. Each one takes the bytes that are left and
gives what it read with the bytes after it. Text is read from left to right and the first
damage decides the error; where text ends too early the error names what was being read.

Every token has a second reader that only skips it. A skipped string is not checked for being
text, and a skipped number not for being in range. -/

namespace JobMonitor

/-- Why JSON text cannot be read. -/
inductive Json.TextError where
  | endInList
  | endInObject
  | endInString
  | endInValue
  | expectedColon
  | expectedListCommaOrEnd
  | expectedObjectCommaOrEnd
  | expectedLiteral
  | expectedValue
  | invalidEscape
  | invalidNumber
  | numberOutOfRange
  | invalidCodePoint
  | controlCharacter
  | keyNotString
  | loneSurrogate
  | unfinishedPair
  | trailingComma
  | trailingCharacters
  | nestingTooDeep
deriving DecidableEq, Repr

/-- The wording of an error. -/
def Json.TextError.message : Json.TextError → String
  | .endInList => "EOF while parsing a list"
  | .endInObject => "EOF while parsing an object"
  | .endInString => "EOF while parsing a string"
  | .endInValue => "EOF while parsing a value"
  | .expectedColon => "expected `:`"
  | .expectedListCommaOrEnd => "expected `,` or `]`"
  | .expectedObjectCommaOrEnd => "expected `,` or `\x7d`"
  | .expectedLiteral => "expected ident"
  | .expectedValue => "expected value"
  | .invalidEscape => "invalid escape"
  | .invalidNumber => "invalid number"
  | .numberOutOfRange => "number out of range"
  | .invalidCodePoint => "invalid unicode code point"
  | .controlCharacter => "control character (\\u0000-\\u001F) found while parsing a string"
  | .keyNotString => "key must be a string"
  | .loneSurrogate => "lone leading surrogate in hex escape"
  | .unfinishedPair => "unexpected end of hex escape"
  | .trailingComma => "trailing comma"
  | .trailingCharacters => "trailing characters"
  | .nestingTooDeep => "recursion limit exceeded"

/-- What a reader gives: a result and the bytes after it, or an error. -/
abbrev Json.Scan (α : Type) := Except Json.TextError (α × Bytes)

/-! ## Bytes with a meaning -/

/-- Space, tab, line feed and carriage return may stand between tokens. -/
def Json.isBlank (b : UInt8) : Bool := b == 0x20 || b == 0x09 || b == 0x0A || b == 0x0D

/-- What is left after the blanks in front. -/
def Json.skipBlank (s : Bytes) : Bytes := s.dropWhile Json.isBlank

/-- An ASCII digit. -/
def Json.isDigit (b : UInt8) : Bool := 0x30 ≤ b && b ≤ 0x39

/-- The value of an ASCII digit. -/
def Json.digitValue (b : UInt8) : Nat := b.toNat - 0x30

/-! ## Literals -/

/-- Expects the bytes of a word. -/
def Json.expectWord : (word : Bytes) → Bytes → Except Json.TextError Bytes
  | [], s => .ok s
  | _ :: _, [] => .error .endInValue
  | c :: word, b :: s => if b = c then Json.expectWord word s else .error .expectedLiteral

/-- The literals behind their first letter. -/
def Json.expectNull (s : Bytes) : Except Json.TextError Bytes := Json.expectWord (.ofText "ull") s

@[inherit_doc Json.expectNull]
def Json.expectTrue (s : Bytes) : Except Json.TextError Bytes := Json.expectWord (.ofText "rue") s

@[inherit_doc Json.expectNull]
def Json.expectFalse (s : Bytes) : Except Json.TextError Bytes :=
  Json.expectWord (.ofText "alse") s

/-! ## Strings

A string is read behind its opening quote. Its bytes are collected, escapes replaced, and the
whole is then taken as UTF-8. -/

/-- The value of a hexadecimal digit in either case. -/
def Json.hexValue? (b : UInt8) : Option Nat :=
  if Json.isDigit b then some (b.toNat - 0x30)
  else if 0x61 ≤ b && b ≤ 0x66 then some (b.toNat - 0x57)
  else if 0x41 ≤ b && b ≤ 0x46 then some (b.toNat - 0x37)
  else none

/-- Four hexadecimal digits. Fewer than four bytes are an early end, whatever they are. -/
def Json.readHex : Bytes → Json.Scan Nat
  | a :: b :: c :: d :: s =>
    match Json.hexValue? a, Json.hexValue? b, Json.hexValue? c, Json.hexValue? d with
    | some a, some b, some c, some d => .ok (a * 4096 + b * 256 + c * 16 + d, s)
    | _, _, _, _ => .error .invalidEscape
  | _ => .error .endInString

/-- The first half of a surrogate pair. -/
def Json.isLeading (unit : Nat) : Bool := 0xD800 ≤ unit && unit ≤ 0xDBFF

/-- The second half of a surrogate pair. -/
def Json.isTrailing (unit : Nat) : Bool := 0xDC00 ≤ unit && unit ≤ 0xDFFF

/-- The code point of a surrogate pair. -/
def Json.pairValue (leading trailing : Nat) : Nat :=
  (leading - 0xD800) * 0x400 + (trailing - 0xDC00) + 0x10000

/-- The second half of a pair, escaped like the first. -/
def Json.readTrailing (leading : Nat) : Bytes → Json.Scan Nat
  | [] => .error .endInString
  | b :: s =>
    if b ≠ '\\'.toUInt8 then .error .unfinishedPair
    else match s with
      | [] => .error .endInString
      | u :: s =>
        if u ≠ 'u'.toUInt8 then .error .unfinishedPair
        else match Json.readHex s with
          | .error e => .error e
          | .ok (unit, s) =>
            if Json.isTrailing unit then .ok (Json.pairValue leading unit, s)
            else .error .loneSurrogate

/-- The code point of an escape behind `\u`. -/
def Json.readCodePoint (s : Bytes) : Json.Scan Nat :=
  match Json.readHex s with
  | .error e => .error e
  | .ok (unit, s) =>
    if Json.isTrailing unit then .error .loneSurrogate
    else if Json.isLeading unit then Json.readTrailing unit s
    else .ok (unit, s)

/-- The byte that a one-letter escape stands for. -/
def Json.shortEscape? (b : UInt8) : Option UInt8 :=
  if b = '"'.toUInt8 then some 0x22
  else if b = '\\'.toUInt8 then some 0x5C
  else if b = '/'.toUInt8 then some 0x2F
  else if b = 'b'.toUInt8 then some 0x08
  else if b = 'f'.toUInt8 then some 0x0C
  else if b = 'n'.toUInt8 then some 0x0A
  else if b = 'r'.toUInt8 then some 0x0D
  else if b = 't'.toUInt8 then some 0x09
  else none

/-- The bytes that an escape stands for, behind its backslash. -/
def Json.readEscape : Bytes → Json.Scan Bytes
  | [] => .error .endInString
  | b :: s =>
    match Json.shortEscape? b with
    | some c => .ok ([c], s)
    | none =>
      if b = 'u'.toUInt8 then
        match Json.readCodePoint s with
        | .error e => .error e
        | .ok (n, s) => .ok (String.utf8EncodeChar (Char.ofNat n), s)
      else .error .invalidEscape

/-- The bytes up to the closing quote. Each step takes at least one byte, so the number of bytes
    is enough fuel, and it runs out only where the text has ended. -/
def Json.readStringBytes : (fuel : Nat) → Bytes → Json.Scan Bytes
  | 0, _ => .error .endInString
  | _ + 1, [] => .error .endInString
  | fuel + 1, b :: s =>
    if b = '"'.toUInt8 then .ok ([], s)
    else if b = '\\'.toUInt8 then
      match Json.readEscape s with
      | .error e => .error e
      | .ok (bytes, s) =>
        (Json.readStringBytes fuel s).map fun (more, s) => (bytes ++ more, s)
    else if b < 0x20 then .error .controlCharacter
    else (Json.readStringBytes fuel s).map fun (more, s) => (b :: more, s)

/-- A string behind its opening quote. -/
def Json.readString (s : Bytes) : Json.Scan String :=
  match Json.readStringBytes s.length s with
  | .error e => .error e
  | .ok (bytes, s) =>
    match bytes.toText? with
    | some text => .ok (text, s)
    | none => .error .invalidCodePoint

/-- Skips an escape behind its backslash; any four hexadecimal digits will do. -/
def Json.skipEscape : Bytes → Except Json.TextError Bytes
  | [] => .error .endInString
  | b :: s =>
    if (Json.shortEscape? b).isSome then .ok s
    else if b = 'u'.toUInt8 then (Json.readHex s).map (·.2)
    else .error .invalidEscape

/-- Skips a string behind its opening quote, with the fuel of `readStringBytes`. -/
def Json.skipStringBytes : (fuel : Nat) → Bytes → Except Json.TextError Bytes
  | 0, _ => .error .endInString
  | _ + 1, [] => .error .endInString
  | fuel + 1, b :: s =>
    if b = '"'.toUInt8 then .ok s
    else if b = '\\'.toUInt8 then
      match Json.skipEscape s with
      | .error e => .error e
      | .ok s => Json.skipStringBytes fuel s
    else if b < 0x20 then .error .controlCharacter
    else Json.skipStringBytes fuel s

/-- Skips a string behind its opening quote. -/
def Json.skipString (s : Bytes) : Except Json.TextError Bytes := Json.skipStringBytes s.length s

/-! ## Numbers

A number is split into its parts by the grammar first. Its value is an integer where the text
has neither point nor exponent and the integer fits; everything else is a binary64 number. -/

/-- A number as written: the digits before the point, those behind it if there is a point, and
    the exponent if there is one. -/
structure Json.Numeral where
  isNegative : Bool
  whole : Bytes
  fraction : Option Bytes
  exponent : Option (Bool × Bytes)
deriving Repr

/-- Digits and what follows them. -/
def Json.spanDigits (s : Bytes) : Bytes × Bytes := (s.takeWhile Json.isDigit, s.dropWhile Json.isDigit)

/-! ### The value

The significand is gathered in 64 bits; digits that no longer fit in front of the point only
count as powers of ten, and those behind it are dropped. The result is the nearest binary64
number to the significand, multiplied or divided by the nearest one to the power of ten. These
two or more roundings are part of the format's definition here: a text of many digits may give
a neighbour of the number nearest to it. -/

/-- Puts digits behind a significand as long as it still has 64 bits, and gives the digits that are
    left. -/
def Json.gather (significand : Nat) : Bytes → Nat × Bytes
  | [] => (significand, [])
  | b :: digits =>
    if significand * 10 + Json.digitValue b < UInt64.size then
      Json.gather (significand * 10 + Json.digitValue b) digits
    else (significand, b :: digits)

/-- The nearest binary64 number to a power of ten. -/
def Json.powerOfTen (n : Nat) : Binary64 := Binary64.ofNat (Nat.pow 10 n)

/-- Divides by `10 ^ 308` so many times, or until nothing is left. -/
def Json.shrink : (times : Nat) → Binary64 → Binary64
  | 0, f => f
  | times + 1, f =>
    if f.significand = 0 then f else Json.shrink times (f.over (Json.powerOfTen 308))

/-- Scales by a power of ten. Up to `10 ^ 308` it takes one step; a smaller number is first
    divided by `10 ^ 308` until it is in reach or has become zero. -/
def Json.scale (f : Binary64) (exponent : Int) : Except Json.TextError Binary64 :=
  if exponent > 308 then
    if f.significand = 0 then .ok f else .error .numberOutOfRange
  else if exponent ≥ 0 then
    let product := f.times (Json.powerOfTen exponent.natAbs)
    if product.isInfinite then .error .numberOutOfRange else .ok product
  else
    let times := (exponent.natAbs - 1) / 308
    .ok ((Json.shrink times f).over (Json.powerOfTen (exponent.natAbs - 308 * times)))

/-- A scaled significand with its sign. -/
def Json.scaled (isNegative : Bool) (significand : Nat) (exponent : Int) :
    Except Json.TextError Binary64 :=
  (Json.scale (Binary64.ofNat significand) exponent).map fun f =>
    if isNegative then f.negate else f

/-- The value of the digits of an exponent, or `none` when it does not fit a signed 32-bit
    integer. -/
def Json.exponentValue? (digits : Bytes) : Option Nat :=
  let value := digits.foldl (fun n b => n * 10 + Json.digitValue b) 0
  if value < 2_147_483_648 then some value else none

/-- The significand of a numeral, and the power of ten that its digits without the exponent leave to be
    multiplied by. -/
def Json.Numeral.gathered (n : Json.Numeral) : Nat × Int :=
  let (significand, overflow) := Json.gather 0 n.whole
  match n.fraction with
  | none => (significand, overflow.length)
  | some digits =>
    let (next, dropped) := Json.gather significand digits
    (next, (overflow.length : Int) - (digits.length - dropped.length : Nat))

/-- The binary64 number of a numeral. -/
def Json.Numeral.float (n : Json.Numeral) : Except Json.TextError Binary64 :=
  let (significand, place) := n.gathered
  match n.exponent with
  | none => Json.scaled n.isNegative significand place
  | some (isNegativeExponent, digits) =>
    match Json.exponentValue? digits with
    | some e =>
      Json.scaled n.isNegative significand (if isNegativeExponent then place - e else place + e)
    | none =>
      if significand ≠ 0 ∧ !isNegativeExponent then .error .numberOutOfRange
      else .ok (Binary64.ofMagnitude n.isNegative 0)

/-- The integer of a numeral without point and exponent, if a JSON number can hold it. Minus
    zero is no integer. -/
def Json.Numeral.integer? (n : Json.Numeral) : Option JsonInteger :=
  let value := n.whole.foldl (fun v b => v * 10 + Json.digitValue b) 0
  let signed : Int := if n.isNegative then -(value : Int) else value
  if n.fraction.isSome ∨ n.exponent.isSome ∨ (n.isNegative ∧ value = 0) then none
  else if h : IsJsonInteger signed then some ⟨signed, h⟩
  else none

/-- The value of a numeral. -/
def Json.Numeral.value (n : Json.Numeral) : Except Json.TextError JsonNumber :=
  match n.integer? with
  | some i => .ok (.integer i)
  | none => n.float.map .float

/-! ### The text -/

/-- The digits in front of the point: a zero alone, or digits that do not start with one. -/
def Json.readWholeDigits : Bytes → Json.Scan Bytes
  | [] => .error .endInValue
  | b :: s =>
    if b = '0'.toUInt8 then
      match s with
      | [] => .ok ([b], [])
      | d :: rest => if Json.isDigit d then .error .invalidNumber else .ok ([b], d :: rest)
    else if Json.isDigit b then
      let (digits, rest) := Json.spanDigits s
      .ok (b :: digits, rest)
    else .error .invalidNumber

/-- The point and the digits behind it, at least one. -/
def Json.readFraction : Bytes → Json.Scan (Option Bytes)
  | [] => .ok (none, [])
  | b :: s =>
    if b = '.'.toUInt8 then
      match Json.spanDigits s with
      | ([], []) => .error .endInValue
      | ([], _ :: _) => .error .invalidNumber
      | (d :: digits, rest) => .ok (some (d :: digits), rest)
    else .ok (none, b :: s)

/-- The sign of an exponent, `true` for minus. -/
def Json.readExponentSign : Bytes → Bool × Bytes
  | [] => (false, [])
  | b :: s =>
    if b = '+'.toUInt8 then (false, s)
    else if b = '-'.toUInt8 then (true, s)
    else (false, b :: s)

/-- The exponent, at least one digit behind its sign. -/
def Json.readExponent : Bytes → Json.Scan (Option (Bool × Bytes))
  | [] => .ok (none, [])
  | b :: s =>
    if b = 'e'.toUInt8 || b = 'E'.toUInt8 then
      let (isNegative, s) := Json.readExponentSign s
      match Json.spanDigits s with
      | ([], []) => .error .endInValue
      | ([], _ :: _) => .error .invalidNumber
      | (d :: digits, rest) => .ok (some (isNegative, d :: digits), rest)
    else .ok (none, b :: s)

/-- A numeral behind its minus sign, if it has one. -/
def Json.readNumeral (isNegative : Bool) (s : Bytes) :
    Except Json.TextError (Json.Numeral × Bytes) := do
  let (whole, s) ← Json.readWholeDigits s
  let (fraction, s) ← Json.readFraction s
  let (exponent, s) ← Json.readExponent s
  return (⟨isNegative, whole, fraction, exponent⟩, s)

/-- A number behind its minus sign, if it has one. -/
def Json.readNumber (isNegative : Bool) (s : Bytes) :
    Except Json.TextError (JsonNumber × Bytes) := do
  let (numeral, s) ← Json.readNumeral isNegative s
  return (← numeral.value, s)

/-- Skips a number behind its minus sign. An early end counts as a damaged number. -/
def Json.skipNumber (s : Bytes) : Except Json.TextError Bytes :=
  match Json.readNumeral false s with
  | .ok (_, s) => .ok s
  | .error .endInValue => .error .invalidNumber
  | .error e => .error e

end JobMonitor
