import JobMonitor.Number.Binary64
import JobMonitor.Number.Decimal

set_option autoImplicit false

/-! # Number texts

What people write for a number: digits with a point somewhere among them and an exponent, or a
word for what is not finite. The number is the nearest one to what is written. -/

namespace JobMonitor

/-! ## Whole numbers -/

/-- The least and the greatest integer of 64 bits. -/
def leastInt64 : Int := Int64.minValue.toInt

@[inherit_doc leastInt64]
def greatestInt64 : Int := Int64.maxValue.toInt

/-- An integer of 64 bits. -/
def int64Of? (text : List Char) : Option Int := integerBetween? leastInt64 greatestInt64 text

/-- The value of a digit in bases up to sixteen, letters of either case. -/
def baseDigit? (base : Nat) (c : Char) : Option Nat :=
  let value :=
    if isDigitChar c then digitValue c
    else if 'a' ≤ c ∧ c ≤ 'f' then c.toNat - 87
    else if 'A' ≤ c ∧ c ≤ 'F' then c.toNat - 55
    else base
  if value < base then some value else none

/-- The value of a non-empty digit string in a base. -/
def naturalInBase? (base : Nat) (text : List Char) : Option Nat :=
  if text.isEmpty then none
  else text.foldlM (fun value c => (baseDigit? base c).map (base * value + ·)) 0

/-- An integer of 64 bits in a base, with an optional sign. -/
def int64InBase? (base : Nat) (text : List Char) : Option Int :=
  let value := match text with
    | '-' :: digits => (naturalInBase? base digits).map fun n => -(n : Int)
    | '+' :: digits => (naturalInBase? base digits).map Int.ofNat
    | digits => (naturalInBase? base digits).map Int.ofNat
  value.filter fun n => leastInt64 ≤ n && n ≤ greatestInt64

/-! ## Numbers with a point -/

/-- A text with the ASCII letters made small. -/
def smallLetters (text : List Char) : List Char := text.map Char.toLower

/-- Splits off an optional sign. Gives whether it is a minus sign. -/
def splitSign : List Char → Bool × List Char
  | '-' :: rest => (true, rest)
  | '+' :: rest => (false, rest)
  | rest => (false, rest)

/-- The exponent behind the digits, 0 if there is none. -/
def exponentOf? : List Char → Option Int
  | [] => some 0
  | c :: rest => if c = 'e' ∨ c = 'E' then integer? rest else none

/-- A number with optional sign, point and exponent. There has to be a digit on one side of the
    point. -/
def decimalText? (isNegative : Bool) (text : List Char) : Option Binary64 := do
  let whole := text.takeWhile isDigitChar
  let rest := text.dropWhile isDigitChar
  let (fraction, rest) := match rest with
    | '.' :: rest => (rest.takeWhile isDigitChar, rest.dropWhile isDigitChar)
    | rest => ([], rest)
  let exponent ← exponentOf? rest
  let digits := whole ++ fraction
  if digits.isEmpty then none
  else some (.ofDecimal isNegative (decimalValue digits) (exponent - fraction.length))

/-- The number that a text spells. Words for infinity and NaN may have letters of either case. -/
def binary64Of? (text : List Char) : Option Binary64 :=
  let (isNegative, rest) := splitSign text
  let word := smallLetters rest
  if word = "inf".toList ∨ word = "infinity".toList then some (.infinity isNegative)
  else if word = "nan".toList then some .nan
  else decimalText? isNegative rest

end JobMonitor
