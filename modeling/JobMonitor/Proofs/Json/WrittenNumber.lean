import JobMonitor.Proofs.Json.Sequences
import JobMonitor.Proofs.Number.Rounding

set_option autoImplicit false

/-! # Numbers as they are written

How a number may be written, and which number it is, said without a reader. A number that is written with
neither point nor exponent is an integer, if it has 64 bits. Any other is made of its first digits, as many
as fit into 64 bits, and of a power of ten: the digits that are left in front of the point, those that are
kept behind it and the exponent give the power. Both are rounded to binary64 numbers, and the one is
multiplied or divided by the other. A number is too large if that comes out as infinite, or if the power is
out of reach (`Json.WrittenNumber.IsTooLarge`). -/

namespace JobMonitor

/-! ## How numbers are written -/

def Json.digitByte (d : Fin 10) : UInt8 := UInt8.ofNat (0x30 + d)

/-- One digit or more. -/
structure Json.WrittenDigits where
  first : Fin 10
  rest : List (Fin 10) := []
deriving DecidableEq

def Json.WrittenDigits.digits (d : Json.WrittenDigits) : List (Fin 10) := d.first :: d.rest

def Json.WrittenDigits.bytes (d : Json.WrittenDigits) : Bytes := d.digits.map Json.digitByte

/-- The digits in front of the point: a zero alone, or digits of which the first is not zero. -/
inductive Json.WholeDigits where
  | zero
  | positive (predFirst : Fin 9) (rest : List (Fin 10))
deriving DecidableEq

def Json.WholeDigits.digits : Json.WholeDigits → List (Fin 10)
  | .zero => [0]
  | .positive predFirst rest => predFirst.succ :: rest

def Json.WholeDigits.bytes (w : Json.WholeDigits) : Bytes := w.digits.map Json.digitByte

/-- An exponent, with the sign that is written if there is one, `true` for minus. -/
structure Json.WrittenExponent where
  isUpper : Bool := false
  sign : Option Bool := none
  digits : Json.WrittenDigits
deriving DecidableEq

def Json.WrittenExponent.bytes (e : Json.WrittenExponent) : Bytes :=
  (if e.isUpper then 'E'.toUInt8 else 'e'.toUInt8)
    :: ((e.sign.map fun isNegative => if isNegative then '-'.toUInt8 else '+'.toUInt8).toList
      ++ e.digits.bytes)

structure Json.WrittenNumber where
  isNegative : Bool := false
  whole : Json.WholeDigits
  fraction : Option Json.WrittenDigits := none
  exponent : Option Json.WrittenExponent := none

/-- The bytes of a number behind its minus sign, if it has one. -/
def Json.WrittenNumber.unsignedBytes (n : Json.WrittenNumber) : Bytes :=
  n.whole.bytes ++ ((n.fraction.map fun d => '.'.toUInt8 :: d.bytes).getD []
    ++ (n.exponent.map Json.WrittenExponent.bytes).getD [])

def Json.WrittenNumber.bytes (n : Json.WrittenNumber) : Bytes :=
  (if n.isNegative then ['-'.toUInt8] else []) ++ n.unsignedBytes

/-! ## Integers -/

/-- The natural that digits make behind those of another one. -/
def Json.valueBehind (start : Nat) (digits : List (Fin 10)) : Nat :=
  digits.foldl (fun value (d : Fin 10) => value * 10 + d.val) start

namespace Json.WrittenNumber

/-- The number is written with neither point nor exponent, and it is not minus zero. -/
structure IsInteger (n : Json.WrittenNumber) : Prop where
  fraction : n.fraction = none
  exponent : n.exponent = none
  notMinusZero : n.isNegative = true → n.whole ≠ .zero

instance (n : Json.WrittenNumber) : Decidable n.IsInteger :=
  decidable_of_iff
    (n.fraction = none ∧ n.exponent = none ∧ (n.isNegative = true → n.whole ≠ .zero))
    ⟨fun ⟨hfraction, hexponent, hzero⟩ => ⟨hfraction, hexponent, hzero⟩,
      fun h => ⟨h.fraction, h.exponent, h.notMinusZero⟩⟩

/-- The integer in front of the point. -/
def integer (n : Json.WrittenNumber) : Int :=
  if n.isNegative then -(Json.valueBehind 0 n.whole.digits : Int)
  else Json.valueBehind 0 n.whole.digits

/-! ## Other numbers -/

/-- How many of the digits are kept behind a significand: as many as leave it in 64 bits. -/
def keptBehind (start : Nat) (digits : List (Fin 10)) : Nat :=
  Nat.findGreatest (fun kept => Json.valueBehind start (digits.take kept) < 2 ^ 64) digits.length

/-- How many digits are kept in front of the point. -/
def wholeKept (n : Json.WrittenNumber) : Nat := keptBehind 0 n.whole.digits

/-- What the digits make that are kept in front of the point. -/
def wholeSignificand (n : Json.WrittenNumber) : Nat :=
  Json.valueBehind 0 (n.whole.digits.take n.wholeKept)

def fractionDigits (n : Json.WrittenNumber) : List (Fin 10) :=
  (n.fraction.map Json.WrittenDigits.digits).getD []

/-- How many digits are kept behind the point. -/
def fractionKept (n : Json.WrittenNumber) : Nat := keptBehind n.wholeSignificand n.fractionDigits

/-- What the digits make that are kept. -/
def significand (n : Json.WrittenNumber) : Nat :=
  Json.valueBehind n.wholeSignificand (n.fractionDigits.take n.fractionKept)

/-- The exponent is a negative one. -/
def shrinks (n : Json.WrittenNumber) : Bool := (n.exponent.bind Json.WrittenExponent.sign).getD false

/-- The exponent without its sign. -/
def exponentSize (n : Json.WrittenNumber) : Nat :=
  (n.exponent.map fun e => Json.valueBehind 0 e.digits.digits).getD 0

/-- The power of ten that goes with the significand. Each digit in front of the point that is not kept
    counts, and each digit behind the point that is kept counts against it. -/
def power (n : Json.WrittenNumber) : Int :=
  (n.whole.digits.length - n.wholeKept : Nat) - (n.fractionKept : Int)
    + (if n.shrinks then -(n.exponentSize : Int) else n.exponentSize)

/-- An exponent that does not fit into 32 bits is not added up. -/
def HasHugeExponent (n : Json.WrittenNumber) : Prop := 2 ^ 31 ≤ n.exponentSize

instance (n : Json.WrittenNumber) : Decidable n.HasHugeExponent :=
  inferInstanceAs (Decidable (_ ≤ _))

/-- The power of ten is greater than `10 ^ 308`, or the significand and the power, both rounded to
    fifty-three bits, have a product that is rounded to infinity. An exponent that is not added up is too
    great, unless it is a negative one. -/
def Overflows (n : Json.WrittenNumber) : Prop :=
  if n.HasHugeExponent then n.shrinks = false
  else 308 < n.power ∨ 0 ≤ n.power ∧ Binary64.overflowBound
    ≤ Binary64.roundTo53Bits n.significand * Binary64.roundTo53Bits (10 ^ n.power.toNat)

instance (n : Json.WrittenNumber) : Decidable n.Overflows :=
  inferInstanceAs (Decidable (if n.HasHugeExponent then n.shrinks = false else _ ∨ _))

/-- The number is no integer of 64 bits, its significand is not zero, and it is too large. -/
structure IsTooLarge (n : Json.WrittenNumber) : Prop where
  notInteger : ¬ (n.IsInteger ∧ IsJsonInteger n.integer)
  notZero : n.significand ≠ 0
  overflows : n.Overflows

instance (n : Json.WrittenNumber) : Decidable n.IsTooLarge :=
  decidable_of_iff
    (¬ (n.IsInteger ∧ IsJsonInteger n.integer) ∧ n.significand ≠ 0 ∧ n.Overflows)
    ⟨fun ⟨hinteger, hzero, hover⟩ => ⟨hinteger, hzero, hover⟩,
      fun h => ⟨h.notInteger, h.notZero, h.overflows⟩⟩

/-- A number divided by a power of ten, by no more than `10 ^ 308` at once. -/
def quotient (x : Binary64) (power : Nat) : Binary64 :=
  let times := (power - 1) / 308
  ((fun x => x.over (Json.powerOfTen 308))^[times] x).over (Json.powerOfTen (power - 308 * times))

/-- The number without its sign, if it is not too large. An exponent that is not added up leaves zero. -/
def magnitude (n : Json.WrittenNumber) : Binary64 :=
  if n.significand = 0 ∨ n.HasHugeExponent then .ofMagnitude false 0
  else if 0 ≤ n.power then (Binary64.ofNat n.significand).times (Json.powerOfTen n.power.toNat)
  else quotient (.ofNat n.significand) n.power.natAbs

/-- The value of a number, unless it is too large. -/
def value? (n : Json.WrittenNumber) : Option JsonNumber :=
  if h : n.IsInteger ∧ IsJsonInteger n.integer then some (.integer ⟨n.integer, h.2⟩)
  else if n.IsTooLarge then none
  else some (.float (if n.isNegative then n.magnitude.negate else n.magnitude))

/-- A number has a value unless it is too large. -/
theorem value?_eq_none_iff (n : Json.WrittenNumber) : n.value? = none ↔ n.IsTooLarge := by
  rw [value?]
  by_cases hinteger : n.IsInteger ∧ IsJsonInteger n.integer
  · rw [dif_pos hinteger]
    exact iff_of_false (Option.some_ne_none _) fun h => h.notInteger hinteger
  · rw [dif_neg hinteger]
    by_cases hlarge : n.IsTooLarge
    · rw [if_pos hlarge]
      exact iff_of_true rfl hlarge
    · rw [if_neg hlarge]
      exact iff_of_false (Option.some_ne_none _) hlarge

/-- A number that is less than the greatest binary64 number may be too large, since its first digits and its
    power of ten are rounded each by itself. -/
example : Json.WrittenNumber.IsTooLarge
    { whole := .positive 0 []
      fraction := some ⟨7, [9, 7, 6, 9, 3, 1, 3, 4, 8, 6, 2, 3, 1, 5, 7, 0, 7]⟩
      exponent := some { digits := ⟨3, [0, 8]⟩ } } := by
  decide +kernel

/-- **A number has an integer for its value exactly if it is written as one that has 64 bits.** -/
theorem value?_eq_integer_iff (n : Json.WrittenNumber) (i : JsonInteger) :
    n.value? = some (.integer i) ↔ n.IsInteger ∧ n.integer = i.val := by
  rw [value?]
  by_cases hinteger : n.IsInteger ∧ IsJsonInteger n.integer
  · rw [dif_pos hinteger]
    constructor
    · intro h
      exact ⟨hinteger.1, congrArg Subtype.val (JsonNumber.integer.inj (Option.some.inj h))⟩
    · rintro ⟨-, hi⟩
      exact congrArg (some ∘ JsonNumber.integer) (Subtype.ext hi)
  · rw [dif_neg hinteger]
    refine iff_of_false ?_ fun h => hinteger ⟨h.1, h.2 ▸ i.property⟩
    split
    · exact (Option.some_ne_none _).symm
    · exact fun h => JsonNumber.noConfusion (Option.some.inj h)

end Json.WrittenNumber

end JobMonitor
