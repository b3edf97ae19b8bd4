set_option autoImplicit false

/-! # Binary64 numbers

A number of the IEEE 754 format binary64, kept as its 64 bits so that two of them are equal
exactly when they are the same number, signed zeros told apart. Arithmetic is done on exact
ratios of naturals and rounded once, to the nearest number and from a tie to the even one. -/

namespace JobMonitor

/-- A binary64 number: sign, eleven exponent bits, fifty-two fraction bits. -/
structure Binary64 where
  bits : UInt64
deriving DecidableEq, Inhabited, Repr

/-! ## Taking a number apart -/

/-- The bits without the sign. -/
def Binary64.magnitudeBits (x : Binary64) : Nat := x.bits.toNat % Nat.pow 2 63

/-- The sign bit, which zero and NaN have too. -/
def Binary64.isNegative (x : Binary64) : Bool := x.bits.toNat ≥ Nat.pow 2 63

/-- All exponent bits set and no fraction. -/
def Binary64.isInfinite (x : Binary64) : Bool := x.magnitudeBits == 2047 * Nat.pow 2 52

/-- All exponent bits set and some fraction. -/
def Binary64.isNaN (x : Binary64) : Bool := x.magnitudeBits > 2047 * Nat.pow 2 52

/-- The integer significand of a finite number. -/
def Binary64.significand (x : Binary64) : Nat :=
  if x.magnitudeBits < Nat.pow 2 52 then x.magnitudeBits
  else x.magnitudeBits % Nat.pow 2 52 + Nat.pow 2 52

/-- How far the power of two that scales the significand lies above the least one, `-1074`. -/
def Binary64.scale (x : Binary64) : Nat := x.magnitudeBits / Nat.pow 2 52 - 1

/-- The absolute value of a finite number as a ratio of naturals. -/
def Binary64.ratio (x : Binary64) : Nat × Nat :=
  if x.scale ≥ 1074 then (x.significand * Nat.pow 2 (x.scale - 1074), 1)
  else (x.significand, Nat.pow 2 (1074 - x.scale))

/-! ## Rounding to the nearest number -/

/-- The integer nearest to `num / den`, from a tie the even one. -/
def roundHalfEven (num den : Nat) : Nat :=
  let low := num / den
  let twice := 2 * (num % den)
  if twice < den then low
  else if den < twice then low + 1
  else low + low % 2

/-- Sets the sign bit. -/
def Binary64.ofMagnitude (negative : Bool) (magnitude : Nat) : Binary64 :=
  ⟨UInt64.ofNat (magnitude + if negative then Nat.pow 2 63 else 0)⟩

/-- The infinity of one sign. -/
def Binary64.infinity (negative : Bool) : Binary64 := .ofMagnitude negative (2047 * Nat.pow 2 52)

/-- A quiet NaN. -/
def Binary64.nan : Binary64 := .ofMagnitude false (2047 * Nat.pow 2 52 + Nat.pow 2 51)

/-- The place of the leading bit of `num / den`, or one above it. -/
def Binary64.leadingBit (num den : Nat) : Int := (Nat.log2 num : Int) - Nat.log2 den

/-- `num / den` divided by `2 ^ place`, rounded to an integer. -/
def Binary64.roundAtPlace (num den : Nat) (place : Int) : Nat :=
  if place ≥ 0 then roundHalfEven num (den * Nat.pow 2 place.toNat)
  else roundHalfEven (num * Nat.pow 2 (-place).toNat) den

/-- The number nearest to `num / den`. The last place is chosen so that fifty-three bits stand
    above it, but never below the last place of the smallest numbers; a significand that rounds
    up to `2 ^ 53` carries into the exponent bits by plain addition. -/
def Binary64.ofRatio (negative : Bool) (num den : Nat) : Binary64 :=
  if num = 0 then .ofMagnitude negative 0
  else
    let lead := Binary64.leadingBit num den
    let aligned :=
      if lead ≥ 0 then decide (den * Nat.pow 2 lead.toNat ≤ num)
      else decide (den ≤ num * Nat.pow 2 (-lead).toNat)
    let place := max ((if aligned then lead else lead - 1) - 52) (-1074)
    let significand := Binary64.roundAtPlace num den place
    let exponent := (place + 1074).toNat
    let magnitude := significand + exponent * Nat.pow 2 52
    if magnitude ≥ 2047 * Nat.pow 2 52 then .infinity negative else .ofMagnitude negative magnitude

/-- The number nearest to a natural. -/
def Binary64.ofNat (n : Nat) : Binary64 := .ofRatio false n 1

/-- The number nearest to `digits * 10 ^ exponent`. Exponents that cannot matter are not
    computed with. -/
def Binary64.ofDecimal (negative : Bool) (digits : Nat) (exponent : Int) : Binary64 :=
  let size : Int := Nat.log2 digits / 4
  if digits = 0 then .ofMagnitude negative 0
  else if exponent > 400 then .infinity negative
  else if exponent + (size + 1) * 2 < -400 then .ofMagnitude negative 0
  else if exponent ≥ 0 then .ofRatio negative (digits * Nat.pow 10 exponent.toNat) 1
  else .ofRatio negative digits (Nat.pow 10 (-exponent).toNat)

/-! ## Arithmetic on non-negative finite numbers -/

/-- The rounded product. -/
def Binary64.times (x y : Binary64) : Binary64 :=
  .ofRatio false (x.ratio.1 * y.ratio.1) (x.ratio.2 * y.ratio.2)

/-- The rounded quotient by a number that is not zero. -/
def Binary64.over (x y : Binary64) : Binary64 :=
  .ofRatio false (x.ratio.1 * y.ratio.2) (x.ratio.2 * y.ratio.1)

/-- The same number with the other sign. -/
def Binary64.negate (x : Binary64) : Binary64 := .ofMagnitude (!x.isNegative) x.magnitudeBits

/-- The integer nearest to the absolute value of a finite number, from a tie the larger one. -/
def Binary64.roundHalfUp (x : Binary64) : Nat :=
  (2 * x.ratio.1 + x.ratio.2) / (2 * x.ratio.2)

end JobMonitor
