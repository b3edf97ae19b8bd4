import JobMonitor.Number.Binary64
import JobMonitor.Number.Decimal

set_option autoImplicit false

/-! # Shortest decimal text of a binary64 number

The digits are the fewest that read back as the same number, and among those the nearest to it.
Which of them stand before the point, and when an exponent is written, is the business of a
`FloatNotation`. -/

namespace JobMonitor

/-! ## The digits -/

/-- A positive number written as `digits * 10 ^ exponent`. -/
structure ShortDecimal where
  digits : Nat
  exponent : Int
deriving DecidableEq, Inhabited, Repr

/-- Drops the zeros at the end. The fuel is any bound on their number. -/
def ShortDecimal.trimmed : Nat → ShortDecimal → ShortDecimal
  | 0, d => d
  | fuel + 1, d =>
    if d.digits % 10 = 0 then ShortDecimal.trimmed fuel ⟨d.digits / 10, d.exponent + 1⟩ else d

/-- The ends of the interval of reals that round to a positive finite number, in units of a
    quarter of its last place. Below a power of two the next number is only half as far away. -/
def Binary64.quarterInterval (x : Binary64) : Nat × Nat :=
  let m := x.significand
  (if m = Nat.pow 2 52 ∧ x.scale > 0 then 4 * m - 1 else 4 * m - 2, 4 * m + 2)

/-- The power of ten above `num / den`: the least `k` with `num / den < 10 ^ k`. -/
def decimalPlace (num den : Nat) : Int :=
  if den ≤ num then (decimalDigits (num / den)).length
  else 1 - ((decimalDigits ((den + num - 1) / num - 1)).length : Int)

/-- The grid point `digits * 10 ^ exponent` lies in the interval of `x`; the ends belong to it
    when the significand is even. -/
def Binary64.readsBack (x : Binary64) (digits : Nat) (exponent : Int) : Bool :=
  let (low, high) := x.quarterInterval
  let up : Nat := if exponent ≥ 0 then digits * Nat.pow 10 exponent.toNat else digits
  let down : Nat := if exponent ≥ 0 then 1 else Nat.pow 10 (-exponent).toNat
  let (unit, den) :=
    if x.scale ≥ 1076 then (Nat.pow 2 (x.scale - 1076), 1) else (1, Nat.pow 2 (1076 - x.scale))
  let point := up * den
  if x.significand % 2 = 0 then low * unit * down ≤ point && point ≤ high * unit * down
  else low * unit * down < point && point < high * unit * down

/-- The two neighbours of `x` on the grid of `10 ^ exponent`, the nearer one first and from a
    tie the even one. -/
def Binary64.gridNeighbours (x : Binary64) (exponent : Int) : List Nat :=
  let (num, den) := x.ratio
  let num := if exponent ≥ 0 then num else num * Nat.pow 10 (-exponent).toNat
  let den := if exponent ≥ 0 then den * Nat.pow 10 exponent.toNat else den
  let low := num / den
  if roundHalfEven num den = low then [low, low + 1] else [low + 1, low]

/-- The shortest digits of a positive finite number. Seventeen always suffice. -/
def Binary64.shortest (x : Binary64) : ShortDecimal :=
  let place := decimalPlace x.ratio.1 x.ratio.2
  let found := (List.range 17).findSome? fun n =>
    let exponent := place - (n + 1 : Nat)
    ((x.gridNeighbours exponent).find? (x.readsBack · exponent)).map (ShortDecimal.mk · exponent)
  match found with
  | some d => d.trimmed 18
  | none => ⟨0, 0⟩

/-! ## Notation -/

/-- How a number is spelled once its digits are known. -/
structure FloatNotation where
  /-- Scientific exponents written positionally: from the first, below the second. -/
  positional : Option (Int × Int)
  /-- A whole number keeps `.0`. -/
  keepsPoint : Bool
  /-- A positive exponent has its sign. -/
  signsExponent : Bool
  infinity : String
  nan : String

/-- Positional text: the digits with the point put in, zeros filled in on either side. -/
def ShortDecimal.positional (keepsPoint : Bool) (d : ShortDecimal) : List Char :=
  let digits := decimalDigits d.digits
  let whole := (digits.length : Int) + d.exponent
  if d.exponent ≥ 0 then
    digits ++ List.replicate d.exponent.toNat '0' ++ (if keepsPoint then ['.', '0'] else [])
  else if whole > 0 then
    digits.take whole.toNat ++ '.' :: digits.drop whole.toNat
  else
    '0' :: '.' :: List.replicate (-whole).toNat '0' ++ digits

/-- Exponent text: one digit, the point and the others if there are any, the exponent. -/
def ShortDecimal.scientific (signsExponent : Bool) (d : ShortDecimal) : List Char :=
  let digits := decimalDigits d.digits
  let exponent := (digits.length : Int) + d.exponent - 1
  let fraction := if digits.length > 1 then '.' :: digits.drop 1 else []
  let sign := if signsExponent ∧ exponent ≥ 0 then ['+'] else []
  digits.take 1 ++ fraction ++ 'e' :: sign ++ signedDigits exponent

/-- The text of a number in a notation. -/
def FloatNotation.write (f : FloatNotation) (x : Binary64) : String :=
  let sign := if x.isNegative then "-" else ""
  if x.isNaN then f.nan
  else if x.isInfinite then sign ++ f.infinity
  else if x.significand = 0 then sign ++ (if f.keepsPoint then "0.0" else "0")
  else
    let d := x.shortest
    let exponent := ((decimalDigits d.digits).length : Int) + d.exponent - 1
    let isPositional := match f.positional with
      | none => true
      | some (low, high) => decide (low ≤ exponent) && decide (exponent < high)
    sign ++ String.ofList
      (if isPositional then d.positional f.keepsPoint else d.scientific f.signsExponent)

end JobMonitor
