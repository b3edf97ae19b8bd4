set_option autoImplicit false

/-! # Decimal digits

Naturals and integers in base ten. The digits of a number are its last digit behind the digits
of the rest, and the value of a digit string is a fold over it, so that each undoes the other. -/

namespace JobMonitor

/-! ## Writing -/

/-- The character of a digit below ten. -/
def digitChar (d : Nat) : Char := Char.ofNat (48 + d % 10)

/-- The decimal digits of a natural, without leading zeros. -/
def decimalDigits (n : Nat) : List Char :=
  if n < 10 then [digitChar n] else decimalDigits (n / 10) ++ [digitChar (n % 10)]
decreasing_by omega

/-- The decimal text of a natural. -/
def decimal (n : Nat) : String := String.ofList (decimalDigits n)

/-- The decimal digits of an integer behind its minus sign. -/
def signedDigits (n : Int) : List Char :=
  if n < 0 then '-' :: decimalDigits n.natAbs else decimalDigits n.natAbs

/-- The decimal text of an integer. -/
def signedDecimal (n : Int) : String := String.ofList (signedDigits n)

/-- The decimal digits of a natural, filled up with zeros in front to a least width. -/
def paddedDigits (width n : Nat) : List Char :=
  List.replicate (width - (decimalDigits n).length) '0' ++ decimalDigits n

/-! ## Reading -/

/-- The ASCII digits `0` to `9`, and no others. -/
def isDigitChar (c : Char) : Bool := '0' ≤ c && c ≤ '9'

/-- The value of an ASCII digit. -/
def digitValue (c : Char) : Nat := c.toNat - 48

/-- The value of a digit string, most significant digit first. -/
def decimalValue (digits : List Char) : Nat :=
  digits.foldl (fun value c => 10 * value + digitValue c) 0

/-- The value of a non-empty digit string; nothing else is a natural number. -/
def natural? (text : List Char) : Option Nat :=
  if text.isEmpty || !text.all isDigitChar then none else some (decimalValue text)

/-- An integer with an optional sign, either one. -/
def integer? (text : List Char) : Option Int :=
  match text with
  | '-' :: digits => (natural? digits).map (fun n => -(n : Int))
  | '+' :: digits => (natural? digits).map Int.ofNat
  | digits => (natural? digits).map Int.ofNat

/-- An integer with an optional sign that lies between two bounds. -/
def integerBetween? (low high : Int) (text : List Char) : Option Int :=
  (integer? text).filter (fun n => low ≤ n && n ≤ high)

end JobMonitor
