set_option autoImplicit false

/-! # Blank characters

The characters with the Unicode property White_Space, and trimming by them. -/

namespace JobMonitor

/-- A character with the property White_Space. -/
def isBlankChar (c : Char) : Bool :=
  let n := c.toNat
  (0x09 ≤ n && n ≤ 0x0D) || n == 0x20 || n == 0x85 || n == 0xA0 || n == 0x1680 ||
    (0x2000 ≤ n && n ≤ 0x200A) || n == 0x2028 || n == 0x2029 || n == 0x202F || n == 0x205F ||
    n == 0x3000

/-- Drops the blanks in front. -/
def trimFront (text : List Char) : List Char := text.dropWhile isBlankChar

/-- Drops the blanks at both ends. -/
def trim (text : List Char) : List Char :=
  (trimFront (trimFront text).reverse).reverse

end JobMonitor
