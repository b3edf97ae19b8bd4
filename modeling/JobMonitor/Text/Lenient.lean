import JobMonitor.Text.Bytes

set_option autoImplicit false

/-! # Reading damaged text

Where bytes are not the encoding of a text, a replacement character stands for as many of them as
could have been the start of a character. -/

namespace JobMonitor

/-- What stands for bytes that are not text. -/
def replacementChar : Char := Char.ofNat 0xFFFD

/-- What may follow the first byte of a character that has several: the range of the second byte and
    how many bytes there are behind the first. Overlong forms, surrogates and what lies above the
    last character are kept out by the range. -/
def followers? (b : UInt8) : Option (UInt8 × UInt8 × Nat) :=
  if 0xC2 ≤ b ∧ b ≤ 0xDF then some (0x80, 0xBF, 1)
  else if b = 0xE0 then some (0xA0, 0xBF, 2)
  else if b = 0xED then some (0x80, 0x9F, 2)
  else if 0xE1 ≤ b ∧ b ≤ 0xEF then some (0x80, 0xBF, 2)
  else if b = 0xF0 then some (0x90, 0xBF, 3)
  else if 0xF1 ≤ b ∧ b ≤ 0xF3 then some (0x80, 0xBF, 3)
  else if b = 0xF4 then some (0x80, 0x8F, 3)
  else none

/-- The bytes that follow the first one as they should, at most so many. -/
def acceptFollowers (low high : UInt8) : (count : Nat) → Bytes → Bytes
  | count + 1, b :: rest =>
    if low ≤ b ∧ b ≤ high then b :: acceptFollowers 0x80 0xBF count rest else []
  | _, _ => []

/-- The character that a first byte and those behind it encode. -/
def decodeFollowed (b : UInt8) (following : Bytes) : Char :=
  let lead := b.toNat % Nat.pow 2 (6 - following.length)
  Char.ofNat (following.foldl (fun value f => 64 * value + f.toNat % 64) lead)

/-- The first character of bytes that begin with this one, and how many bytes it takes away behind
    the first. -/
def lenientChar (b : UInt8) (rest : Bytes) : Char × Nat :=
  if b < 0x80 then (Char.ofNat b.toNat, 0)
  else match followers? b with
    | none => (replacementChar, 0)
    | some (low, high, count) =>
      let following := acceptFollowers low high count rest
      (if following.length = count then decodeFollowed b following else replacementChar,
        following.length)

/-- The characters of bytes that may be damaged. -/
def Bytes.lenientChars : Bytes → List Char
  | [] => []
  | b :: rest => (lenientChar b rest).1 :: Bytes.lenientChars (rest.drop (lenientChar b rest).2)
termination_by bytes => bytes.length
decreasing_by
  simp only [List.length_drop, List.length_cons]
  omega

end JobMonitor
