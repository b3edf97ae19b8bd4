import JobMonitor.Json.Value
import JobMonitor.Number.Shortest
import JobMonitor.Text.Bytes

set_option autoImplicit false

/-! # JSON text

The compact text has no blanks between tokens and escapes nothing but quotes, backslashes and
control characters, so it never contains a byte below `0x20`. The indented text is the same with
line breaks and two blanks a level. -/

namespace JobMonitor

/-! ## Numbers and strings -/

/-- Numbers are positional from `1e-5` up to below `1e16`, whole ones keep `.0`, and exponents
    have their sign. -/
def Json.floatNotation : FloatNotation where
  positional := some (-5, 16)
  keepsPoint := true
  signsExponent := true
  infinity := "null"
  nan := "null"

/-- The text of a number. -/
def JsonNumber.chars : JsonNumber → List Char
  | .integer n => signedDigits n.val
  | .float x => (Json.floatNotation.write x).toList

/-- A hexadecimal digit, in lower case. -/
def hexChar (d : Nat) : Char := if d < 10 then Char.ofNat (48 + d) else Char.ofNat (87 + d)

/-- What stands for a character inside a quoted string. -/
def Json.escape (c : Char) : List Char :=
  if c = '"' then ['\\', '"']
  else if c = '\\' then ['\\', '\\']
  else if c = '\x08' then ['\\', 'b']
  else if c = '\x0C' then ['\\', 'f']
  else if c = '\n' then ['\\', 'n']
  else if c = '\r' then ['\\', 'r']
  else if c = '\t' then ['\\', 't']
  else if c.toNat < 0x20 then ['\\', 'u', '0', '0', hexChar (c.toNat / 16), hexChar (c.toNat % 16)]
  else [c]

/-- A quoted string. -/
def Json.quoted (text : String) : List Char := '"' :: text.toList.flatMap Json.escape ++ ['"']

/-! ## Compact text -/

mutual

/-- The compact text of a value. -/
def Json.chars : Json → List Char
  | .null => ['n', 'u', 'l', 'l']
  | .bool true => ['t', 'r', 'u', 'e']
  | .bool false => ['f', 'a', 'l', 's', 'e']
  | .number n => n.chars
  | .string text => Json.quoted text
  | .array items => '[' :: Json.itemChars items ++ [']']
  | .object members => '{' :: Json.memberChars members ++ ['}']

/-- Items with commas between them. -/
def Json.itemChars : List Json → List Char
  | [] => []
  | [v] => v.chars
  | v :: w :: rest => v.chars ++ ',' :: Json.itemChars (w :: rest)

/-- Members with commas between them. -/
def Json.memberChars : List (String × Json) → List Char
  | [] => []
  | [(k, v)] => Json.quoted k ++ ':' :: v.chars
  | (k, v) :: m :: rest => Json.quoted k ++ ':' :: (v.chars ++ ',' :: Json.memberChars (m :: rest))

end

/-- The compact text of a value. -/
def Json.render (v : Json) : String := String.ofList v.chars

/-- The bytes of the compact text. -/
def Json.bytes (v : Json) : Bytes := v.chars.flatMap String.utf8EncodeChar

/-! ## Indented text -/

/-- A line break and the blanks before the next line. -/
def Json.lineBreak (level : Nat) : List Char := '\n' :: List.replicate (2 * level) ' '

mutual

/-- The indented text of a value that starts at a level. -/
def Json.indentedChars (level : Nat) : Json → List Char
  | .array [] => ['[', ']']
  | .array (v :: rest) =>
    '[' :: Json.indentedItems (level + 1) (v :: rest) ++ Json.lineBreak level ++ [']']
  | .object [] => ['{', '}']
  | .object (m :: rest) =>
    '{' :: Json.indentedMembers (level + 1) (m :: rest) ++ Json.lineBreak level ++ ['}']
  | v => v.chars

/-- Items on lines of their own. -/
def Json.indentedItems (level : Nat) : List Json → List Char
  | [] => []
  | [v] => Json.lineBreak level ++ Json.indentedChars level v
  | v :: w :: rest =>
    Json.lineBreak level ++ Json.indentedChars level v ++ ',' :: Json.indentedItems level (w :: rest)

/-- Members on lines of their own. -/
def Json.indentedMembers (level : Nat) : List (String × Json) → List Char
  | [] => []
  | [(k, v)] => Json.lineBreak level ++ Json.quoted k ++ ':' :: ' ' :: Json.indentedChars level v
  | (k, v) :: m :: rest =>
    Json.lineBreak level ++ Json.quoted k ++ ':' :: ' ' :: Json.indentedChars level v
      ++ ',' :: Json.indentedMembers level (m :: rest)

end

/-- The indented text of a value. -/
def Json.renderIndented (v : Json) : String := String.ofList (v.indentedChars 0)

end JobMonitor
