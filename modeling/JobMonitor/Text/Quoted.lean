import JobMonitor.Text.Printable
import JobMonitor.Number.Decimal

set_option autoImplicit false

/-! # Quoted text in messages

A text that a message quotes stands between double quotes. Quotes, backslashes and the usual
control characters are escaped by a letter, other characters that cannot be shown by their code
point in hexadecimal between braces. -/

namespace JobMonitor

/-- The hexadecimal digits of a natural, in lower case and without leading zeros. -/
def hexDigits (n : Nat) : List Char := Nat.toDigits 16 n

/-- What stands for a character between quotes. -/
def quoteChar (c : Char) : List Char :=
  if c = '\x00' then ['\\', '0']
  else if c = '\t' then ['\\', 't']
  else if c = '\n' then ['\\', 'n']
  else if c = '\r' then ['\\', 'r']
  else if c = '"' then ['\\', '"']
  else if c = '\\' then ['\\', '\\']
  else if isPrintable c then [c]
  else '\\' :: 'u' :: '{' :: hexDigits c.toNat ++ ['}']

/-- A text between double quotes. -/
def quoteText (text : String) : String :=
  String.ofList ('"' :: text.toList.flatMap quoteChar ++ ['"'])

end JobMonitor
