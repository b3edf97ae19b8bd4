set_option autoImplicit false

/-! # Bytes and text

What travels over a job channel is bytes. Text is written as its UTF-8 bytes and read back
strictly: bytes that are not the encoding of some text are refused as a whole. -/

namespace JobMonitor

/-- A byte string. -/
abbrev Bytes := List UInt8

/-- The UTF-8 bytes of a text. -/
def Bytes.ofText (text : String) : Bytes := text.toList.flatMap String.utf8EncodeChar

/-- The text whose UTF-8 bytes these are, if there is one. -/
def Bytes.toText? (bytes : Bytes) : Option String := String.fromUTF8? bytes.toByteArray

/-- The line feed, which ends a frame on the channel and a line in a file. -/
def newline : UInt8 := 0x0A

/-- The carriage return, which may stand before a line feed. -/
def carriageReturn : UInt8 := 0x0D

/-! ## Blank bytes -/

/-- Space, tab, line feed, form feed and carriage return. The vertical tab is not one of them. -/
def isBlankByte (b : UInt8) : Bool :=
  b == 0x20 || b == 0x09 || b == 0x0A || b == 0x0C || b == 0x0D

/-- A line is blank when it holds nothing but blank bytes, also when it is empty. -/
def Bytes.isBlank (bytes : Bytes) : Bool := bytes.all isBlankByte

/-! ## Reading back what was written -/

theorem Bytes.toByteArray_ofText (s : String) : (Bytes.ofText s).toByteArray = s.toByteArray := by
  rw [Bytes.ofText, ← List.utf8Encode.eq_1, String.utf8Encode_toList]

/-- Text survives being written and read. -/
theorem Bytes.toText?_ofText (s : String) : (Bytes.ofText s).toText? = some s := by
  rw [Bytes.toText?, Bytes.toByteArray_ofText]
  simp [String.fromUTF8?, String.fromUTF8, s.isValidUTF8]

end JobMonitor
