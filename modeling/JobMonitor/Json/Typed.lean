import JobMonitor.Json.Reader
import JobMonitor.Json.Printer
import JobMonitor.Text.Quoted
import JobMonitor.Time.Fields

set_option autoImplicit false

/-! # Reading typed data from JSON

A typed value is read straight from the text, field by field in the order in which they stand
there, so that the first misfit in the text is the one reported. A misfit names what was found
and what was wanted. The same misfits are reported for data taken from a value that has been read
as a whole before. -/

namespace JobMonitor

/-- What was found where something else was wanted. -/
inductive Json.Found where
  | null
  | bool (b : Bool)
  | number (n : JsonNumber)
  | text (t : String)
  | list
  | object
deriving DecidableEq

/-- The wording of a find. -/
def Json.Found.describe : Json.Found → String
  | .null => "null"
  | .bool b => "boolean `" ++ toString b ++ "`"
  | .number (.integer n) => "integer `" ++ signedDecimal n.val ++ "`"
  | .number (.float x) => "floating point `" ++ Json.floatNotation.write x ++ "`"
  | .text t => "string " ++ quoteText t
  | .list => "sequence"
  | .object => "map"

/-- What a value is found to be. -/
def Json.found : Json → Json.Found
  | .null => .null
  | .bool b => .bool b
  | .number n => .number n
  | .string t => .text t
  | .array _ => .list
  | .object _ => .object

/-- Why typed data cannot be read. -/
inductive Json.ReadError where
  | text (e : Json.TextError)
  | wrongType (found : Json.Found) (wanted : String)
  | outOfRange (n : Int) (wanted : String)
  | missingField (name : String)
  | duplicateField (name : String)
  | unknownVariant (name : String) (known : List String)
  | wrongLength (length : Nat) (wanted : String)
  | time (e : TimeError)
deriving DecidableEq

/-- A choice of names in a message. -/
def alternatives : List String → String
  | [] => "there are no variants"
  | [a] => "`" ++ a ++ "`"
  | [a, b] => "`" ++ a ++ "` or `" ++ b ++ "`"
  | names => "one of " ++ ", ".intercalate (names.map fun n => "`" ++ n ++ "`")

/-- The wording of an error. -/
def Json.ReadError.message : Json.ReadError → String
  | .text e => e.message
  | .wrongType found wanted => "invalid type: " ++ found.describe ++ ", expected " ++ wanted
  | .outOfRange n wanted =>
    "invalid value: integer `" ++ signedDecimal n ++ "`, expected " ++ wanted
  | .missingField name => "missing field `" ++ name ++ "`"
  | .duplicateField name => "duplicate field `" ++ name ++ "`"
  | .unknownVariant name known =>
    "unknown variant `" ++ name ++ "`, expected " ++ alternatives known
  | .wrongLength length wanted =>
    "invalid length " ++ decimal length ++ ", expected " ++ wanted
  | .time e => e.message

/-- What a typed reader gives. -/
abbrev Json.Reading (α : Type) := Except Json.ReadError (α × Bytes)

/-! ## Misfits -/

/-- The misfit at a value that starts with `b`, with `s` behind it. Of a scalar all is read, so
    damage in it is reported first; of a list or object only the bracket. -/
def Json.misfitAt (wanted : String) (b : UInt8) (s : Bytes) : Json.ReadError :=
  let report {α : Type} (found : α → Json.Found) (scan : Except Json.TextError α) :=
    match scan with
    | .ok a => Json.ReadError.wrongType (found a) wanted
    | .error e => .text e
  match Json.lead b with
  | .letterN => report (fun _ => .null) (Json.expectNull s)
  | .letterT => report (fun _ => .bool true) (Json.expectTrue s)
  | .letterF => report (fun _ => .bool false) (Json.expectFalse s)
  | .minus => report (fun r => .number r.1) (Json.readNumber true s)
  | .digit => report (fun r => .number r.1) (Json.readNumber false (b :: s))
  | .quote => report (fun r => .text r.1) (Json.readString s)
  | .bracket => .wrongType .list wanted
  | .brace => .wrongType .object wanted
  | .other => .text .expectedValue

/-! ## Integers -/

/-- The integer of a number, between two bounds. -/
def JsonNumber.integerIn (low high : Int) (wanted : String) :
    JsonNumber → Except Json.ReadError Int
  | .integer n =>
    if low ≤ n.val ∧ n.val ≤ high then .ok n.val else .error (.outOfRange n.val wanted)
  | .float x => .error (.wrongType (.number (.float x)) wanted)

/-- A signed 64-bit integer. -/
def JsonNumber.int64 (n : JsonNumber) : Except Json.ReadError Int64 :=
  (n.integerIn Int64.minValue.toInt Int64.maxValue.toInt "i64").map Int64.ofInt

/-- A signed 32-bit integer. -/
def JsonNumber.int32 (n : JsonNumber) : Except Json.ReadError Int32 :=
  (n.integerIn Int32.minValue.toInt Int32.maxValue.toInt "i32").map Int32.ofInt

/-- A number that is then converted. -/
def Json.readNumeric {α : Type} (wanted : String)
    (convert : JsonNumber → Except Json.ReadError α) (s : Bytes) : Json.Reading α :=
  match Json.skipBlank s with
  | [] => .error (.text .endInValue)
  | b :: s =>
    let scan :=
      match Json.lead b with
      | .minus => some (Json.readNumber true s)
      | .digit => some (Json.readNumber false (b :: s))
      | _ => none
    match scan with
    | none => .error (Json.misfitAt wanted b s)
    | some (.error e) => .error (.text e)
    | some (.ok (n, s)) => (convert n).map (·, s)

/-- A signed 64-bit integer. -/
def Json.readInt64 (s : Bytes) : Json.Reading Int64 := Json.readNumeric "i64" JsonNumber.int64 s

/-- A signed 32-bit integer. -/
def Json.readInt32 (s : Bytes) : Json.Reading Int32 := Json.readNumeric "i32" JsonNumber.int32 s

/-! ## Other types -/

/-- A boolean. -/
def Json.readBool (s : Bytes) : Json.Reading Bool :=
  match Json.skipBlank s with
  | [] => .error (.text .endInValue)
  | b :: s =>
    match Json.lead b with
    | .letterT => ((Json.expectTrue s).map (true, ·)).mapError .text
    | .letterF => ((Json.expectFalse s).map (false, ·)).mapError .text
    | _ => .error (Json.misfitAt "a boolean" b s)

/-- A text. -/
def Json.readText (wanted : String) (s : Bytes) : Json.Reading String :=
  match Json.skipBlank s with
  | [] => .error (.text .endInValue)
  | b :: s =>
    match Json.lead b with
    | .quote => (Json.readString s).mapError .text
    | _ => .error (Json.misfitAt wanted b s)

/-- Something or `null`. -/
def Json.readOptional {α : Type} (read : Bytes → Json.Reading α) (s : Bytes) :
    Json.Reading (Option α) :=
  match Json.skipBlank s with
  | b :: t =>
    if Json.lead b = .letterN then ((Json.expectNull t).map (none, ·)).mapError .text
    else (read (b :: t)).map fun (a, s) => (some a, s)
  | [] => (read []).map fun (a, s) => (some a, s)

/-- A list. -/
def Json.readListOf {α : Type} (read : Bytes → Json.Reading α) (s : Bytes) :
    Json.Reading (List α) :=
  match Json.skipBlank s with
  | [] => .error (.text .endInValue)
  | b :: s =>
    match Json.lead b with
    | .bracket => Json.readList .text read s
    | _ => .error (Json.misfitAt "a sequence" b s)

/-- Any value. -/
def Json.readAny (depth : Nat) (s : Bytes) : Json.Reading Json :=
  (Json.readValue depth s).mapError .text

/-- The value of a member behind its key. -/
def Json.readMemberValue {α : Type} (read : Bytes → Json.Reading α) (s : Bytes) :
    Json.Reading α :=
  match Json.expectColon s with
  | .error e => .error (.text e)
  | .ok s => read s

/-- Skips the value of a member behind its key. -/
def Json.skipMemberValue (s : Bytes) : Except Json.ReadError Bytes :=
  ((Json.expectColon s).bind Json.skipValue).mapError .text

/-- A field that must not have been there before, behind its key. -/
def Json.readOnce {α σ : Type} (seen : Bool) (key : String) (read : Bytes → Json.Reading α)
    (put : α → σ) (s : Bytes) : Json.Reading σ :=
  if seen then .error (.duplicateField key)
  else (Json.readMemberValue read s).map fun (a, s) => (put a, s)

/-- The next item of a list of fields, or `none` if the list ends here. -/
def Json.readField? {α : Type} (isFirst : Bool) (read : Bytes → Json.Reading α) (s : Bytes) :
    Json.Reading (Option α) :=
  match Json.nextItem? isFirst s with
  | .error e => .error (.text e)
  | .ok none => .ok (none, s)
  | .ok (some s) => (read s).map fun (a, s) => (some a, s)

/-- The next item of a list of fields, which `length` items stand in front of. -/
def Json.readField {α : Type} (length : Nat) (wanted : String) (read : Bytes → Json.Reading α)
    (s : Bytes) : Json.Reading α :=
  match Json.readField? (length == 0) read s with
  | .error e => .error e
  | .ok (none, _) => .error (.wrongLength length wanted)
  | .ok (some a, s) => .ok (a, s)

/-- A record: an object of its fields, or a list of them in order. -/
def Json.readRecord {α : Type} (wanted : String) (object list : Bytes → Json.Reading α)
    (s : Bytes) : Json.Reading α :=
  match Json.skipBlank s with
  | [] => .error (.text .endInValue)
  | b :: s =>
    match Json.lead b with
    | .brace => object s
    | .bracket =>
      match list s with
      | .error e => .error e
      | .ok (a, s) => ((Json.endList s).map (a, ·)).mapError .text
    | _ => .error (Json.misfitAt wanted b s)

/-- The data that a whole text holds. -/
def Json.readWhole {α : Type} (read : Bytes → Json.Reading α) (s : Bytes) :
    Except Json.ReadError α :=
  match read s with
  | .error e => .error e
  | .ok (a, s) => ((Json.expectEnd s).map fun _ => a).mapError .text

end JobMonitor
