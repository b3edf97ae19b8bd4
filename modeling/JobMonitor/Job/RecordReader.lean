import JobMonitor.Job.Submission
import JobMonitor.Json.Typed

set_option autoImplicit false

/-! # Reading submission records

A record is read in one of two ways. The monitor reads the whole text into a value first and then
takes the fields from it, so that of a repeated key the last one counts and misfits are found in
the order of the keys. The other way reads the fields straight from the text, where a repeated
key is an error and misfits are found in the order in which they stand there. -/

namespace JobMonitor

/-! ## Fields of a value -/

/-- A signed 64-bit integer. -/
def Json.toInt64 : Json → Except Json.ReadError Int64
  | .number n => n.int64
  | v => .error (.wrongType v.found "i64")

/-- A list of signed 64-bit integers. -/
def Json.toInt64s : Json → Except Json.ReadError (List Int64)
  | .array items => items.mapM Json.toInt64
  | v => .error (.wrongType v.found "a sequence")

/-- A boolean. -/
def Json.toBool : Json → Except Json.ReadError Bool
  | .bool b => .ok b
  | v => .error (.wrongType v.found "a boolean")

/-- A field that may be absent, or `null` for the same. -/
def Json.optionalField {α : Type} (convert : Json → Except Json.ReadError α) :
    Option Json → Except Json.ReadError (Option α)
  | none => .ok none
  | some .null => .ok none
  | some v => (convert v).map some

/-- The record that the members of an object make. The fields are taken in the byte order of
    their names, and other members are ignored. -/
def SubmissionRecord.ofMembers (members : List (String × Json)) :
    Except Json.ReadError SubmissionRecord :=
  match Json.optionalField (fun v => .ok (CreationTime.ofJson v))
      (Json.member? createdAtKey members) with
  | .error e => .error e
  | .ok createdAt =>
    match Json.optionalField Json.toInt64 (Json.member? jobIdKey members) with
    | .error e => .error e
    | .ok jobId =>
      match Json.optionalField Json.toInt64s (Json.member? pidsKey members) with
      | .error e => .error e
      | .ok pids =>
        match (Json.member? updateKey members).map Json.toBool with
        | some (.error e) => .error e
        | some (.ok isUpdate) => .ok ⟨jobId, pids, createdAt, isUpdate⟩
        | none => .ok ⟨jobId, pids, createdAt, false⟩

/-! ## Decoding a message -/

/-- Why a message is no submission. -/
inductive DecodeError where
  /-- Not JSON, or a field of the wrong type. -/
  | unreadable (e : Json.ReadError)
  /-- JSON, but not an object. -/
  | notAnObject (found : Json.Found)
  /-- A field is left out. The job is named if it is known. -/
  | missing (field : String) (jobId : Option JobId)
deriving DecidableEq

/-- The wording of a kind of value. -/
def Json.Found.kind : Json.Found → String
  | .null => "null"
  | .bool _ => "a boolean"
  | .number _ => "a number"
  | .text _ => "a string"
  | .list => "an array"
  | .object => "an object"

/-- The wording of an error. -/
def DecodeError.message : DecodeError → String
  | .unreadable e => "malformed job descriptor: " ++ e.message
  | .notAnObject found => "malformed job descriptor: expected a JSON object, got " ++ found.kind
  | .missing field _ => "job descriptor is missing " ++ field

/-- The job that an undecodable message was about, if it is known. -/
def DecodeError.jobId? : DecodeError → Option JobId
  | .missing _ jobId => jobId
  | _ => none

/-- The submission that a record makes, if it is complete. -/
def SubmissionRecord.toSubmission (r : SubmissionRecord) : Except DecodeError Submission :=
  match r.jobId with
  | none => .error (.missing jobIdKey none)
  | some jobId =>
    match r.pids with
    | none => .error (.missing pidsKey (some jobId))
    | some pids =>
      match r.createdAt with
      | none => .error (.missing createdAtKey (some jobId))
      | some createdAt => .ok ⟨jobId, pids, createdAt, r.isUpdate⟩

/-- The submission in a message. Only its form is checked: an empty list of processes or an
    invalid time is no concern of the decoder. -/
def Submission.decode (payload : Bytes) : Except DecodeError Submission :=
  match Json.read payload with
  | .error e => .error (.unreadable (.text e))
  | .ok (.object members) =>
    match SubmissionRecord.ofMembers members with
    | .error e => .error (.unreadable e)
    | .ok r => r.toSubmission
  | .ok v => .error (.notAnObject v.found)

/-! ## Reading straight from the text -/

/-- The fields met so far. The outer option tells whether the key has been there. -/
structure RecordFields where
  jobId : Option (Option JobId) := none
  pids : Option (Option (List Int64)) := none
  createdAt : Option (Option CreationTime) := none
  isUpdate : Option Bool := none

/-- The record that the fields make. -/
def RecordFields.toRecord (f : RecordFields) : SubmissionRecord :=
  ⟨f.jobId.join, f.pids.join, f.createdAt.join, f.isUpdate.getD false⟩

/-- A creation time inside a record. -/
def CreationTime.read (s : Bytes) : Json.Reading CreationTime :=
  (Json.readAny (Json.maxDepth - 1) s).map fun (v, s) => (CreationTime.ofJson v, s)

/-- A member of a record. -/
def RecordFields.readMember (f : RecordFields) (s : Bytes) : Json.Reading RecordFields :=
  match Json.readString s with
  | .error e => .error (.text e)
  | .ok (key, s) =>
    if key = SubmissionRecord.jobIdKey then
      Json.readOnce f.jobId.isSome key (Json.readOptional Json.readInt64)
        (fun a => { f with jobId := some a }) s
    else if key = SubmissionRecord.pidsKey then
      Json.readOnce f.pids.isSome key (Json.readOptional (Json.readListOf Json.readInt64))
        (fun a => { f with pids := some a }) s
    else if key = SubmissionRecord.createdAtKey then
      Json.readOnce f.createdAt.isSome key (Json.readOptional CreationTime.read)
        (fun a => { f with createdAt := some a }) s
    else if key = SubmissionRecord.updateKey then
      Json.readOnce f.isUpdate.isSome key Json.readBool
        (fun a => { f with isUpdate := some a }) s
    else (Json.skipMemberValue s).map (f, ·)

/-- The wording of what a list of fields should have been. -/
def SubmissionRecord.wantedList : String := "struct WireJobDescriptor with 4 elements"

/-- The fields as a list, of which the last may be left out. -/
def SubmissionRecord.readListed (s : Bytes) : Json.Reading SubmissionRecord :=
  match Json.readField 0 wantedList (Json.readOptional Json.readInt64) s with
  | .error e => .error e
  | .ok (jobId, s) =>
    match Json.readField 1 wantedList (Json.readOptional (Json.readListOf Json.readInt64)) s with
    | .error e => .error e
    | .ok (pids, s) =>
      match Json.readField 2 wantedList (Json.readOptional CreationTime.read) s with
      | .error e => .error e
      | .ok (createdAt, s) =>
        (Json.readField? false Json.readBool s).map fun (isUpdate, s) =>
          (⟨jobId, pids, createdAt, isUpdate.getD false⟩, s)

/-- A record anywhere in a text. -/
def SubmissionRecord.readNested (s : Bytes) : Json.Reading SubmissionRecord :=
  Json.readRecord "struct WireJobDescriptor"
    (fun s => (Json.readObject .text RecordFields.readMember {} s).map
      fun (f, s) => (f.toRecord, s))
    SubmissionRecord.readListed s

/-- The record that a whole text holds. -/
def SubmissionRecord.read (s : Bytes) : Except Json.ReadError SubmissionRecord :=
  Json.readWhole SubmissionRecord.readNested s

end JobMonitor
