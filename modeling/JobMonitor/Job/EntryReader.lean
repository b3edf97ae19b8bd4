import JobMonitor.Job.Admission
import JobMonitor.Json.Typed

set_option autoImplicit false

/-! # Reading entries, changes and policies

The readers for the texts in which entries, changes and policies are kept. An entry may also be
the list of its fields in order, and a change the list of its kind and its entry. The two members
of a change come in either order: an entry that stands before its kind is only checked to be JSON
when it is met, and read once the kind is known. -/

namespace JobMonitor

/-! ## Entries -/

/-- An instant in an entry. -/
def Instant.read (s : Bytes) : Json.Reading Instant :=
  match Json.readText "an RFC 3339 formatted date and time string" s with
  | .error e => .error e
  | .ok (text, s) => ((readEntryTime text).map (·, s)).mapError .time

/-- The fields of an entry met so far. -/
structure EntryFields where
  jobId : Option JobId := none
  pids : Option (List Pid) := none
  createdAt : Option Instant := none
  ingestedAt : Option Instant := none

/-- The value of a field that has been met. -/
def Json.required {α : Type} (name : String) : Option α → Except Json.ReadError α
  | some a => .ok a
  | none => .error (.missingField name)

/-- The entry that the fields make. -/
def EntryFields.toEntry (f : EntryFields) : Except Json.ReadError Entry := do
  let jobId ← Json.required "job_id" f.jobId
  let pids ← Json.required "pids" f.pids
  let createdAt ← Json.required "created_at" f.createdAt
  let ingestedAt ← Json.required "ingested_at" f.ingestedAt
  return ⟨jobId, pids, createdAt, ingestedAt⟩

/-- A member of an entry. -/
def EntryFields.readMember (f : EntryFields) (s : Bytes) : Json.Reading EntryFields :=
  match Json.readString s with
  | .error e => .error (.text e)
  | .ok (key, s) =>
    if key = "job_id" then
      Json.readOnce f.jobId.isSome key Json.readInt64 (fun a => { f with jobId := some a }) s
    else if key = "pids" then
      Json.readOnce f.pids.isSome key (Json.readListOf Json.readInt32)
        (fun a => { f with pids := some a }) s
    else if key = "created_at" then
      Json.readOnce f.createdAt.isSome key Instant.read
        (fun a => { f with createdAt := some a }) s
    else if key = "ingested_at" then
      Json.readOnce f.ingestedAt.isSome key Instant.read
        (fun a => { f with ingestedAt := some a }) s
    else (Json.skipMemberValue s).map (f, ·)

/-- An entry as an object. -/
def Entry.readObject (s : Bytes) : Json.Reading Entry :=
  match Json.readObject .text EntryFields.readMember {} s with
  | .error e => .error e
  | .ok (f, s) => f.toEntry.map (·, s)

/-- The wording of what a list of fields should have been. -/
def Entry.wantedList : String := "struct RegistryEntry with 4 elements"

/-- The fields of an entry as a list. -/
def Entry.readListed (s : Bytes) : Except Json.ReadError (Entry × Bytes) := do
  let (jobId, s) ← Json.readField 0 wantedList Json.readInt64 s
  let (pids, s) ← Json.readField 1 wantedList (Json.readListOf Json.readInt32) s
  let (createdAt, s) ← Json.readField 2 wantedList Instant.read s
  let (ingestedAt, s) ← Json.readField 3 wantedList Instant.read s
  return (⟨jobId, pids, createdAt, ingestedAt⟩, s)

/-- An entry anywhere in a text. -/
def Entry.readNested (s : Bytes) : Json.Reading Entry :=
  Json.readRecord "struct RegistryEntry" Entry.readObject Entry.readListed s

/-- The entry that a whole text holds. -/
def Entry.read (s : Bytes) : Except Json.ReadError Entry := Json.readWhole Entry.readNested s

/-- Nothing may follow the fields in a list that is known to be JSON. -/
def Entry.refuseMore (s : Bytes) : Except Json.ReadError Unit :=
  let skip (s : Bytes) : Json.Reading Unit := (Json.skipValue s).mapError .text |>.map ((), ·)
  match Json.readItems .text skip s.length false s with
  | .error e => .error e
  | .ok ([], _) => .ok ()
  | .ok (more, _) => .error (.wrongLength (4 + more.length) "4 elements in sequence")

/-- An entry that was put aside: its text is JSON, and a list that is too long is known to be. -/
def Entry.readKept (s : Bytes) : Except Json.ReadError Entry :=
  let listed (s : Bytes) : Except Json.ReadError Entry := do
    let (entry, s) ← Entry.readListed s
    Entry.refuseMore s
    return entry
  match Json.skipBlank s with
  | b :: t =>
    if Json.lead b = .bracket then listed t else (Entry.readNested s).map (·.1)
  | [] => (Entry.readNested s).map (·.1)

/-! ## Variants -/

/-- The unit value. -/
def Json.readUnit (s : Bytes) : Json.Reading Unit :=
  match Json.skipBlank s with
  | [] => .error (.text .endInValue)
  | b :: s =>
    match Json.lead b with
    | .letterN => ((Json.expectNull s).map ((), ·)).mapError .text
    | _ => .error (Json.misfitAt "unit" b s)

/-- The variant of a name. -/
def Json.variant {α : Type} (known : List (String × α)) (name : String) :
    Except Json.ReadError α :=
  match known.lookup name with
  | some a => .ok a
  | none => .error (.unknownVariant name (known.map (·.1)))

/-- Expects the closing brace behind a variant. -/
def Json.endVariant (s : Bytes) : Except Json.TextError Bytes :=
  match Json.skipBlank s with
  | [] => .error .endInObject
  | b :: s => if b = '}'.toUInt8 then .ok s else .error .expectedValue

/-- A variant: its name, or an object with the unit value under its name. -/
def Json.readVariant {α : Type} (known : List (String × α)) (s : Bytes) :
    Except Json.ReadError (α × Bytes) :=
  match Json.skipBlank s with
  | [] => .error (.text .endInValue)
  | b :: s =>
    match Json.lead b with
    | .quote => do
      let (name, s) ← (Json.readString s).mapError .text
      return (← Json.variant known name, s)
    | .brace => do
      let (name, s) ← Json.readText "variant identifier" s
      let a ← Json.variant known name
      let (_, s) ← Json.readMemberValue Json.readUnit s
      return (a, ← (Json.endVariant s).mapError .text)
    | _ => .error (.text .expectedValue)

/-- The policies with their names. -/
def DuplicatePolicy.known : List (String × DuplicatePolicy) :=
  [DuplicatePolicy.reject, .overwrite].map fun p => (p.name, p)

/-- The policy that a whole text holds. -/
def DuplicatePolicy.read (s : Bytes) : Except Json.ReadError DuplicatePolicy :=
  Json.readWhole (Json.readVariant DuplicatePolicy.known) s

/-! ## Changes -/

/-- The kinds of change with their names. -/
def ChangeKind.known : List (String × ChangeKind) := ChangeKind.all.map fun k => (k.name, k)

/-- A kind of change. -/
def ChangeKind.readNested (s : Bytes) : Json.Reading ChangeKind :=
  Json.readVariant ChangeKind.known s

/-- The members of a change met so far. -/
inductive ChangeFields where
  | nothing
  /-- The kind came first. -/
  | kind (k : ChangeKind)
  /-- The entry came first; its text starts here. -/
  | kept (text : Bytes)
  | both (c : Change)

/-- A member of a change. -/
def ChangeFields.readMember (f : ChangeFields) (s : Bytes) :
    Except Json.ReadError (ChangeFields × Bytes) := do
  let (key, s) ← (Json.readString s).mapError .text
  if key = "event" then
    match f with
    | .nothing =>
      let (k, s) ← Json.readMemberValue ChangeKind.readNested s
      return (.kind k, s)
    | .kept text =>
      let (k, s) ← Json.readMemberValue ChangeKind.readNested s
      return (.both ⟨k, ← Entry.readKept text⟩, s)
    | _ => throw (.duplicateField key)
  else if key = "job" then
    match f with
    | .nothing =>
      let text ← (Json.expectColon s).mapError .text
      let (_, s) ← Json.readAny (Json.maxDepth - 1) text
      return (.kept text, s)
    | .kind k =>
      let (e, s) ← Json.readMemberValue Entry.readNested s
      return (.both ⟨k, e⟩, s)
    | _ => throw (.duplicateField key)
  else return (f, ← Json.skipMemberValue s)

/-- The change that the members make. -/
def ChangeFields.toChange : ChangeFields → Except Json.ReadError Change
  | .nothing => .error (.missingField "event")
  | .kind _ => .error (.missingField "job")
  | .kept _ => .error (.missingField "event")
  | .both c => .ok c

/-- A change as an object. -/
def Change.readObject (s : Bytes) : Json.Reading Change :=
  match Json.readObject .text ChangeFields.readMember .nothing s with
  | .error e => .error e
  | .ok (f, s) => f.toChange.map (·, s)

/-- The wording of what a change should have been. -/
def Change.wanted : String := "adjacently tagged enum JobEvent"

/-- A change as a list of its kind and its entry. -/
def Change.readListed (s : Bytes) : Except Json.ReadError (Change × Bytes) := do
  let (kind, s) ← Json.readField 0 wanted ChangeKind.readNested s
  let (entry, s) ← Json.readField 1 wanted Entry.readNested s
  return (⟨kind, entry⟩, s)

/-- The change that a whole text holds. -/
def Change.read (s : Bytes) : Except Json.ReadError Change :=
  Json.readWhole (Json.readRecord Change.wanted Change.readObject Change.readListed) s

end JobMonitor
