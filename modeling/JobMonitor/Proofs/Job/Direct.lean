import JobMonitor.Proofs.Job.Decoding
import JobMonitor.Proofs.Json.SourceOrder

set_option autoImplicit false

/-! # Records that are read straight from the text

The decoder reads a value first and takes the fields from it. A record can also be read field by field as the
text goes. Then other members are skipped, and a key of a field that stands there twice is an error. Where
none does, the two ways come to the same (`SubmissionRecord.read_agrees`): straight from the text of a
submission its record is read, and where the decoder misses a field, the record lacks it.

Both ways take the members one by one. The fields hold at every point what stands under their keys in the
members so far (`RecordFields.Hold`). -/

namespace JobMonitor

open SubmissionRecord (jobIdKey pidsKey createdAtKey updateKey)

/-! ## Values that are converted -/

/-- Where a value stands that can be converted, the reader gives what it is converted to. -/
def Json.ReadsConverted {α : Type} (depth : Nat) (read : Bytes → Json.Reading α)
    (convert : Json → Except Json.ReadError α) : Prop :=
  ∀ s v left a, Json.readValue depth s = .ok (v, left) → convert v = .ok a → read s = .ok (a, left)

section

variable {α : Type} {depth : Nat} {read : Bytes → Json.Reading α}
  {convert : Json → Except Json.ReadError α}

theorem Json.readInt64_converted (depth : Nat) :
    Json.ReadsConverted depth Json.readInt64 Json.toInt64 := by
  intro s v left n h hconvert
  obtain ⟨b, rest, hskip, hbehind⟩ := Json.of_readValue h
  rw [readInt64, readNumeric, hskip]
  cases hbehind with
  | negative hlead hnumber | number hlead hnumber =>
    rw [toInt64] at hconvert
    simp only [hlead, hnumber, hconvert]
    rfl
  | _ => cases hconvert

theorem Json.readBool_converted (depth : Nat) :
    Json.ReadsConverted depth Json.readBool Json.toBool := by
  intro s v left b h hconvert
  obtain ⟨first, rest, hskip, hbehind⟩ := Json.of_readValue h
  rw [readBool, hskip]
  cases hbehind with
  | true hlead hword | false hlead hword =>
    obtain rfl := Except.ok.inj hconvert
    simp only [hlead, hword]
    rfl
  | _ => cases hconvert

theorem exists_of_mapM_cons {ε β γ : Type} {f : β → Except ε γ} {b : β} {rest : List β} {cs : List γ}
    (h : (b :: rest).mapM f = .ok cs) :
    ∃ c more, f b = .ok c ∧ rest.mapM f = .ok more ∧ cs = c :: more := by
  rw [List.mapM_cons] at h
  cases hfirst : f b with
  | error e =>
    rw [hfirst] at h
    cases h
  | ok c =>
    cases hrest : rest.mapM f with
    | error e =>
      rw [hfirst, hrest] at h
      cases h
    | ok more =>
      rw [hfirst, hrest] at h
      exact ⟨c, more, rfl, rfl, (Except.ok.inj h).symm⟩

/-- The items of a list are read one by one. -/
theorem Json.readItems_converted (hread : Json.ReadsConverted depth read convert) {fuel : Nat}
    {isFirst : Bool} {s left : Bytes} {items : List Json} {converted : List α}
    (h : Json.readItems id (Json.readValue depth) fuel isFirst s = .ok (items, left))
    (hconvert : items.mapM convert = .ok converted) :
    Json.readItems .text read fuel isFirst s = .ok (converted, left) := by
  induction fuel generalizing isFirst s items converted with
  | zero => cases h
  | succ fuel ih =>
    rw [readItems] at h
    rw [readItems]
    split at h
    · cases h
    · obtain ⟨behind, hend, heq⟩ := exists_of_map_eq_ok (eq_ok_of_mapError h)
      obtain ⟨rfl, rfl⟩ := Prod.mk.inj heq
      obtain rfl := Except.ok.inj hconvert
      rw [hend]
      rfl
    · split at h
      · cases h
      · next hitem =>
        obtain ⟨⟨more, after⟩, hmore, heq⟩ := exists_of_map_eq_ok h
        obtain ⟨rfl, rfl⟩ := Prod.mk.inj heq
        obtain ⟨a, rest, ha, hrest, rfl⟩ := exists_of_mapM_cons hconvert
        rw [hread _ _ _ _ hitem ha]
        dsimp only
        rw [ih hmore hrest]
        rfl

theorem Json.readInt64s_converted (depth : Nat) :
    Json.ReadsConverted depth (Json.readListOf Json.readInt64) Json.toInt64s := by
  intro s v left ns h hconvert
  obtain ⟨b, rest, hskip, hbehind⟩ := Json.of_readValue h
  rw [readListOf, hskip]
  cases hbehind with
  | array hlead hitems =>
    rw [toInt64s] at hconvert
    simp only [hlead]
    exact Json.readItems_converted (Json.readInt64_converted _) hitems hconvert
  | _ => cases hconvert

/-- What starts with the first letter of `null` is nothing else. -/
theorem Json.eq_null_of_lead {b : UInt8} {s left : Bytes} {v : Json}
    (h : Json.ReadsBehind b s left depth v) (hlead : Json.lead b = .letterN) : v = .null := by
  cases h with
  | null => rfl
  | true hlead' | false hlead' | negative hlead' | number hlead' | string hlead' | array hlead'
  | object hlead' =>
    rw [hlead] at hlead'
    cases hlead'

theorem Json.readOptional_converted (hread : Json.ReadsConverted depth read convert) :
    Json.ReadsConverted depth (Json.readOptional read) fun v => Json.optionalField convert (some v) := by
  intro s v left a h hconvert
  obtain ⟨b, rest, hskip, hbehind⟩ := Json.of_readValue h
  rw [readOptional, hskip]
  by_cases hv : v = .null
  · subst hv
    obtain rfl := Except.ok.inj hconvert
    cases hbehind with
    | null hlead hword =>
      dsimp only
      rw [if_pos hlead, hword]
      rfl
  · dsimp only at hconvert
    rw [Json.optionalField_some hv] at hconvert
    obtain ⟨a, ha, rfl⟩ := exists_of_map_eq_ok hconvert
    have hvalue : Json.readValue depth (b :: rest) = .ok (v, left) := by
      rw [← hskip, Json.readValue_skipBlank, h]
    dsimp only
    rw [if_neg (mt (Json.eq_null_of_lead hbehind) hv), hread _ _ _ _ hvalue ha]
    rfl

theorem CreationTime.read_converted :
    Json.ReadsConverted (Json.maxDepth - 1) CreationTime.read fun v => .ok (.ofJson v) := by
  intro s v left t h hconvert
  obtain rfl := Except.ok.inj hconvert
  rw [read, Json.readAny, h]
  rfl

/-! ## Fields -/

/-- If there is a value, it can be converted. -/
def Json.Convertible (convert : Json → Except Json.ReadError α) (value : Option Json) : Prop :=
  ∀ v ∈ value, ∃ a, convert v = .ok a

/-- If there is a value, the field holds what it is converted to, and otherwise it has not been met. -/
abbrev Json.FieldMet (convert : Json → Except Json.ReadError α) : Option Json → Option α → Prop :=
  Option.Rel fun v a => convert v = .ok a

theorem Json.FieldMet.optionalField_eq {value : Option Json} {field : Option (Option α)}
    (h : Json.FieldMet (fun v => Json.optionalField convert (some v)) value field) :
    Json.optionalField convert value = .ok field.join := by
  cases h with
  | none => rfl
  | some h => exact h

theorem Json.FieldMet.elim_eq {value : Option Json} {field : Option α}
    (h : Json.FieldMet convert value field) (unmet : α) :
    value.elim (.ok unmet) convert = .ok (field.getD unmet) := by
  cases h with
  | none => rfl
  | some h => exact h

/-! ## One more member -/

variable {members : List (String × Json)} {key other : String} {v : Json} {field : Option α}

theorem Json.lastUnder_concat (members : List (String × Json)) (key : String) (v : Json)
    (other : String) :
    Json.lastUnder (members ++ [(key, v)]) other
      = if key = other then some v else Json.lastUnder members other := by
  rw [lastUnder, List.reverse_append, List.reverse_singleton, List.singleton_append, List.lookup_cons]
  by_cases hkey : key = other
  · rw [if_pos hkey, hkey, beq_self_eq_true]
  · rw [if_neg hkey, beq_eq_false_iff_ne.2 (Ne.symm hkey)]
    rfl

/-- How often a key stands in the members. -/
def Json.timesUnder (members : List (String × Json)) (key : String) : Nat :=
  (members.map Prod.fst).count key

theorem Json.timesUnder_concat (members : List (String × Json)) (key : String) (v : Json)
    (other : String) :
    Json.timesUnder (members ++ [(key, v)]) other
      = Json.timesUnder members other + if key = other then 1 else 0 := by
  rw [timesUnder, List.map_append, List.count_append, List.map_singleton, List.count_singleton]
  simp only [beq_iff_eq]
  rfl

theorem Json.lastUnder_of_timesUnder (h : Json.timesUnder members key = 0) :
    Json.lastUnder members key = none := by
  rw [lastUnder, List.lookup_eq_none_iff]
  intro m hm
  rw [bne_iff_ne]
  rintro rfl
  exact List.count_eq_zero.1 h (List.mem_map_of_mem (List.mem_reverse.1 hm))

/-- A key that stands only once stands there with one value from then on. -/
theorem Json.Convertible.of_concat
    (h : Json.Convertible convert (Json.lastUnder (members ++ [(key, v)]) other))
    (honce : Json.timesUnder (members ++ [(key, v)]) other ≤ 1) :
    Json.Convertible convert (Json.lastUnder members other) := by
  rw [Json.timesUnder_concat] at honce
  rw [Json.lastUnder_concat] at h
  by_cases hkey : key = other
  · rw [if_pos hkey] at honce
    rw [Json.lastUnder_of_timesUnder (by omega)]
    exact fun _ hv => absurd hv (Option.not_mem_none _)
  · rw [if_neg hkey] at h
    exact h

theorem Json.FieldMet.keep (h : Json.FieldMet convert (Json.lastUnder members other) field)
    (hkey : key ≠ other) :
    Json.FieldMet convert (Json.lastUnder (members ++ [(key, v)]) other) field := by
  rw [Json.lastUnder_concat, if_neg hkey]
  exact h

theorem Json.FieldMet.put {a : α} (ha : convert v = .ok a) :
    Json.FieldMet convert (Json.lastUnder (members ++ [(key, v)]) key) (some a) := by
  rw [Json.lastUnder_concat, if_pos rfl]
  exact .some ha

/-- A field is read behind its key if the key does not stand there a second time and the value can be
    converted. -/
theorem Json.FieldMet.readOnce {σ : Type} {s start left : Bytes}
    (h : Json.FieldMet convert (Json.lastUnder members key) field)
    (hread : Json.ReadsConverted depth read convert)
    (honce : Json.timesUnder (members ++ [(key, v)]) key ≤ 1)
    (hconvertible : Json.Convertible convert (Json.lastUnder (members ++ [(key, v)]) key))
    (hcolon : Json.expectColon s = .ok start)
    (hvalue : Json.readValue depth start = .ok (v, left)) (put : α → σ) :
    ∃ a, convert v = .ok a ∧ Json.readOnce field.isSome key read put s = .ok (put a, left) := by
  rw [Json.timesUnder_concat, if_pos rfl] at honce
  rw [Json.lastUnder_of_timesUnder (by omega)] at h
  rw [Json.lastUnder_concat, if_pos rfl] at hconvertible
  obtain ⟨a, ha⟩ := hconvertible v rfl
  refine ⟨a, ha, ?_⟩
  cases h
  rw [Json.readOnce, Option.isSome_none, if_neg Bool.false_ne_true, Json.readMemberValue, hcolon]
  dsimp only
  rw [hread _ _ _ _ hvalue ha]
  rfl

end

/-! ## The fields of a record -/

/-- No key of a field stands in the members twice. -/
def SubmissionRecord.KeysOnce (members : List (String × Json)) : Prop :=
  ∀ key ∈ [jobIdKey, pidsKey, createdAtKey, updateKey], Json.timesUnder members key ≤ 1

instance (members : List (String × Json)) : Decidable (SubmissionRecord.KeysOnce members) :=
  inferInstanceAs (Decidable (∀ key ∈ _, _))

/-- The members can be read as a record one by one. -/
structure SubmissionRecord.Readable (members : List (String × Json)) : Prop where
  once : KeysOnce members
  jobId : Json.Convertible (fun v => Json.optionalField Json.toInt64 (some v))
    (Json.lastUnder members jobIdKey)
  pids : Json.Convertible (fun v => Json.optionalField Json.toInt64s (some v))
    (Json.lastUnder members pidsKey)
  update : Json.Convertible Json.toBool (Json.lastUnder members updateKey)

/-- The fields hold what stands under their keys in the members so far. -/
structure RecordFields.Hold (f : RecordFields) (members : List (String × Json)) : Prop where
  jobId : Json.FieldMet (fun v => Json.optionalField Json.toInt64 (some v))
    (Json.lastUnder members jobIdKey) f.jobId
  pids : Json.FieldMet (fun v => Json.optionalField Json.toInt64s (some v))
    (Json.lastUnder members pidsKey) f.pids
  createdAt : Json.FieldMet
    (fun v => Json.optionalField (fun v => .ok (CreationTime.ofJson v)) (some v))
    (Json.lastUnder members createdAtKey) f.createdAt
  update : Json.FieldMet Json.toBool (Json.lastUnder members updateKey) f.isUpdate

/-- Any value can be a creation time. -/
theorem CreationTime.convertible (value : Option Json) :
    Json.Convertible (fun v => Json.optionalField (fun v => .ok (CreationTime.ofJson v)) (some v))
      value := by
  intro v _
  by_cases hv : v = .null
  · exact ⟨none, by rw [hv]; rfl⟩
  · exact ⟨some (.ofJson v), Json.optionalField_some hv⟩

section

variable {members : List (String × Json)} {key : String} {v : Json}

/-- What has been read up to some member could be read. -/
theorem SubmissionRecord.Readable.of_concat (h : Readable (members ++ [(key, v)])) :
    Readable members where
  once other hother := by
    have honce := h.once other hother
    rw [Json.timesUnder_concat] at honce
    exact Nat.le_of_add_right_le honce
  jobId := h.jobId.of_concat (h.once _ (by simp))
  pids := h.pids.of_concat (h.once _ (by simp))
  update := h.update.of_concat (h.once _ (by simp))

/-- **One more member** is read into its field, or skipped if it has none. -/
theorem RecordFields.Hold.exists_readMember {f : RecordFields} {next : List (String × Json)}
    {s left : Bytes} (h : f.Hold members)
    (hmember : Json.readMemberBehind (Json.readValue (Json.maxDepth - 1)) members s = .ok (next, left))
    (hnext : SubmissionRecord.Readable next) :
    ∃ f', RecordFields.readMember f s = .ok (f', left) ∧ f'.Hold next := by
  obtain ⟨key, behind, start, v, hkey, hcolon, hvalue, rfl⟩ := Json.of_readMemberBehind hmember
  have hint64 := Json.readInt64_converted (Json.maxDepth - 1)
  have hint64s := Json.readInt64s_converted (Json.maxDepth - 1)
  rw [readMember, hkey]
  dsimp only
  split
  · next hjobId =>
    subst hjobId
    obtain ⟨a, ha, hread⟩ := h.jobId.readOnce (Json.readOptional_converted hint64)
      (hnext.once _ (by simp)) hnext.jobId hcolon hvalue fun a => { f with jobId := some a }
    exact ⟨_, hread, .put ha, h.pids.keep (by decide), h.createdAt.keep (by decide),
      h.update.keep (by decide)⟩
  · split
    · next hpids =>
      subst hpids
      obtain ⟨a, ha, hread⟩ := h.pids.readOnce (Json.readOptional_converted hint64s)
        (hnext.once _ (by simp)) hnext.pids hcolon hvalue fun a => { f with pids := some a }
      exact ⟨_, hread, h.jobId.keep (by decide), .put ha, h.createdAt.keep (by decide),
        h.update.keep (by decide)⟩
    · split
      · next hcreatedAt =>
        subst hcreatedAt
        obtain ⟨a, ha, hread⟩ := h.createdAt.readOnce
          (Json.readOptional_converted CreationTime.read_converted) (hnext.once _ (by simp))
          (CreationTime.convertible _) hcolon hvalue fun a => { f with createdAt := some a }
        exact ⟨_, hread, h.jobId.keep (by decide), h.pids.keep (by decide), .put ha,
          h.update.keep (by decide)⟩
      · split
        · next hupdate =>
          subst hupdate
          obtain ⟨a, ha, hread⟩ := h.update.readOnce (Json.readBool_converted _)
            (hnext.once _ (by simp)) hnext.update hcolon hvalue fun a => { f with isUpdate := some a }
          exact ⟨_, hread, h.jobId.keep (by decide), h.pids.keep (by decide),
            h.createdAt.keep (by decide), .put ha⟩
        · next hjobId hpids hcreatedAt hupdate =>
          refine ⟨f, ?_, h.jobId.keep hjobId, h.pids.keep hpids, h.createdAt.keep hcreatedAt,
            h.update.keep hupdate⟩
          rw [Json.skipMemberValue, hcolon]
          show Except.map _ ((Json.skipValue start).mapError _) = _
          rw [Json.skipValue_of_readValue hvalue]
          rfl

end

/-! ## Records -/

/-- The fields of a record are what the values under their keys are converted to. -/
structure SubmissionRecord.IsConverted (r : SubmissionRecord) (last : String → Option Json) : Prop where
  jobId : Json.optionalField Json.toInt64 (last jobIdKey) = .ok r.jobId
  pids : Json.optionalField Json.toInt64s (last pidsKey) = .ok r.pids
  createdAt : Json.optionalField (fun v => .ok (CreationTime.ofJson v)) (last createdAtKey)
    = .ok r.createdAt
  update : (last updateKey).elim (.ok false) Json.toBool = .ok r.isUpdate

theorem SubmissionRecord.isConverted_of_ofMembers {members : List (String × Json)}
    {r : SubmissionRecord} (h : SubmissionRecord.ofMembers members = .ok r) :
    r.IsConverted fun key => Json.member? key members := by
  rw [ofMembers] at h
  split at h
  · cases h
  · next hcreatedAt =>
    split at h
    · cases h
    · next hjobId =>
      split at h
      · cases h
      · next hpids =>
        split at h
        · cases h
        · next hupdate =>
          obtain rfl := Except.ok.inj h
          obtain ⟨v, hv, hbool⟩ := Option.map_eq_some_iff.1 hupdate
          exact ⟨hjobId, hpids, hcreatedAt, by dsimp only; rw [hv]; exact hbool⟩
        · next hupdate =>
          obtain rfl := Except.ok.inj h
          have hnone := Option.map_eq_none_iff.1 hupdate
          exact ⟨hjobId, hpids, hcreatedAt, by dsimp only; rw [hnone]; rfl⟩

theorem SubmissionRecord.IsConverted.unique {r r' : SubmissionRecord} {last : String → Option Json}
    (h : r.IsConverted last) (h' : r'.IsConverted last) : r = r' := by
  have hjobId := Except.ok.inj (h.jobId.symm.trans h'.jobId)
  have hpids := Except.ok.inj (h.pids.symm.trans h'.pids)
  have hcreatedAt := Except.ok.inj (h.createdAt.symm.trans h'.createdAt)
  have hupdate := Except.ok.inj (h.update.symm.trans h'.update)
  cases r
  cases r'
  cases hjobId
  cases hpids
  cases hcreatedAt
  cases hupdate
  rfl

theorem Json.convertible_of_optionalField {α : Type} {convert : Json → Except Json.ReadError α}
    {value : Option Json} {a : Option α} (h : Json.optionalField convert value = .ok a) :
    Json.Convertible (fun v => Json.optionalField convert (some v)) value := by
  rintro v rfl
  exact ⟨a, h⟩

theorem SubmissionRecord.IsConverted.readable {r : SubmissionRecord} {members : List (String × Json)}
    (h : r.IsConverted (Json.lastUnder members)) (honce : KeysOnce members) : Readable members where
  once := honce
  jobId := Json.convertible_of_optionalField h.jobId
  pids := Json.convertible_of_optionalField h.pids
  update := by
    intro v hv
    have hupdate := h.update
    rw [Option.mem_def.1 hv] at hupdate
    exact ⟨_, hupdate⟩

theorem RecordFields.Hold.isConverted {f : RecordFields} {members : List (String × Json)}
    (h : f.Hold members) : f.toRecord.IsConverted (Json.lastUnder members) where
  jobId := h.jobId.optionalField_eq
  pids := h.pids.optionalField_eq
  createdAt := h.createdAt.optionalField_eq
  update := h.update.elim_eq false

/-- **What the decoder makes of the members is read straight from the text** if no key of a field stands
    there twice. -/
theorem SubmissionRecord.read_of_ofMembers {payload : Bytes} {members : List (String × Json)}
    {r : SubmissionRecord} (hread : Json.read payload = .ok (.object members))
    (honce : KeysOnce (Json.sourceMembers payload)) (h : SubmissionRecord.ofMembers members = .ok r) :
    SubmissionRecord.read payload = .ok r := by
  obtain ⟨b, rest, left, hskip, hlead, hmembers, hend⟩ := Json.of_read_object hread
  obtain ⟨source, hsource, heq⟩ := Json.exists_readObject_behind hmembers
  rw [Json.sourceMembers_eq hskip hsource] at honce
  have hlast : (fun key => Json.member? key members) = Json.lastUnder source := by
    rw [Json.object.inj heq]
    exact funext (Json.member?_sorted source)
  have hconverted := SubmissionRecord.isConverted_of_ofMembers h
  rw [hlast] at hconverted
  have hstart : RecordFields.Hold {} [] := ⟨.none, .none, .none, .none⟩
  -- The fields hold the members so far, as long as these can be read one by one.
  have hdirect : ∃ f, Json.readObject .text RecordFields.readMember {} rest = .ok (f, left) ∧
      f.Hold source := by
    refine Json.readMembers_agree Readable (fun members f => RecordFields.Hold f members) ?_ ?_ hsource
      (hconverted.readable honce) hstart
    · intro _ _ _ _ hmember hnext
      obtain ⟨_, _, _, _, -, -, -, rfl⟩ := Json.of_readMemberBehind hmember
      exact hnext.of_concat
    · exact fun _ _ _ _ _ hmember hnext hhold => hhold.exists_readMember hmember hnext
  obtain ⟨f, hfields, hhold⟩ := hdirect
  have hrecord : f.toRecord = r := hhold.isConverted.unique hconverted
  rw [read, Json.readWhole, readNested, Json.readRecord, hskip]
  simp only [hlead]
  rw [hfields]
  show Except.mapError _ ((Json.expectEnd left).map _) = _
  rw [hend, ← hrecord]
  rfl

/-- The field with this name is left out. -/
def SubmissionRecord.Lacks (r : SubmissionRecord) (field : String) : Prop :=
  field = jobIdKey ∧ r.jobId = none ∨ field = pidsKey ∧ r.pids = none ∨
    field = createdAtKey ∧ r.createdAt = none

theorem SubmissionRecord.eq_toRecord_of_toSubmission {r : SubmissionRecord} {s : Submission}
    (h : r.toSubmission = .ok s) : r = s.toRecord := by
  obtain ⟨jobId, pids, createdAt, isUpdate⟩ := r
  cases jobId with
  | none => cases h
  | some jobId =>
    cases pids with
    | none => cases h
    | some pids =>
      cases createdAt with
      | none => cases h
      | some createdAt =>
        obtain rfl := Except.ok.inj h
        rfl

theorem SubmissionRecord.lacks_of_toSubmission {r : SubmissionRecord} {field : String}
    {jobId : Option JobId} (h : r.toSubmission = .error (.missing field jobId)) :
    r.Lacks field ∧ r.jobId = jobId := by
  obtain ⟨id, pids, createdAt, isUpdate⟩ := r
  cases id with
  | none =>
    cases h
    exact ⟨.inl ⟨rfl, rfl⟩, rfl⟩
  | some id =>
    cases pids with
    | none =>
      cases h
      exact ⟨.inr (.inl ⟨rfl, rfl⟩), rfl⟩
    | some pids =>
      cases createdAt with
      | none =>
        cases h
        exact ⟨.inr (.inr ⟨rfl, rfl⟩), rfl⟩
      | some createdAt => cases h

/-- The decoder comes to a submission or to a field that is missing only by way of a record. -/
theorem Submission.exists_record_of_decode {payload : Bytes}
    {result : Except DecodeError Submission} (h : Submission.decode payload = result)
    (hrecord : (∃ s, result = .ok s) ∨ ∃ field jobId, result = .error (.missing field jobId)) :
    ∃ members r, Json.read payload = .ok (.object members) ∧
      SubmissionRecord.ofMembers members = .ok r ∧ r.toSubmission = result := by
  rw [decode] at h
  split at h
  · rw [← h] at hrecord
    rcases hrecord with ⟨_, ⟨⟩⟩ | ⟨_, _, ⟨⟩⟩
  · next members hread =>
    split at h
    · rw [← h] at hrecord
      rcases hrecord with ⟨_, ⟨⟩⟩ | ⟨_, _, ⟨⟩⟩
    · next r hr => exact ⟨members, r, hread, hr, h⟩
  · rw [← h] at hrecord
    rcases hrecord with ⟨_, ⟨⟩⟩ | ⟨_, _, ⟨⟩⟩

/-- **The two ways to read a record agree** where no key of a field stands in the text twice. Straight from
    the text of a submission its record is read. Where the decoder reports a field as missing, a record is
    read that lacks this field, of the job that is reported. -/
theorem SubmissionRecord.read_agrees {payload : Bytes}
    (honce : KeysOnce (Json.sourceMembers payload)) :
    (∀ s, Submission.decode payload = .ok s → SubmissionRecord.read payload = .ok s.toRecord) ∧
    ∀ field jobId, Submission.decode payload = .error (.missing field jobId) →
      ∃ r, SubmissionRecord.read payload = .ok r ∧ r.Lacks field ∧ r.jobId = jobId := by
  refine ⟨fun s h => ?_, fun field jobId h => ?_⟩
  · obtain ⟨members, r, hread, hr, hs⟩ := Submission.exists_record_of_decode h (.inl ⟨s, rfl⟩)
    rw [← SubmissionRecord.eq_toRecord_of_toSubmission hs]
    exact SubmissionRecord.read_of_ofMembers hread honce hr
  · obtain ⟨members, r, hread, hr, hmissing⟩ :=
      Submission.exists_record_of_decode h (.inr ⟨field, jobId, rfl⟩)
    exact ⟨r, SubmissionRecord.read_of_ofMembers hread honce hr,
      SubmissionRecord.lacks_of_toSubmission hmissing⟩

/-- Members in another order, an escaped key, and a member that is no field, under a key that stands there
    twice; and a message without its processes. -/
theorem SubmissionRecord.read_agrees_unordered :
    let payload := Bytes.ofText
      ("\x7b\"JobUpdate\":true,\"x\":[1e5,\x7b\"JobID\":3\x7d],\"JobPIDs\":[7],\"x\":null,"
        ++ "\"JobCreateTime\":-1,\"Job\\u0049D\":2\x7d")
    let torso := Bytes.ofText "\x7b\"JobPIDs\":null,\"JobID\":8\x7d"
    ((KeysOnce (Json.sourceMembers payload) ∧
        Submission.decode payload = .ok ⟨2, [7], .unset, true⟩) ∧
      SubmissionRecord.read payload = .ok ⟨some 2, some [7], some .unset, true⟩) ∧
    (KeysOnce (Json.sourceMembers torso) ∧
        Submission.decode torso = .error (.missing pidsKey (some 8))) ∧
      ∃ r, SubmissionRecord.read torso = .ok r ∧ r.Lacks pidsKey ∧ r.jobId = some 8 := by
  intro payload torso
  have honce : KeysOnce (Json.sourceMembers payload) := by decide +kernel
  have hdecode : Submission.decode payload = .ok ⟨2, [7], .unset, true⟩ := by decide +kernel
  have honce' : KeysOnce (Json.sourceMembers torso) := by decide +kernel
  have hmissing : Submission.decode torso = .error (.missing pidsKey (some 8)) := by decide +kernel
  exact ⟨⟨⟨honce, hdecode⟩, (SubmissionRecord.read_agrees honce).1 _ hdecode⟩, ⟨honce', hmissing⟩,
    (SubmissionRecord.read_agrees honce').2 _ _ hmissing⟩

/-- A key that stands there twice is read in two ways. -/
example :
    let payload := Bytes.ofText
      "\x7b\"JobID\":2,\"JobPIDs\":[7],\"JobCreateTime\":-1,\"JobID\":2\x7d"
    Submission.decode payload = .ok ⟨2, [7], .unset, false⟩ ∧
      SubmissionRecord.read payload = .error (.duplicateField jobIdKey) := by
  decide +kernel

end JobMonitor
