import JobMonitor.Proofs.Job.Record
import JobMonitor.Proofs.Json.Grammar

set_option autoImplicit false

/-! # What is decoded as a submission

An object that is written in any way is decoded by what is written last under the four keys of a record,
and by nothing else (`Submission.decode_written`). `Submission.Outcome` says without the decoder what that
comes to: a value of a type that its field does not have is reported before a field that is left out, and
each in the order of the fields. Beyond that an object is refused only for something in it that has no
value, which is a number that is too large for the reader or half of a surrogate pair
(`Json.Written.HoldsValueless`). -/

namespace JobMonitor

open SubmissionRecord (jobIdKey pidsKey createdAtKey updateKey)

/-! ## Types of values -/

theorem Json.toInt64_eq_ok_iff (v : Json) (n : Int64) : v.toInt64 = .ok n ↔ v = .ofInt64 n := by
  constructor
  · intro h
    cases v with
    | number m =>
      cases m with
      | integer i =>
        rw [toInt64, JsonNumber.int64, JsonNumber.integerIn] at h
        split at h
        · next hrange =>
          have hn : Int64.ofInt i.val = n := Except.ok.inj h
          rw [← hn, ofInt64]
          congr 2
          apply Subtype.ext
          exact (Int64.toInt_ofInt_of_le hrange.1 (Int.lt_of_le_of_lt hrange.2 (by decide))).symm
        · cases h
      | float x => cases h
    | _ => cases h
  · rintro rfl
    exact Json.toInt64_ofInt64 n

theorem Json.mapM_toInt64_eq_ok_iff (items : List Json) (ns : List Int64) :
    items.mapM Json.toInt64 = .ok ns ↔ items = ns.map Json.ofInt64 := by
  induction items generalizing ns with
  | nil =>
    cases ns with
    | nil => exact ⟨fun _ => rfl, fun _ => rfl⟩
    | cons n ns =>
      constructor
      · intro h
        cases h
      · intro h
        cases h
  | cons v rest ih =>
    rw [List.mapM_cons]
    constructor
    · intro h
      cases hv : v.toInt64 with
      | error e =>
        rw [hv] at h
        cases h
      | ok n =>
        cases hrest : rest.mapM Json.toInt64 with
        | error e =>
          rw [hv, hrest] at h
          cases h
        | ok more =>
          rw [hv, hrest] at h
          obtain rfl : n :: more = ns := Except.ok.inj h
          rw [List.map_cons, (Json.toInt64_eq_ok_iff v n).1 hv, (ih more).1 hrest]
    · intro h
      cases ns with
      | nil => cases h
      | cons n ns =>
        rw [List.map_cons, List.cons.injEq] at h
        rw [(Json.toInt64_eq_ok_iff v n).2 h.1, (ih ns).2 h.2]
        rfl

theorem Json.toInt64s_eq_ok_iff (v : Json) (ns : List Int64) :
    v.toInt64s = .ok ns ↔ v = .array (ns.map Json.ofInt64) := by
  cases v with
  | array items =>
    rw [toInt64s, Json.mapM_toInt64_eq_ok_iff]
    exact ⟨congrArg Json.array, Json.array.inj⟩
  | _ =>
    constructor
    · intro h
      cases h
    · intro h
      cases h

theorem Json.toBool_eq_ok_iff (v : Json) (b : Bool) : v.toBool = .ok b ↔ v = .bool b := by
  cases v with
  | bool c =>
    constructor
    · intro h
      rw [Except.ok.inj h]
    · intro h
      rw [Json.bool.inj h]
      rfl
  | _ =>
    constructor
    · intro h
      cases h
    · intro h
      cases h

theorem Json.ofInt64_inj {m n : Int64} (h : Json.ofInt64 m = Json.ofInt64 n) : m = n :=
  Except.ok.inj (((Json.toInt64_eq_ok_iff _ m).2 rfl).symm.trans ((Json.toInt64_eq_ok_iff _ n).2 h))

/-- A list of signed 64-bit integers. -/
def Json.ofInt64s (ns : List Int64) : Json := .array (ns.map .ofInt64)

theorem Json.ofInt64s_inj {ms ns : List Int64} (h : Json.ofInt64s ms = Json.ofInt64s ns) : ms = ns :=
  Except.ok.inj
    (((Json.toInt64s_eq_ok_iff _ ms).2 rfl).symm.trans ((Json.toInt64s_eq_ok_iff _ ns).2 h))

/-- A number is an integer of 64 bits exactly if it is written as one. -/
theorem Json.WrittenNumber.value?_eq_ofInt64_iff (w : Json.WrittenNumber) (n : Int64) :
    (Json.Written.number w).value? = some (.ofInt64 n) ↔ w.IsInteger ∧ w.integer = n.toInt := by
  refine Iff.trans ?_ (w.value?_eq_integer_iff ⟨n.toInt, ?_⟩)
  · rw [Written.value?, Option.map_eq_some_iff]
    constructor
    · rintro ⟨m, hm, hnumber⟩
      rw [hm, Json.number.inj hnumber]
    · exact fun hm => ⟨_, hm, rfl⟩

/-- A value is an integer of 64 bits exactly if a number that is written as one stands there. -/
theorem Json.Written.value?_eq_ofInt64_iff (v : Json.Written) (n : Int64) :
    v.value? = some (.ofInt64 n) ↔
      ∃ w, v.bare = .number w ∧ w.IsInteger ∧ w.integer = n.toInt := by
  cases v with
  | padded before v after => exact Json.Written.value?_eq_ofInt64_iff v n
  | number w =>
    constructor
    · exact fun h => ⟨w, rfl, (w.value?_eq_ofInt64_iff n).1 h⟩
    · rintro ⟨w', hw, h⟩
      obtain rfl := Json.Written.number.inj hw
      exact (w.value?_eq_ofInt64_iff n).2 h
  | null | bool _ =>
    constructor
    · intro h
      cases h
    · rintro ⟨w, hw, -⟩
      cases hw
  | string _ | array _ _ | object _ _ =>
    constructor
    · intro h
      obtain ⟨_, -, hvalue⟩ := Option.map_eq_some_iff.1 h
      cases hvalue
    · rintro ⟨w, hw, -⟩
      cases hw

/-! ## Fields -/

/-- The field is left out, or `null` for the same. -/
def Json.IsAbsent (field : Option Json) : Prop := field = none ∨ field = some .null

/-- The field is left out or holds one of these values. -/
def Json.FieldFits {α : Type} (embed : α → Json) (field : Option Json) : Prop :=
  Json.IsAbsent field ∨ ∃ a, field = some (embed a)

/-- The field holds one of the values, or is left out if there is none. -/
def Json.FieldIs {α : Type} (embed : α → Json) (field : Option Json) : Option α → Prop
  | none => Json.IsAbsent field
  | some a => field = some (embed a)

theorem Json.FieldIs.fits {α : Type} {embed : α → Json} {field : Option Json} {a : Option α}
    (h : Json.FieldIs embed field a) : Json.FieldFits embed field := by
  cases a with
  | none => exact .inl h
  | some a => exact .inr ⟨a, h⟩

theorem Json.not_isAbsent_some {v : Json} (h : v ≠ .null) : ¬ Json.IsAbsent (some v) := by
  rintro (hnone | hnull)
  · cases hnone
  · exact h (Option.some.inj hnull)

/-- A field is taken as what it holds, or its value cannot be converted. -/
theorem Json.optionalField_cases {α : Type} {convert : Json → Except Json.ReadError α}
    {embed : α → Json} (hconvert : ∀ v a, convert v = .ok a ↔ v = embed a) (field : Option Json) :
    (∃ a, Json.FieldIs embed field a ∧ Json.optionalField convert field = .ok a) ∨
    (¬ Json.FieldFits embed field ∧ ∃ v e, field = some v ∧ convert v = .error e ∧
      Json.optionalField convert field = .error e) := by
  cases field with
  | none => exact .inl ⟨none, .inl rfl, rfl⟩
  | some v =>
    by_cases hv : v = .null
    · rw [hv]
      exact .inl ⟨none, .inr rfl, rfl⟩
    · rw [Json.optionalField_some hv]
      cases hconverted : convert v with
      | ok a => exact .inl ⟨some a, congrArg some ((hconvert v a).1 hconverted), rfl⟩
      | error e =>
        refine .inr ⟨?_, v, e, rfl, hconverted, rfl⟩
        rintro (habsent | ⟨a, ha⟩)
        · exact Json.not_isAbsent_some hv habsent
        · rw [(hconvert v a).2 (Option.some.inj ha)] at hconverted
          cases hconverted

/-! ## The fields of a record -/

section

variable (last : String → Option Json)

/-- There is no update mark, or it is a boolean. It cannot be `null`. -/
def UpdateFits : Prop := last updateKey = none ∨ ∃ b, last updateKey = some (.bool b)

/-- All fields have values of their types. -/
structure FieldsFit : Prop where
  jobId : Json.FieldFits Json.ofInt64 (last jobIdKey)
  pids : Json.FieldFits Json.ofInt64s (last pidsKey)
  update : UpdateFits last

/-- The first field with a value of another type, and what is wrong with the value. -/
inductive FirstMisfit : Json.ReadError → Prop where
  | jobId {v : Json} {e : Json.ReadError}
      (hmisfit : ¬ Json.FieldFits Json.ofInt64 (last jobIdKey)) (hv : last jobIdKey = some v)
      (he : v.toInt64 = .error e) : FirstMisfit e
  | pids {v : Json} {e : Json.ReadError}
      (hjobId : Json.FieldFits Json.ofInt64 (last jobIdKey))
      (hmisfit : ¬ Json.FieldFits Json.ofInt64s (last pidsKey)) (hv : last pidsKey = some v)
      (he : v.toInt64s = .error e) : FirstMisfit e
  | update {v : Json} {e : Json.ReadError}
      (hjobId : Json.FieldFits Json.ofInt64 (last jobIdKey))
      (hpids : Json.FieldFits Json.ofInt64s (last pidsKey))
      (hmisfit : ¬ UpdateFits last) (hv : last updateKey = some v)
      (he : v.toBool = .error e) : FirstMisfit e

/-- The first field that is left out, and the job if it is another field. -/
inductive FirstMissing : String → Option JobId → Prop where
  | jobId (habsent : Json.IsAbsent (last jobIdKey)) : FirstMissing jobIdKey none
  | pids {n : Int64} (hjobId : last jobIdKey = some (.ofInt64 n))
      (habsent : Json.IsAbsent (last pidsKey)) : FirstMissing pidsKey (some n)
  | createdAt {n : Int64} {ns : List Int64} (hjobId : last jobIdKey = some (.ofInt64 n))
      (hpids : last pidsKey = some (.ofInt64s ns)) (habsent : Json.IsAbsent (last createdAtKey)) :
      FirstMissing createdAtKey (some n)

/-- The creation time is any value, but `null` is none. -/
def CreatedAtIs : Option CreationTime → Prop
  | none => Json.IsAbsent (last createdAtKey)
  | some t => ∃ raw, last createdAtKey = some raw ∧ raw ≠ .null ∧ t = .ofJson raw

/-- An update mark that is left out is not set. -/
def UpdateIs (isUpdate : Bool) : Prop :=
  last updateKey = none ∧ isUpdate = false ∨ last updateKey = some (.bool isUpdate)

/-- The submission is what stands under the keys. -/
structure Submission.IsUnder (s : Submission) : Prop where
  jobId : last jobIdKey = some (.ofInt64 s.jobId)
  pids : last pidsKey = some (.ofInt64s s.pids)
  createdAt : CreatedAtIs last (some s.createdAt)
  update : UpdateIs last s.isUpdate

/-- What the values under the keys are decoded as. A value of a wrong type goes before a field that is
    left out. -/
inductive Submission.Outcome : Except DecodeError Submission → Prop where
  | misfit {e : Json.ReadError} (h : FirstMisfit last e) : Outcome (.error (.unreadable e))
  | missing {field : String} {jobId : Option JobId} (hfit : FieldsFit last)
      (h : FirstMissing last field jobId) : Outcome (.error (.missing field jobId))
  | complete {s : Submission} (h : s.IsUnder last) : Outcome (.ok s)

end

/-! ## Only one thing is under the keys -/

section

variable {last : String → Option Json}

theorem UpdateIs.fits {isUpdate : Bool} (h : UpdateIs last isUpdate) : UpdateFits last := by
  rcases h with ⟨hnone, -⟩ | hb
  · exact .inl hnone
  · exact .inr ⟨isUpdate, hb⟩

theorem not_updateFits {v : Json} {e : Json.ReadError} (hv : last updateKey = some v)
    (he : v.toBool = .error e) : ¬ UpdateFits last := by
  rintro (hnone | ⟨b, hb⟩)
  · rw [hv] at hnone
    cases hnone
  · rw [hv] at hb
    rw [(Json.toBool_eq_ok_iff v b).2 (Option.some.inj hb)] at he
    cases he

theorem not_fieldsFit_iff : ¬ FieldsFit last ↔
    ¬ Json.FieldFits Json.ofInt64 (last jobIdKey) ∨
    ¬ Json.FieldFits Json.ofInt64s (last pidsKey) ∨ ¬ UpdateFits last := by
  constructor
  · intro h
    rcases Classical.em (Json.FieldFits Json.ofInt64 (last jobIdKey)) with hjobId | hjobId
    · rcases Classical.em (Json.FieldFits Json.ofInt64s (last pidsKey)) with hpids | hpids
      · exact .inr (.inr fun hupdate => h ⟨hjobId, hpids, hupdate⟩)
      · exact .inr (.inl hpids)
    · exact .inl hjobId
  · rintro (h | h | h) hfit
    · exact h hfit.jobId
    · exact h hfit.pids
    · exact h hfit.update

theorem Submission.IsUnder.fit {s : Submission} (h : s.IsUnder last) : FieldsFit last :=
  ⟨.inr ⟨_, h.jobId⟩, .inr ⟨_, h.pids⟩, h.update.fits⟩

theorem FirstMisfit.not_fit {e : Json.ReadError} (h : FirstMisfit last e) : ¬ FieldsFit last := by
  intro hfit
  cases h with
  | jobId hmisfit _ _ => exact hmisfit hfit.jobId
  | pids _ hmisfit _ _ => exact hmisfit hfit.pids
  | update _ _ hmisfit _ _ => exact hmisfit hfit.update

theorem FirstMisfit.unique {e e' : Json.ReadError} (h : FirstMisfit last e)
    (h' : FirstMisfit last e') : e = e' := by
  cases h with
  | jobId hmisfit hv he =>
    cases h' with
    | jobId _ hv' he' =>
      obtain rfl := Option.some.inj (hv.symm.trans hv')
      exact Except.error.inj (he.symm.trans he')
    | pids hjobId => exact absurd hjobId hmisfit
    | update hjobId => exact absurd hjobId hmisfit
  | pids hjobId hmisfit hv he =>
    cases h' with
    | jobId hmisfit' => exact absurd hjobId hmisfit'
    | pids _ _ hv' he' =>
      obtain rfl := Option.some.inj (hv.symm.trans hv')
      exact Except.error.inj (he.symm.trans he')
    | update _ hpids => exact absurd hpids hmisfit
  | update hjobId hpids _ hv he =>
    cases h' with
    | jobId hmisfit' => exact absurd hjobId hmisfit'
    | pids _ hmisfit' => exact absurd hpids hmisfit'
    | update _ _ _ hv' he' =>
      obtain rfl := Option.some.inj (hv.symm.trans hv')
      exact Except.error.inj (he.symm.trans he')

/-- A field that is there is not left out. -/
theorem Json.not_isAbsent {field : Option Json} {v : Json} (hfield : field = some v)
    (hv : v ≠ .null) : ¬ Json.IsAbsent field := by
  rw [hfield]
  exact Json.not_isAbsent_some hv

theorem FirstMissing.unique {field field' : String} {jobId jobId' : Option JobId}
    (h : FirstMissing last field jobId) (h' : FirstMissing last field' jobId') :
    field = field' ∧ jobId = jobId' := by
  have hsame {m n : Int64} (hm : last jobIdKey = some (.ofInt64 m))
      (hn : last jobIdKey = some (.ofInt64 n)) : some m = some n :=
    congrArg some (Json.ofInt64_inj (Option.some.inj (hm.symm.trans hn)))
  cases h with
  | jobId habsent =>
    cases h' with
    | jobId => exact ⟨rfl, rfl⟩
    | pids hjobId => exact absurd habsent (Json.not_isAbsent hjobId Json.noConfusion)
    | createdAt hjobId => exact absurd habsent (Json.not_isAbsent hjobId Json.noConfusion)
  | pids hjobId habsent =>
    cases h' with
    | jobId habsent' => exact absurd habsent' (Json.not_isAbsent hjobId Json.noConfusion)
    | pids hjobId' => exact ⟨rfl, hsame hjobId hjobId'⟩
    | createdAt _ hpids => exact absurd habsent (Json.not_isAbsent hpids Json.noConfusion)
  | createdAt hjobId hpids _ =>
    cases h' with
    | jobId habsent' => exact absurd habsent' (Json.not_isAbsent hjobId Json.noConfusion)
    | pids _ habsent' => exact absurd habsent' (Json.not_isAbsent hpids Json.noConfusion)
    | createdAt hjobId' => exact ⟨rfl, hsame hjobId hjobId'⟩

theorem Submission.IsUnder.not_missing {s : Submission} {field : String} {jobId : Option JobId}
    (h : s.IsUnder last) : ¬ FirstMissing last field jobId := by
  rintro (habsent | ⟨_, habsent⟩ | ⟨_, _, habsent⟩)
  · exact Json.not_isAbsent h.jobId Json.noConfusion habsent
  · exact Json.not_isAbsent h.pids Json.noConfusion habsent
  · obtain ⟨raw, hraw, hnull, -⟩ := h.createdAt
    exact Json.not_isAbsent hraw hnull habsent

theorem UpdateIs.unique {b b' : Bool} (h : UpdateIs last b) (h' : UpdateIs last b') : b = b' := by
  rcases h with ⟨hnone, hb⟩ | hb <;> rcases h' with ⟨hnone', hb'⟩ | hb'
  · rw [hb, hb']
  · rw [hnone] at hb'
    cases hb'
  · rw [hnone'] at hb
    cases hb
  · exact Json.bool.inj (Option.some.inj (hb.symm.trans hb'))

theorem Submission.IsUnder.unique {s s' : Submission} (h : s.IsUnder last) (h' : s'.IsUnder last) :
    s = s' := by
  have hjobId := Json.ofInt64_inj (Option.some.inj (h.jobId.symm.trans h'.jobId))
  have hpids := Json.ofInt64s_inj (Option.some.inj (h.pids.symm.trans h'.pids))
  have hupdate := h.update.unique h'.update
  obtain ⟨raw, hraw, -, htime⟩ := h.createdAt
  obtain ⟨raw', hraw', -, htime'⟩ := h'.createdAt
  obtain rfl := Option.some.inj (hraw.symm.trans hraw')
  cases s
  cases s'
  cases hjobId
  cases hpids
  cases hupdate
  cases htime
  cases htime'
  rfl

theorem Submission.Outcome.unreadable_iff {result : Except DecodeError Submission}
    (h : Submission.Outcome last result) :
    (∃ e, result = .error (.unreadable e)) ↔ ¬ FieldsFit last := by
  cases h with
  | misfit h => exact ⟨fun _ => h.not_fit, fun _ => ⟨_, rfl⟩⟩
  | missing hfit _ =>
    refine ⟨?_, fun hmisfit => absurd hfit hmisfit⟩
    rintro ⟨e, he⟩
    cases he
  | complete h =>
    refine ⟨?_, fun hmisfit => absurd h.fit hmisfit⟩
    rintro ⟨e, he⟩
    cases he

/-- There is only one thing that the values under the keys can be decoded as. -/
theorem Submission.Outcome.unique {result result' : Except DecodeError Submission}
    (h : Submission.Outcome last result) (h' : Submission.Outcome last result') :
    result = result' := by
  cases h with
  | misfit h =>
    cases h' with
    | misfit h' => rw [h.unique h']
    | missing hfit => exact absurd hfit h.not_fit
    | complete h' => exact absurd h'.fit h.not_fit
  | missing hfit h =>
    cases h' with
    | misfit h' => exact absurd hfit h'.not_fit
    | missing _ h' =>
      obtain ⟨rfl, rfl⟩ := h.unique h'
      rfl
    | complete h' => exact absurd h h'.not_missing
  | complete h =>
    cases h' with
    | misfit h' => exact absurd h.fit h'.not_fit
    | missing _ h' => exact absurd h' h.not_missing
    | complete h' => rw [h.unique h']

end

/-! ## Decoding members -/

/-- What the decoder makes of the members of an object. -/
def Submission.ofMembers (members : List (String × Json)) : Except DecodeError Submission :=
  match SubmissionRecord.ofMembers members with
  | .error e => .error (.unreadable e)
  | .ok r => r.toSubmission

/-- Only the values under the four keys count. -/
theorem Submission.ofMembers_congr {members members' : List (String × Json)}
    (h : ∀ key ∈ [jobIdKey, pidsKey, createdAtKey, updateKey],
      Json.member? key members = Json.member? key members') :
    Submission.ofMembers members = Submission.ofMembers members' := by
  rw [ofMembers, ofMembers, SubmissionRecord.ofMembers, SubmissionRecord.ofMembers,
    h jobIdKey (by simp), h pidsKey (by simp), h createdAtKey (by simp), h updateKey (by simp)]

section

variable {last : String → Option Json}

theorem exists_createdAtIs (last : String → Option Json) :
    ∃ createdAt, CreatedAtIs last createdAt ∧
      Json.optionalField (fun v => .ok (CreationTime.ofJson v)) (last createdAtKey)
        = .ok createdAt := by
  cases hfield : last createdAtKey with
  | none => exact ⟨none, .inl hfield, rfl⟩
  | some v =>
    by_cases hv : v = .null
    · rw [hv] at hfield ⊢
      exact ⟨none, .inr hfield, rfl⟩
    · exact ⟨some (.ofJson v), ⟨v, hfield, hv, rfl⟩, Json.optionalField_some hv⟩

/-- A record whose fields are what stands under the keys is complete, or the first field that is left
    out is reported. -/
theorem SubmissionRecord.outcome_toSubmission (r : SubmissionRecord)
    (hjobId : Json.FieldIs Json.ofInt64 (last jobIdKey) r.jobId)
    (hpids : Json.FieldIs Json.ofInt64s (last pidsKey) r.pids)
    (hcreatedAt : CreatedAtIs last r.createdAt) (hupdate : UpdateIs last r.isUpdate) :
    Submission.Outcome last r.toSubmission := by
  have hfit : FieldsFit last := ⟨hjobId.fits, hpids.fits, hupdate.fits⟩
  obtain ⟨jobId, pids, createdAt, isUpdate⟩ := r
  cases jobId with
  | none => exact .missing hfit (.jobId hjobId)
  | some n =>
    cases pids with
    | none => exact .missing hfit (.pids hjobId hpids)
    | some ns =>
      cases createdAt with
      | none => exact .missing hfit (.createdAt hjobId hpids hcreatedAt)
      | some t => exact .complete ⟨hjobId, hpids, hcreatedAt, hupdate⟩

/-- **Members come to what the values under the four keys say.** -/
theorem Submission.outcome_ofMembers {members : List (String × Json)}
    (hlast : ∀ key, Json.member? key members = last key) :
    Submission.Outcome last (Submission.ofMembers members) := by
  obtain ⟨createdAt, hcreatedAt, htime⟩ := exists_createdAtIs last
  rw [ofMembers, SubmissionRecord.ofMembers, hlast, hlast, hlast, hlast, htime]
  dsimp only
  -- Each field in its turn may be of the wrong type, and ends it then.
  rcases Json.optionalField_cases Json.toInt64_eq_ok_iff (last jobIdKey) with
    ⟨jobId, hjobId, hid⟩ | ⟨hmisfit, v, e, hv, he, hid⟩
  case inr =>
    rw [hid]
    exact .misfit (.jobId hmisfit hv he)
  rw [hid]
  dsimp only
  rcases Json.optionalField_cases Json.toInt64s_eq_ok_iff (last pidsKey) with
    ⟨pids, hpids, hlist⟩ | ⟨hmisfit, v, e, hv, he, hlist⟩
  case inr =>
    rw [hlist]
    exact .misfit (.pids hjobId.fits hmisfit hv he)
  rw [hlist]
  dsimp only
  cases hfield : last updateKey with
  | none =>
    exact SubmissionRecord.outcome_toSubmission ⟨jobId, pids, createdAt, false⟩ hjobId hpids
      hcreatedAt (.inl ⟨hfield, rfl⟩)
  | some v =>
    rw [Option.map_some]
    cases hv : v.toBool with
    | ok isUpdate =>
      rw [(Json.toBool_eq_ok_iff v isUpdate).1 hv] at hfield
      exact SubmissionRecord.outcome_toSubmission ⟨jobId, pids, createdAt, isUpdate⟩ hjobId hpids
        hcreatedAt (.inr hfield)
    | error e =>
      exact .misfit (.update hjobId.fits hpids.fits (not_updateFits hfield hv) hfield hv)

end

/-! ## Decoding a written object -/

/-- The value that is written last under a key. -/
def Json.lastUnder (members : List (String × Json)) (key : String) : Option Json :=
  members.reverse.lookup key

/-- The last value under each key is found in the members as they are sorted. -/
theorem Json.member?_sorted (members : List (String × Json)) (key : String) :
    Json.member? key (members.foldl (fun sorted m => Json.insertMember m.1 m.2 sorted) [])
      = Json.lastUnder members key := by
  rw [Json.member?_foldl_insertMember, Json.member?, Option.or_none, lastUnder]

/-- Something in the object has no value. -/
theorem Submission.decode_of_valueless {o : Json.WrittenObject} (h : o.members? = none) :
    ∃ e, Submission.decode o.bytes = .error (.unreadable (.text e)) := by
  have hread := Json.read_written o.fits_text
  have hvalue : o.text.value? = o.members?.map .ofMembers := rfl
  rw [hvalue, h] at hread
  obtain ⟨e, he⟩ := hread
  exact ⟨e, by rw [decode, Json.WrittenObject.bytes, he]⟩

/-- What is written is decoded by its members. -/
theorem Submission.decode_of_members? {o : Json.WrittenObject} {members : List (String × Json)}
    (h : o.members? = some members) :
    Submission.decode o.bytes = Submission.ofMembers
      (members.foldl (fun sorted m => Json.insertMember m.1 m.2 sorted) []) := by
  have hread := Json.read_written o.fits_text
  have hvalue : o.text.value? = o.members?.map .ofMembers := rfl
  rw [hvalue, h] at hread
  have hread : Json.read o.bytes = .ok (.ofMembers members) := hread
  rw [decode, hread, Json.ofMembers]
  rfl

/-- **A written object is decoded by the values that are written last under the four keys.** It is
    unreadable if something without a value stands anywhere in it. Otherwise there is one outcome, which is
    unreadable exactly if a field has a value of a wrong type, and only the values under the four keys count.
    A value is an integer of 64 bits exactly if it is written as one. -/
theorem Submission.decode_written (o : Json.WrittenObject) :
    (o.text.HoldsValueless →
      ∃ e, Submission.decode o.bytes = .error (.unreadable (.text e))) ∧
    (¬ o.text.HoldsValueless → ∃ members, o.members? = some members ∧
      (∀ result, Submission.decode o.bytes = result ↔
        Submission.Outcome (Json.lastUnder members) result) ∧
      ((∃ e, Submission.decode o.bytes = .error (.unreadable e)) ↔
        ¬ Json.FieldFits Json.ofInt64 (Json.lastUnder members jobIdKey) ∨
        ¬ Json.FieldFits Json.ofInt64s (Json.lastUnder members pidsKey) ∨
        ¬ UpdateFits (Json.lastUnder members)) ∧
      ∀ (o' : Json.WrittenObject) members', o'.members? = some members' →
        (∀ key ∈ [jobIdKey, pidsKey, createdAtKey, updateKey],
          Json.lastUnder members key = Json.lastUnder members' key) →
        Submission.decode o.bytes = Submission.decode o'.bytes) ∧
    ∀ (v : Json.Written) (n : Int64), v.value? = some (.ofInt64 n) ↔
      ∃ w, v.bare = .number w ∧ w.IsInteger ∧ w.integer = n.toInt := by
  rw [← o.members?_eq_none_iff]
  refine ⟨Submission.decode_of_valueless, fun hvalues => ?_, Json.Written.value?_eq_ofInt64_iff⟩
  obtain ⟨members, hmembers⟩ := Option.ne_none_iff_exists'.1 hvalues
  have hdecode := Submission.decode_of_members? hmembers
  have houtcome := Submission.outcome_ofMembers (Json.member?_sorted members)
  rw [← hdecode] at houtcome
  refine ⟨members, hmembers, fun result => ⟨?_, houtcome.unique⟩, ?_,
    fun o' members' hmembers' hsame => ?_⟩
  · rintro rfl
    exact houtcome
  · rw [← not_fieldsFit_iff]
    exact houtcome.unreadable_iff
  · rw [hdecode, Submission.decode_of_members? hmembers']
    refine Submission.ofMembers_congr fun key hkey => ?_
    rw [Json.member?_sorted, Json.member?_sorted, hsame key hkey]

/-! ### Objects that are refused although their fields are of the right types -/

/-- Characters that stand for themselves. -/
def Json.plainUnits (text : String) : List Json.StringUnit :=
  text.toList.filterMap fun c =>
    if h : c ≠ '"' ∧ c ≠ '\\' ∧ ¬ c.toNat < 0x20 then some (.plain c h.1 h.2.1 h.2.2) else none

/-- A submission of one process at an unknown time, with a member that is no field of it. -/
def Json.WrittenObject.extended (jobId : Json.WrittenNumber) (extra : Json.Written)
    (h : extra.Fits (Json.maxDepth - 1)) : Json.WrittenObject where
  members := [
    ({ units := Json.plainUnits jobIdKey }, .number jobId),
    ({ units := Json.plainUnits pidsKey }, .array [] [.number { whole := .positive 0 [] }]),
    ({ units := Json.plainUnits createdAtKey },
      .number { isNegative := true, whole := .positive 0 [] }),
    ({ units := Json.plainUnits "x" }, extra)]
  fits := by
    intro m hm
    simp only [List.mem_cons, List.not_mem_nil, or_false] at hm
    rcases hm with rfl | rfl | rfl | rfl
    · exact .number jobId
    · refine .array fun v hv => ?_
      rw [List.mem_singleton.1 hv]
      exact .number _
    · exact .number _
    · exact h

/-- A number that is too large. -/
def Json.WrittenNumber.large : Json.WrittenNumber where
  whole := .positive 0 []
  exponent := some { digits := ⟨Fin.last 9, [Fin.last 9, Fin.last 9]⟩ }

/-- Another member is a number that is too large. -/
def Json.WrittenObject.withLargeNumber : Json.WrittenObject :=
  .extended { whole := .positive 1 [] } (.number .large) (.number .large)

/-- Another member is half of a surrogate pair. -/
def Json.WrittenObject.withHalfPair : Json.WrittenObject :=
  .extended { whole := .positive 1 [] }
    (.string [.code ⟨⟨13, false⟩, ⟨8, false⟩, ⟨0, false⟩, ⟨0, false⟩⟩]) (.string _)

/-- Minus zero, as it is written without point and exponent. -/
def Json.WrittenNumber.minusZero : Json.WrittenNumber where
  isNegative := true
  whole := .zero

/-- The job is minus zero. -/
def Json.WrittenObject.withMinusZero : Json.WrittenObject := .extended .minusZero .null .null

/-- The keys and the values that are written, one by one. -/
def Json.WrittenObject.parts (o : Json.WrittenObject) : List (Option String × Option Json) :=
  o.members.map fun m => (Json.unitText? m.1.units, m.2.value?)

/-- All fields are there and of their types, and another member has no value. -/
def Json.WrittenObject.IsValuelessElsewhere (o : Json.WrittenObject) : Prop :=
  o.parts = [(some jobIdKey, some (.ofInt64 2)), (some pidsKey, some (.ofInt64s [1])),
    (some createdAtKey, some (.ofInt64 (-1))), (some "x", none)]

/-- **An object is refused for a member that is no field, if this has no value.** Minus zero is written as
    an integer and is none. -/
theorem Submission.refused_elsewhere :
    (Json.WrittenObject.withLargeNumber.bytes
        = .ofText "\x7b\"JobID\":2,\"JobPIDs\":[1],\"JobCreateTime\":-1,\"x\":1e999\x7d" ∧
      Json.WrittenObject.withLargeNumber.IsValuelessElsewhere ∧
      Submission.decode Json.WrittenObject.withLargeNumber.bytes
        = .error (.unreadable (.text .numberOutOfRange))) ∧
    (Json.WrittenObject.withHalfPair.bytes = .ofText
        "\x7b\"JobID\":2,\"JobPIDs\":[1],\"JobCreateTime\":-1,\"x\":\"\\ud800\"\x7d" ∧
      Json.WrittenObject.withHalfPair.IsValuelessElsewhere ∧
      Submission.decode Json.WrittenObject.withHalfPair.bytes
        = .error (.unreadable (.text .unfinishedPair))) ∧
    (Json.WrittenObject.withMinusZero.bytes
        = .ofText "\x7b\"JobID\":-0,\"JobPIDs\":[1],\"JobCreateTime\":-1,\"x\":null\x7d" ∧
      Json.WrittenNumber.minusZero.integer = 0 ∧
      ∃ e, Submission.decode Json.WrittenObject.withMinusZero.bytes = .error (.unreadable e)) := by
  refine ⟨⟨by decide, ?_, rfl⟩, ⟨by decide, ?_, rfl⟩, ⟨by decide, rfl, _, rfl⟩⟩
  · rw [Json.WrittenObject.IsValuelessElsewhere]
    decide
  · rw [Json.WrittenObject.IsValuelessElsewhere]
    decide

end JobMonitor
