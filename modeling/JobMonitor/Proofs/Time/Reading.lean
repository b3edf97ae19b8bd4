import JobMonitor.Proofs.Time.Written

set_option autoImplicit false

/-! # Written times are read as what they name

A submitted time is read in one of three ways: with an offset behind it in the exchange format, and without
one in a format for each separator. At most one of them succeeds on a written time, and what it gives is the
instant that the time names (`WrittenTime.readTimestamp_text`). -/

namespace JobMonitor

/-! ## Reading the fields -/

namespace WrittenTime

/-- Date and clock as they are read. -/
def fields (w : WrittenTime) : LocalTime :=
  ⟨(w.year : Nat), w.month, w.day, w.hour, w.minute, w.second, fractionNanos w.fraction⟩

/-- The fields are in the ranges that are checked while they are read. -/
def FieldsInRange (w : WrittenTime) : Prop :=
  (1 ≤ w.month.val ∧ w.month.val ≤ 12) ∧ (1 ≤ w.day.val ∧ w.day.val ≤ 31) ∧ w.hour.val ≤ 23 ∧
    w.minute.val ≤ 59 ∧ w.second.val ≤ 60

theorem scanNumber_year (year : Fin 10000) {least : Nat} (hleast : least ≤ 4) (rest : List Char) :
    scanNumber least 4 (paddedDigits 4 year ++ rest) = .ok (year.val, rest) := by
  have hlength := length_paddedDigits_four year.isLt
  rw [scanNumber_append (fun _ => isDigitChar_of_mem_paddedDigits) (by omega) (by omega) (.inl hlength),
    decimalValue_paddedDigits]

theorem scanOptionalFraction_chars (w : WrittenTime) :
    scanOptionalFraction (fractionChars w.fraction ++ w.suffix.chars)
      = .ok (fractionNanos w.fraction, w.suffix.chars) :=
  scanOptionalFraction_fractionChars_append w.fraction w.suffix.stopsDigits_chars
    w.suffix.head?_chars_ne_point

/-- In the exchange format a time is read that has an offset. -/
theorem readExchange_chars {w : WrittenTime} {i : Instant} : readExchange w.chars = .ok i ↔
    w.FieldsInRange ∧ (w.suffix ≠ .none ∧ w.suffix.MinutesExist) ∧
      w.fields.instant w.suffix.seconds = .ok i := by
  have hdate : ∀ rest, scanDateEnd (w.separator.char :: rest) = .ok rest := by
    intro rest
    cases w.separator <;> rfl
  have hend : scanEnd [] = .ok () := rfl
  rw [readExchange, scanExchange, chars]
  simp only [bind_assoc, pure_bind, ok_bind, scanNumber_year _ (Nat.le_refl 4), scanChar, if_true, hdate,
    scanTwo_paddedDigits_eq w.month.isLt, scanTwo_paddedDigits_eq w.day.isLt,
    scanTwo_paddedDigits_eq w.hour.isLt, scanTwo_paddedDigits_eq w.minute.isLt,
    scanTwo_paddedDigits_eq w.second.isLt, ite_bind_eq_ok_iff, w.scanOptionalFraction_chars,
    TimeSuffix.scanOffset_bind_eq_ok_iff, hend, Nat.zero_le, true_and, FieldsInRange, and_assoc, fields]

theorem scanYear_year (year : Fin 10000) (rest : List Char) :
    scanYear (paddedDigits 4 year ++ rest) = .ok ((year.val : Int), rest) := by
  obtain ⟨c, digits, hcons⟩ := List.exists_cons_of_ne_nil (paddedDigits_ne_nil 4 year.val)
  have hc : isDigitChar c = true :=
    isDigitChar_of_mem_paddedDigits (hcons ▸ List.mem_cons_self : c ∈ paddedDigits 4 year.val)
  have hscan := scanNumber_year year (show 1 ≤ 4 by decide) rest
  rw [hcons, List.cons_append] at hscan ⊢
  exact scanYear_of_digit hc hscan

section

variable {w : WrittenTime} {separator : List Char → Except TimeError (List Char)} {i : Instant}

/-- Without an offset a time is read if its separator is the one that the format has. -/
theorem readNaive_chars
    (hseparator : ∀ rest, separator (w.separator.char :: (paddedDigits 2 w.hour ++ rest))
      = .ok (paddedDigits 2 w.hour ++ rest)) :
    readNaive separator w.chars = .ok i ↔
      w.FieldsInRange ∧ w.suffix = .none ∧ w.fields.instant 0 = .ok i := by
  rw [readNaive, scanNaive, chars]
  simp only [bind_assoc, pure_bind, ok_bind, scanYear_year, scanChar, if_true, hseparator,
    scanLenient_paddedDigits_eq w.month.isLt, scanLenient_paddedDigits_eq w.day.isLt,
    scanLenient_paddedDigits_eq w.hour.isLt, scanLenient_paddedDigits_eq w.minute.isLt,
    scanLenient_paddedDigits_eq w.second.isLt, ite_bind_eq_ok_iff, w.scanOptionalFraction_chars,
    TimeSuffix.scanEnd_bind_eq_ok_iff, Nat.zero_le, true_and, FieldsInRange, and_assoc, fields]

/-- A time is not read if there is no hour behind the separator of the format. -/
theorem readNaive_chars_ne_ok
    (hseparator : ∀ rest, ∃ e, (separator (w.separator.char :: rest) >>= scanLenient 0 23) = .error e) :
    readNaive separator w.chars ≠ .ok i := by
  have hstop : ∀ {α : Type} (rest : List Char) (f : Nat × List Char → Except TimeError α) (a : α),
      (separator (w.separator.char :: rest) >>= fun s => scanLenient 0 23 s >>= f) ≠ .ok a := by
    intro α rest f a h
    obtain ⟨e, he⟩ := hseparator rest
    rw [← bind_assoc, he] at h
    cases h
  intro h
  rw [readNaive, scanNaive, chars] at h
  simp only [bind_assoc, ok_bind, scanYear_year, scanChar, if_true,
    scanLenient_paddedDigits_eq w.month.isLt, scanLenient_paddedDigits_eq w.day.isLt,
    ite_bind_eq_ok_iff] at h
  exact hstop _ _ _ h.2.2

/-- Blanks are passed over, and nothing else. -/
theorem readNaiveBlank_chars : readNaiveBlank w.chars = .ok i ↔
    w.separator = .blank ∧ w.FieldsInRange ∧ w.suffix = .none ∧ w.fields.instant 0 = .ok i := by
  rw [readNaiveBlank]
  cases hseparator : w.separator with
  | blank =>
    refine (readNaive_chars fun rest => ?_).trans (and_iff_right rfl).symm
    rw [hseparator]
    exact congrArg Except.ok (trimFront_paddedDigits w.hour.val rest)
  | letter =>
    refine iff_of_false (readNaive_chars_ne_ok fun rest => ?_) fun h => TimeSeparator.noConfusion h.1
    have hletter : isBlankChar 'T' = false := by decide
    obtain ⟨e, he⟩ := @exists_scanNumber_error 1 2 (by decide) ('T' :: rest)
      (stopsDigits_cons (by decide) rest)
    refine ⟨e, ?_⟩
    rw [hseparator, ok_bind, TimeSeparator.char, trimFront_cons hletter, scanLenient,
      trimFront_cons hletter, scanBetween, he]

/-- The letter is expected. -/
theorem readNaiveT_chars : readNaiveT w.chars = .ok i ↔
    w.separator = .letter ∧ w.FieldsInRange ∧ w.suffix = .none ∧ w.fields.instant 0 = .ok i := by
  rw [readNaiveT]
  cases hseparator : w.separator with
  | blank =>
    refine iff_of_false (readNaive_chars_ne_ok fun rest => ?_) fun h => TimeSeparator.noConfusion h.1
    rw [hseparator]
    exact ⟨.invalid, rfl⟩
  | letter =>
    refine (readNaive_chars fun rest => ?_).trans (and_iff_right rfl).symm
    rw [hseparator]
    rfl

end

/-! ## Reading the text -/

theorem trim_chars (w : WrittenTime) : trim w.chars = w.chars := by
  have hsplit : w.chars = paddedDigits 4 w.year
      ++ ('-' :: (paddedDigits 2 w.month ++ '-' :: (paddedDigits 2 w.day
        ++ w.separator.char :: (paddedDigits 2 w.hour ++ ':' :: (paddedDigits 2 w.minute ++ [':'])))))
      ++ (paddedDigits 2 w.second ++ (fractionChars w.fraction ++ w.suffix.chars)) := by
    simp [chars]
  rw [hsplit]
  refine trim_append_append (paddedDigits_ne_nil 4 _)
    (List.append_ne_nil_of_left_ne_nil (paddedDigits_ne_nil 2 _) _) (fun _ => isBlankChar_of_mem_paddedDigits)
    fun c hc => ?_
  rcases List.mem_append.1 hc with hc | hc
  · exact isBlankChar_of_mem_paddedDigits hc
  · rcases List.mem_append.1 hc with hc | hc
    · exact isBlankChar_of_mem_fractionChars hc
    · exact TimeSuffix.isBlankChar_of_mem_chars hc

/-- A reading that succeeds gives the instant of the fields. -/
theorem of_mem_timeReadings {w : WrittenTime} {read : List Char → Except TimeError Instant}
    (hread : read ∈ timeReadings) {i : Instant} (h : read w.chars = .ok i) :
    w.FieldsInRange ∧ w.suffix.MinutesExist ∧ w.fields.instant w.suffix.seconds = .ok i := by
  simp only [timeReadings, List.mem_cons, List.not_mem_nil, or_false] at hread
  rcases hread with rfl | rfl | rfl
  · obtain ⟨hrange, ⟨-, hminutes⟩, hinstant⟩ := readExchange_chars.1 h
    exact ⟨hrange, hminutes, hinstant⟩
  · obtain ⟨-, hrange, hnone, hinstant⟩ := readNaiveBlank_chars.1 h
    rw [hnone]
    exact ⟨hrange, trivial, hinstant⟩
  · obtain ⟨-, hrange, hnone, hinstant⟩ := readNaiveT_chars.1 h
    rw [hnone]
    exact ⟨hrange, trivial, hinstant⟩

/-- With an offset the first reading succeeds, and without one that of the separator. -/
theorem exists_mem_timeReadings {w : WrittenTime} {i : Instant} (hrange : w.FieldsInRange)
    (hminutes : w.suffix.MinutesExist) (hinstant : w.fields.instant w.suffix.seconds = .ok i) :
    ∃ read ∈ timeReadings, read w.chars = .ok i := by
  by_cases hnone : w.suffix = .none
  · rw [hnone] at hinstant
    cases hseparator : w.separator with
    | blank =>
      exact ⟨readNaiveBlank, by simp [timeReadings],
        readNaiveBlank_chars.2 ⟨hseparator, hrange, hnone, hinstant⟩⟩
    | letter =>
      exact ⟨readNaiveT, by simp [timeReadings],
        readNaiveT_chars.2 ⟨hseparator, hrange, hnone, hinstant⟩⟩
  · exact ⟨readExchange, by simp [timeReadings],
      readExchange_chars.2 ⟨hrange, ⟨hnone, hminutes⟩, hinstant⟩⟩

theorem toOption_eq_some_iff {ε α : Type} {x : Except ε α} {a : α} :
    x.toOption = some a ↔ x = .ok a := by
  cases x with
  | error e => exact iff_of_false nofun nofun
  | ok b =>
    exact ⟨fun h => congrArg Except.ok (Option.some.inj h), fun h => congrArg some (Except.ok.inj h)⟩

theorem readTimestamp_text_eq_some_iff {w : WrittenTime} {i : Instant} :
    readTimestamp w.text = some i ↔
      w.FieldsInRange ∧ w.suffix.MinutesExist ∧ w.fields.instant w.suffix.seconds = .ok i := by
  have hfound : ∀ {i}, (timeReadings.findSome? fun read => (read w.chars).toOption) = some i →
      w.FieldsInRange ∧ w.suffix.MinutesExist ∧ w.fields.instant w.suffix.seconds = .ok i := by
    intro i h
    obtain ⟨read, hread, hi⟩ := List.exists_of_findSome?_eq_some h
    exact of_mem_timeReadings hread (toOption_eq_some_iff.1 hi)
  rw [readTimestamp, text, String.toList_ofList, trim_chars]
  refine ⟨hfound, fun h => ?_⟩
  obtain ⟨read, hread, hi⟩ := exists_mem_timeReadings h.1 h.2.1 h.2.2
  cases hresult : timeReadings.findSome? fun read => (read w.chars).toOption with
  | none =>
    have hnone := List.findSome?_eq_none_iff.1 hresult read hread
    rw [hi] at hnone
    cases hnone
  | some i' =>
    -- The fields have only one instant.
    have hsame := (hfound hresult).2.2.symm.trans h.2.2
    rw [Except.ok.inj hsame]

end WrittenTime

/-! ## The instant of the fields -/

namespace WrittenTime

variable {w : WrittenTime} {i : Instant}

theorem exists_iff : w.Exists ↔ w.FieldsInRange ∧ w.date.isValid = true ∧ w.suffix.Exists := by
  constructor
  · intro h
    have hlength := (@monthLength_bounds (w.year : Nat) w.month h.month.1 h.month.2).2
    refine ⟨⟨h.month, ⟨h.day.1, Nat.le_trans h.day.2 hlength⟩, h.hour, h.minute, h.second⟩, ?_, h.suffix⟩
    exact Date.isValid_iff.2 ⟨h.month, h.day⟩
  · rintro ⟨⟨hmonth, -, hhour, hminute, hsecond⟩, hdate, hsuffix⟩
    exact ⟨hmonth, (Date.isValid_iff.1 hdate).2, hhour, hminute, hsecond, hsuffix⟩

theorem seconds_fields (w : WrittenTime) : w.fields.seconds
    = 86400 * w.date.dayNumber + 3600 * w.hour.val + 60 * w.minute.val + min w.second.val 59 := by
  have hsame : w.fields.date = w.date := rfl
  rw [LocalTime.seconds, hsame]
  simp only [fields]
  omega

theorem names_iff (hdate : w.date.isValid = true) : w.Names i ↔
    i.second = w.fields.seconds - w.suffix.seconds ∧ i.nanos = w.fields.nanoseconds := by
  constructor
  · rintro ⟨⟨days, hdays, hsecond⟩, hnanos⟩
    rw [(Date.isDay_iff.1 hdays).2.symm] at hsecond
    exact ⟨by rw [hsecond, seconds_fields], hnanos⟩
  · rintro ⟨hsecond, hnanos⟩
    exact ⟨⟨w.date.dayNumber, Date.isDay_iff.2 ⟨hdate, rfl⟩, by rw [hsecond, seconds_fields]⟩, hnanos⟩

/-- The fields of a time that exists name an instant. An offset may lead out of the years of four digits,
    but not out of those that there are. -/
theorem exists_names (h : w.Exists) : ∃ i, w.Names i := by
  obtain ⟨⟨-, -, hhour, hminute, hsecond⟩, hdate, hsuffix⟩ := exists_iff.1 h
  have hoffset := (w.suffix.exists_iff.1 hsuffix).2
  have hminutes := w.suffix.seconds_mod
  obtain ⟨hstart, hend⟩ := Date.dayNumber_bounds hdate
  have hyear : w.date.year = (w.year : Nat) := rfl
  have hfirst := daysBeforeYear_le (show (0 : Int) ≤ w.date.year by omega)
  have hlast := daysBeforeYear_le (show w.date.year + 1 ≤ 10000 by omega)
  have hbounds : minSecond ≤ (daysBeforeYear 0 - 1) * 86400 ∧
      (daysBeforeYear 10000 + 1) * 86400 ≤ maxSecond := by decide
  have hseconds := w.seconds_fields
  have hnanos : w.fields.nanoseconds
      = fractionNanos w.fraction + if w.second.val = 60 then 1_000_000_000 else 0 := rfl
  have hfraction := fractionNanos_lt w.fraction
  refine ⟨⟨w.fields.seconds - w.suffix.seconds, w.fields.nanoseconds, ?_, ?_⟩, (names_iff hdate).2 ⟨rfl, rfl⟩⟩
  · omega
  · rw [hnanos]
    split <;> omega

theorem readTimestamp_text_eq_some_iff_names :
    readTimestamp w.text = some i ↔ w.Exists ∧ w.Names i := by
  have hyear : minYear ≤ w.fields.year ∧ w.fields.year ≤ maxYear := by
    have hsame : w.fields.year = (w.year : Nat) := rfl
    rw [hsame, minYear, maxYear]
    omega
  rw [readTimestamp_text_eq_some_iff, LocalTime.instant_eq_ok_iff, exists_iff, TimeSuffix.exists_iff]
  constructor
  · rintro ⟨hrange, hminutes, ⟨-, -, hdate⟩, hoffset, hinstant⟩
    exact ⟨⟨hrange, hdate, hminutes, hoffset⟩, (names_iff hdate).2 hinstant⟩
  · rintro ⟨⟨hrange, hdate, hminutes, hoffset⟩, hnames⟩
    exact ⟨hrange, hminutes, ⟨hyear.1, hyear.2, hdate⟩, hoffset, (names_iff hdate).1 hnames⟩

/-- Suffixes of the same meaning are read alike, although not by the same reader. -/
theorem readTimestamp_suffix (w : WrittenTime) {s s' : TimeSuffix} (hminutes : s.MinutesExist)
    (hminutes' : s'.MinutesExist) (hseconds : s.seconds = s'.seconds) :
    readTimestamp { w with suffix := s }.text = readTimestamp { w with suffix := s' }.text := by
  refine Option.ext fun i => ?_
  rw [readTimestamp_text_eq_some_iff, readTimestamp_text_eq_some_iff]
  dsimp only
  rw [and_iff_right hminutes, and_iff_right hminutes', hseconds]
  exact Iff.rfl

/-- **A written time is read as the instant that it names**, if its fields exist, and otherwise not at all.
    Without a suffix it is in UTC. -/
theorem readTimestamp_text (w : WrittenTime) :
    ((∃ i, readTimestamp w.text = some i) ↔ w.Exists) ∧
    (∀ i, readTimestamp w.text = some i ↔ w.Exists ∧ w.Names i) ∧
    readTimestamp { w with suffix := .none }.text = readTimestamp { w with suffix := .utc }.text ∧
    readTimestamp { w with suffix := .none }.text
      = readTimestamp { w with suffix := .offset false 0 0 }.text := by
  refine ⟨?_, fun i => readTimestamp_text_eq_some_iff_names, w.readTimestamp_suffix trivial trivial rfl,
    w.readTimestamp_suffix trivial (Nat.zero_le _) rfl⟩
  constructor
  · rintro ⟨i, hi⟩
    exact (readTimestamp_text_eq_some_iff_names.1 hi).1
  · intro h
    obtain ⟨i, hi⟩ := exists_names h
    exact ⟨i, readTimestamp_text_eq_some_iff_names.2 ⟨h, hi⟩⟩

end WrittenTime

end JobMonitor
