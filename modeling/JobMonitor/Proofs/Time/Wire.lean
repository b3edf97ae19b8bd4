import JobMonitor.Proofs.Time.Calendar
import JobMonitor.Proofs.Time.Fields
import JobMonitor.Time.Reading

set_option autoImplicit false

/-! # Submitted times are read back

The text that is sent for an instant names the same second when it is read. It is never taken for
the exchange format, which needs an offset, and the years that have more than four digits or a
minus sign are read by their sign. -/

namespace JobMonitor

/-! ## The fields of a time -/

theorem length_paddedDigits_two {n : Nat} (h : n < 100) : (paddedDigits 2 n).length = 2 :=
  length_paddedDigits_of_lt (by decide) h

theorem length_paddedDigits_four {n : Nat} (h : n < 10000) : (paddedDigits 4 n).length = 4 :=
  length_paddedDigits_of_lt (by decide) h

theorem scanTwo_paddedDigits_eq {low high n : Nat} (hn : n < 100) (rest : List Char) :
    scanTwo low high (paddedDigits 2 n ++ rest)
      = if low ≤ n ∧ n ≤ high then .ok (n, rest) else .error .outOfRange := by
  have hlength := length_paddedDigits_two hn
  have hscan := @scanBetween_append 2 2 low high (paddedDigits 2 n) rest
    (fun _ => isDigitChar_of_mem_paddedDigits) (by omega) (by omega) (.inl hlength)
  rwa [decimalValue_paddedDigits] at hscan

theorem scanTwo_paddedDigits {low high n : Nat} (hlow : low ≤ n) (hhigh : n ≤ high)
    (hn : n < 100) (rest : List Char) :
    scanTwo low high (paddedDigits 2 n ++ rest) = .ok (n, rest) :=
  (scanTwo_paddedDigits_eq hn rest).trans (if_pos ⟨hlow, hhigh⟩)

theorem trimFront_paddedDigits {width : Nat} (n : Nat) (rest : List Char) :
    trimFront (paddedDigits width n ++ rest) = paddedDigits width n ++ rest := by
  obtain ⟨c, digits, hcons⟩ := List.exists_cons_of_ne_nil (paddedDigits_ne_nil width n)
  have hc : isDigitChar c = true :=
    isDigitChar_of_mem_paddedDigits (hcons ▸ List.mem_cons_self : c ∈ paddedDigits width n)
  rw [hcons]
  exact trimFront_cons (isBlankChar_of_isDigitChar hc) _

theorem scanLenient_paddedDigits_eq {low high n : Nat} (hn : n < 100) (rest : List Char) :
    scanLenient low high (paddedDigits 2 n ++ rest)
      = if low ≤ n ∧ n ≤ high then .ok (n, rest) else .error .outOfRange := by
  have hlength := length_paddedDigits_two hn
  have hscan := @scanBetween_append 1 2 low high (paddedDigits 2 n) rest
    (fun _ => isDigitChar_of_mem_paddedDigits) (by omega) (by omega) (.inl hlength)
  rwa [decimalValue_paddedDigits, ← trimFront_paddedDigits n rest] at hscan

theorem scanLenient_paddedDigits {low high n : Nat} (hlow : low ≤ n) (hhigh : n ≤ high)
    (hn : n < 100) (rest : List Char) :
    scanLenient low high (paddedDigits 2 n ++ rest) = .ok (n, rest) :=
  (scanLenient_paddedDigits_eq hn rest).trans (if_pos ⟨hlow, hhigh⟩)

/-! ## Years -/

/-- A year has a sign, or four digits and none. -/
theorem yearChars_cases (year : Int) :
    (year < 0 ∧ yearChars year = '-' :: paddedDigits 4 year.natAbs) ∨
      (0 ≤ year ∧ year ≤ 9999 ∧ yearChars year = paddedDigits 4 year.toNat) ∨
      (9999 < year ∧ yearChars year = '+' :: paddedDigits 4 year.toNat) := by
  rw [yearChars]
  split
  · next hneg => exact .inl ⟨hneg, rfl⟩
  · next hpos =>
    split
    · next hfour => exact .inr (.inl ⟨Int.not_lt.1 hpos, hfour, rfl⟩)
    · next hfour => exact .inr (.inr ⟨Int.not_le.1 hfour, rfl⟩)

/-- Behind a sign the digits of a year may be any number. -/
theorem scanNumber_signedYear (n : Nat) {rest : List Char} (hrest : StopsDigits rest) :
    scanNumber 1 (paddedDigits 4 n ++ rest).length (paddedDigits 4 n ++ rest) = .ok (n, rest) := by
  have hwidth : 4 ≤ (paddedDigits 4 n).length := by
    rw [length_paddedDigits]
    exact Nat.le_max_left _ _
  have hscan := @scanNumber_append 1 (paddedDigits 4 n ++ rest).length (paddedDigits 4 n) rest
    (fun _ => isDigitChar_of_mem_paddedDigits) (by omega) (by rw [List.length_append]; omega)
    (.inr hrest)
  rwa [decimalValue_paddedDigits] at hscan

/-- A digit in front is no sign. -/
theorem scanYear_of_digit {c : Char} (hc : isDigitChar c = true) {s rest : List Char} {n : Nat}
    (hscan : scanNumber 1 4 (c :: s) = .ok (n, rest)) : scanYear (c :: s) = .ok ((n : Int), rest) := by
  rw [scanYear, trimFront_cons (isBlankChar_of_isDigitChar hc)]
  split
  · next heq =>
    rw [(List.cons.inj heq).1] at hc
    exact absurd hc (by decide)
  · next heq =>
    rw [(List.cons.inj heq).1] at hc
    exact absurd hc (by decide)
  · rw [hscan]

/-- A year of the calendar is read back, whatever sign and number of digits it has. -/
theorem scanYear_yearChars {year : Int} (hlow : minYear ≤ year) (hhigh : year ≤ maxYear)
    {rest : List Char} (hrest : StopsDigits rest) :
    scanYear (yearChars year ++ rest) = .ok (year, rest) := by
  simp only [minYear] at hlow
  simp only [maxYear] at hhigh
  rcases yearChars_cases year with ⟨hneg, hchars⟩ | ⟨hpos, hfour, hchars⟩ | ⟨hpos, hchars⟩
  · rw [hchars, List.cons_append, scanYear, trimFront_cons (by decide)]
    simp only [scanNumber_signedYear _ hrest]
    rw [if_pos (by simp only [maxYearNumber]; omega), Int.ofNat_natAbs_of_nonpos (by omega),
      Int.neg_neg]
  · have hlength : (paddedDigits 4 year.toNat).length = 4 := length_paddedDigits_four (by omega)
    have hscan := @scanNumber_append 1 4 (paddedDigits 4 year.toNat) rest
      (fun _ => isDigitChar_of_mem_paddedDigits) (by omega) (by omega) (.inl hlength)
    obtain ⟨c, digits, hcons⟩ := List.exists_cons_of_ne_nil (paddedDigits_ne_nil 4 year.toNat)
    have hc : isDigitChar c = true :=
      isDigitChar_of_mem_paddedDigits (hcons ▸ List.mem_cons_self : c ∈ paddedDigits 4 year.toNat)
    rw [decimalValue_paddedDigits] at hscan
    rw [hchars]
    rw [hcons, List.cons_append] at hscan ⊢
    rw [scanYear_of_digit hc hscan, Int.toNat_of_nonneg hpos]
  · rw [hchars, List.cons_append, scanYear, trimFront_cons (by decide)]
    simp only [scanNumber_signedYear _ hrest]
    rw [if_pos (by simp only [maxYearNumber]; omega), Int.toNat_of_nonneg (by omega)]

theorem isBlankChar_of_mem_yearChars {year : Int} {c : Char} (h : c ∈ yearChars year) :
    isBlankChar c = false := by
  rcases yearChars_cases year with ⟨-, hchars⟩ | ⟨-, -, hchars⟩ | ⟨-, hchars⟩
  · rw [hchars] at h
    rcases List.mem_cons.1 h with rfl | h
    · decide
    · exact isBlankChar_of_mem_paddedDigits h
  · rw [hchars] at h
    exact isBlankChar_of_mem_paddedDigits h
  · rw [hchars] at h
    rcases List.mem_cons.1 h with rfl | h
    · decide
    · exact isBlankChar_of_mem_paddedDigits h

theorem yearChars_ne_nil (year : Int) : yearChars year ≠ [] := by
  rcases yearChars_cases year with ⟨-, hchars⟩ | ⟨-, -, hchars⟩ | ⟨-, hchars⟩
  · rw [hchars]
    exact List.cons_ne_nil _ _
  · rw [hchars]
    exact paddedDigits_ne_nil 4 _
  · rw [hchars]
    exact List.cons_ne_nil _ _

/-! ## What is written -/

/-- Date and clock that are written for an instant, without its fraction. -/
def Instant.shown (t : Instant) : LocalTime where
  year := t.date.year
  month := t.date.month
  day := t.date.day
  hour := t.secondOfDay / 3600
  minute := t.secondOfDay / 60 % 60
  second := t.secondOfDay % 60 + if t.isLeap then 1 else 0
  nanos := 0

theorem Instant.secondOfDay_lt (t : Instant) : t.secondOfDay < 86400 := by
  rw [secondOfDay]
  omega

/-- An instant lies in the years that there are. -/
theorem Instant.year_range (t : Instant) : minYear ≤ t.date.year ∧ t.date.year ≤ maxYear := by
  obtain ⟨hstart, hend⟩ := daysBeforeYear_yearOfDay (t.second / 86400)
  obtain ⟨hlow, hhigh⟩ := t.second_range
  rw [minSecond] at hlow
  rw [maxSecond] at hhigh
  have hfirst : minYear < yearOfDay (t.second / 86400) + 1 :=
    lt_of_daysBeforeYear_lt (by omega)
  have hlast : yearOfDay (t.second / 86400) < maxYear + 1 :=
    lt_of_daysBeforeYear_lt (by omega)
  exact ⟨Int.lt_add_one_iff.1 hfirst, Int.lt_add_one_iff.1 hlast⟩

/-- Fields of a date and a clock that exist. -/
theorem Instant.shown_fields (t : Instant) :
    (1 ≤ t.shown.month ∧ t.shown.month ≤ 12) ∧ (1 ≤ t.shown.day ∧ t.shown.day ≤ 31) ∧
      t.shown.hour ≤ 23 ∧ t.shown.minute ≤ 59 ∧ t.shown.second ≤ 60 := by
  have hvalid : t.date.isValid = true := (Date.ofDayNumber_spec _).1
  obtain ⟨⟨hmonth, hmonth'⟩, hday, hday'⟩ := Date.isValid_iff.1 hvalid
  have hlength := (@monthLength_bounds t.date.year _ hmonth hmonth').2
  have hclock := t.secondOfDay_lt
  refine ⟨⟨hmonth, hmonth'⟩, ⟨hday, Nat.le_trans hday' hlength⟩, ?_, ?_, ?_⟩
  · simp only [shown]
    omega
  · simp only [shown]
    omega
  · simp only [shown]
    split <;> omega

/-- A leap second is counted as the one before it, the last of a minute. -/
theorem Instant.second_of_isLeap {t : Instant} (h : t.isLeap = true) : t.second % 60 = 59 := by
  have hnanos := t.nanos_range
  have hbillion : t.nanos ≥ 1_000_000_000 := of_decide_eq_true h
  omega

/-- Only a leap second is shown as the sixtieth. -/
theorem Instant.shown_second_eq_iff (t : Instant) : t.shown.second = 60 ↔ t.isLeap = true := by
  simp only [shown, secondOfDay]
  cases h : t.isLeap with
  | true =>
    have := Instant.second_of_isLeap h
    simp only [↓reduceIte, iff_true]
    omega
  | false =>
    simp only [Bool.false_eq_true, ↓reduceIte, iff_false]
    omega

theorem Instant.seconds_shown (t : Instant) : t.shown.seconds = t.second := by
  have hdate : t.shown.date = Date.ofDayNumber (t.second / 86400) := rfl
  rw [LocalTime.seconds, hdate, (Date.ofDayNumber_spec _).2]
  simp only [shown, secondOfDay]
  cases h : t.isLeap with
  | true =>
    have := Instant.second_of_isLeap h
    simp only [↓reduceIte]
    omega
  | false =>
    simp only [Bool.false_eq_true, ↓reduceIte]
    omega

/-- With a fraction the fields name the instant of the same second that has it. -/
theorem Instant.instant_shown_with {t i : Instant} {nanos : Nat} (hsecond : i.second = t.second)
    (hnanos : i.nanos = nanos + if t.isLeap then 1_000_000_000 else 0) :
    LocalTime.instant { t.shown with nanos } 0 = .ok i := by
  obtain ⟨hvalid, -⟩ := Date.ofDayNumber_spec (t.second / 86400)
  have hyear := t.year_range
  have hseconds : i.second = LocalTime.seconds { t.shown with nanos } - 0 := by
    rw [hsecond, Int.sub_zero]
    exact t.seconds_shown.symm
  have hnanos' : i.nanos = LocalTime.nanoseconds { t.shown with nanos } := by
    rw [hnanos, LocalTime.nanoseconds]
    simp only [t.shown_second_eq_iff]
  exact LocalTime.instant_eq_ok_iff.2 ⟨⟨hyear.1, hyear.2, hvalid⟩, by decide, hseconds, hnanos'⟩

/-- The fields name the second that they were taken from. -/
theorem Instant.instant_shown (t : Instant) : t.shown.instant 0 = .ok t.wholeSecond :=
  Instant.instant_shown_with rfl (Nat.zero_add _).symm

/-! ## Reading what was written -/

theorem TimeNotation.wire_chars (t : Instant) :
    wire.chars t = yearChars t.shown.year ++ '-' :: (paddedDigits 2 t.shown.month
      ++ '-' :: (paddedDigits 2 t.shown.day ++ ' ' :: (paddedDigits 2 t.shown.hour
        ++ ':' :: (paddedDigits 2 t.shown.minute ++ ':' :: paddedDigits 2 t.shown.second)))) := by
  simp [TimeNotation.chars, wire, Date.chars, Instant.clockChars, Instant.shown]

/-- The fields are found one after the other. -/
theorem scanNaive_wire (t : Instant) :
    scanNaive (fun s => .ok (trimFront s)) (TimeNotation.wire.chars t) = .ok (t.shown, []) := by
  obtain ⟨hlow, hhigh⟩ := t.year_range
  obtain ⟨⟨hmonth, hmonth'⟩, ⟨hday, hday'⟩, hhour, hminute, hsecond⟩ := t.shown_fields
  have hyear := fun rest => scanYear_yearChars hlow hhigh
    (stopsDigits_cons (show isDigitChar '-' = false by decide) rest)
  have hlast := scanLenient_paddedDigits (Nat.zero_le t.shown.second) hsecond (by omega) []
  have hblank : ∀ rest, trimFront (' ' :: (paddedDigits 2 t.shown.hour ++ rest))
      = paddedDigits 2 t.shown.hour ++ rest := trimFront_paddedDigits t.shown.hour
  rw [List.append_nil] at hlast
  rw [TimeNotation.wire_chars, scanNaive]
  simp only [bind, Except.bind, pure, Except.pure, scanChar, if_true, hblank, hlast,
    show t.shown.year = t.date.year from rfl, hyear,
    scanLenient_paddedDigits hmonth hmonth' (by omega), scanLenient_paddedDigits hday hday' (by omega),
    scanLenient_paddedDigits (Nat.zero_le _) hhour (by omega),
    scanLenient_paddedDigits (Nat.zero_le _) hminute (by omega), scanOptionalFraction]
  rfl

theorem exists_scanExchange_of_sign {sign : Char} (hsign : isDigitChar sign = false) (s : List Char) :
    ∃ e, scanExchange (sign :: s) = .error e := by
  obtain ⟨e, he⟩ := @exists_scanNumber_error 4 4 (by decide) _ (stopsDigits_cons hsign s)
  exact ⟨e, by rw [scanExchange, he]; rfl⟩

/-- The exchange format wants an offset at the end, and a year without a sign. -/
theorem exists_scanExchange_error (t : Instant) :
    ∃ e, scanExchange (TimeNotation.wire.chars t) = .error e := by
  obtain ⟨⟨hmonth, hmonth'⟩, ⟨hday, hday'⟩, hhour, hminute, hsecond⟩ := t.shown_fields
  have hlast := scanTwo_paddedDigits (Nat.zero_le t.shown.second) hsecond (by omega) []
  rw [List.append_nil] at hlast
  rw [TimeNotation.wire_chars]
  rcases yearChars_cases t.shown.year with ⟨-, hchars⟩ | ⟨hpos, hfour, hchars⟩ | ⟨-, hchars⟩
  · rw [hchars]
    exact exists_scanExchange_of_sign (by decide) _
  · have hlength : (paddedDigits 4 t.shown.year.toNat).length = 4 :=
      length_paddedDigits_four (by omega)
    have hyear := fun rest => @scanNumber_append 4 4 (paddedDigits 4 t.shown.year.toNat) rest
      (fun _ => isDigitChar_of_mem_paddedDigits) (by omega) (by omega) (.inl hlength)
    -- Everything is found but the offset.
    rw [hchars, scanExchange]
    refine ⟨.tooShort, ?_⟩
    simp only [bind, Except.bind, scanChar, if_true, hyear, hlast, scanDateEnd, or_true,
      scanTwo_paddedDigits hmonth hmonth' (by omega), scanTwo_paddedDigits hday hday' (by omega),
      scanTwo_paddedDigits (Nat.zero_le _) hhour (by omega),
      scanTwo_paddedDigits (Nat.zero_le _) hminute (by omega), scanOptionalFraction, scanOffset,
      scanSign]
  · rw [hchars]
    exact exists_scanExchange_of_sign (by decide) _

/-- The text begins with its year and ends with its second. -/
theorem trim_wire (t : Instant) :
    trim (TimeNotation.wire.chars t) = TimeNotation.wire.chars t := by
  have hsplit : TimeNotation.wire.chars t = yearChars t.shown.year
      ++ ('-' :: (paddedDigits 2 t.shown.month ++ '-' :: (paddedDigits 2 t.shown.day
        ++ ' ' :: (paddedDigits 2 t.shown.hour ++ ':' :: (paddedDigits 2 t.shown.minute ++ [':'])))))
      ++ paddedDigits 2 t.shown.second := by
    simp [TimeNotation.wire_chars]
  rw [hsplit]
  exact trim_append_append (yearChars_ne_nil _) (paddedDigits_ne_nil 2 _)
    (fun _ => isBlankChar_of_mem_yearChars)
    fun _ => isBlankChar_of_mem_paddedDigits

/-- **A submitted time is read back without its fraction**, and a leap second stays one. -/
theorem readTimestamp_wire (t : Instant) :
    readTimestamp (TimeNotation.wire.write t) = some t.wholeSecond := by
  have hexchange : (readExchange (TimeNotation.wire.chars t)).toOption = none := by
    obtain ⟨e, he⟩ := exists_scanExchange_error t
    rw [readExchange, he]
    rfl
  have hnaive : (readNaiveBlank (TimeNotation.wire.chars t)).toOption = some t.wholeSecond := by
    rw [readNaiveBlank, readNaive, scanNaive_wire]
    exact congrArg Except.toOption t.instant_shown
  rw [readTimestamp, TimeNotation.write, String.toList_ofList, trim_wire, timeReadings,
    List.findSome?_cons, hexchange, List.findSome?_cons, hnaive]

end JobMonitor
