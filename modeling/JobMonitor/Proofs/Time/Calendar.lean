import JobMonitor.Time.Calendar

set_option autoImplicit false

/-! # Dates and day numbers

The date of a day exists, and the count of days leads back to it. The estimate of the year is off
by at most one, so that the year that is found is the one that begins no later than the day and
before whose successor the day lies. -/

namespace JobMonitor

/-! ## Years -/

/-- A day lies in the year that is found for it. -/
theorem daysBeforeYear_yearOfDay (n : Int) :
    daysBeforeYear (yearOfDay n) ≤ n ∧ n < daysBeforeYear (yearOfDay n + 1) := by
  rw [yearOfDay]
  split
  · next h => exact ⟨h, by simp only [daysBeforeYear] at h ⊢; omega⟩
  · next h =>
    split
    · next h' => exact ⟨by simp only [daysBeforeYear] at h h' ⊢; omega, by rwa [Int.sub_add_cancel]⟩
    · next h' => exact ⟨Int.not_lt.1 h', Int.not_le.1 h⟩

/-- Years that begin later have greater numbers. -/
theorem lt_of_daysBeforeYear_lt {y z : Int} (h : daysBeforeYear y < daysBeforeYear z) : y < z := by
  simp only [daysBeforeYear] at h
  omega

theorem daysBeforeYear_le {y z : Int} (h : y ≤ z) : daysBeforeYear y ≤ daysBeforeYear z := by
  simp only [daysBeforeYear]
  omega

theorem totalDays_cons (length : Nat) (rest : List Nat) :
    totalDays (length :: rest) = length + totalDays rest := rfl

/-- The months make up the year. -/
theorem daysBeforeYear_succ (year : Int) :
    daysBeforeYear (year + 1) = daysBeforeYear year + totalDays (monthLengths year) := by
  have hlength : (totalDays (monthLengths year) : Int) = if isLeapYear year then 366 else 365 := by
    by_cases h : isLeapYear year <;> simp [monthLengths, totalDays, h]
  rw [hlength]
  simp only [daysBeforeYear, isLeapYear, Bool.and_eq_true, Bool.or_eq_true, beq_iff_eq, bne_iff_ne]
  split <;> omega

/-! ## Months -/

theorem length_monthLengths (year : Int) : (monthLengths year).length = 12 := rfl

theorem monthLength_eq_getElem {year : Int} {month : Nat} (h : 1 ≤ month)
    (h' : month - 1 < (monthLengths year).length) :
    monthLength year month = (monthLengths year)[month - 1] := by
  rw [monthLength, if_neg (by omega), List.getD_eq_getElem?_getD, List.getElem?_eq_getElem h',
    Option.getD_some]

/-- A month has 28 to 31 days. -/
theorem monthLength_bounds {year : Int} {month : Nat} (h : 1 ≤ month) (h' : month ≤ 12) :
    28 ≤ monthLength year month ∧ monthLength year month ≤ 31 := by
  have hall : ∀ length ∈ monthLengths year, 28 ≤ length ∧ length ≤ 31 := by
    intro length hmem
    rw [monthLengths] at hmem
    cases hleap : isLeapYear year with
    | true =>
      rw [hleap] at hmem
      revert length
      decide
    | false =>
      rw [hleap] at hmem
      revert length
      decide
  have hmonth : month - 1 < (monthLengths year).length := by
    rw [length_monthLengths]
    omega
  rw [monthLength_eq_getElem h hmonth]
  exact hall _ (List.getElem_mem hmonth)

/-- Walking through the months finds one of them and a day of it. The days of the months before it
    and those of its own are the days that were to be walked. -/
theorem splitDayOfYear_spec {lengths : List Nat} {start days : Nat} (h : days < totalDays lengths) :
    ∃ k, ∃ hk : k < lengths.length, ∃ day, splitDayOfYear lengths start days = (start + k, day + 1) ∧
      day < lengths[k] ∧ totalDays (lengths.take k) + day = days := by
  induction lengths generalizing start days with
  | nil => exact absurd h (Nat.not_lt_zero days)
  | cons length rest ih =>
    rw [totalDays_cons] at h
    by_cases hfirst : days < length
    · exact ⟨0, Nat.zero_lt_succ _, days, if_pos hfirst, hfirst, Nat.zero_add days⟩
    · have hrest : days - length < totalDays rest := by omega
      obtain ⟨k, hk, day, hsplit, hday, hsum⟩ := @ih (start + 1) (days - length) hrest
      refine ⟨k + 1, Nat.succ_lt_succ hk, day, ?_, hday, ?_⟩
      · rw [splitDayOfYear, if_neg hfirst, hsplit, Nat.add_assoc, Nat.add_comm 1]
      · rw [List.take_succ_cons, totalDays_cons]
        omega

/-! ## Dates -/

theorem Date.isValid_iff {d : Date} : d.isValid = true ↔
    (1 ≤ d.month ∧ d.month ≤ 12) ∧ 1 ≤ d.day ∧ d.day ≤ monthLength d.year d.month := by
  simp only [isValid, Bool.and_eq_true, decide_eq_true_eq, and_assoc]

/-- The date of a day is the one in its year whose count is that of the day. -/
theorem Date.ofDayNumber_spec (n : Int) :
    (Date.ofDayNumber n).isValid = true ∧ (Date.ofDayNumber n).dayNumber = n := by
  obtain ⟨hstart, hend⟩ := daysBeforeYear_yearOfDay n
  rw [daysBeforeYear_succ] at hend
  obtain ⟨k, hk, day, hsplit, hday, hsum⟩ := @splitDayOfYear_spec (monthLengths (yearOfDay n)) 1
    (n - daysBeforeYear (yearOfDay n)).toNat (by omega)
  have hdate : Date.ofDayNumber n = ⟨yearOfDay n, 1 + k, day + 1⟩ := by
    rw [Date.ofDayNumber]
    simp only [hsplit]
  have htwelve := length_monthLengths (yearOfDay n)
  have hmonth : monthLength (yearOfDay n) (1 + k) = (monthLengths (yearOfDay n))[k] := by
    rw [monthLength_eq_getElem (by omega) (by omega)]
    simp only [Nat.add_sub_cancel_left]
  rw [hdate]
  constructor
  · rw [Date.isValid_iff, hmonth]
    dsimp only
    omega
  · simp only [Date.dayNumber, Nat.add_sub_cancel_left]
    omega

end JobMonitor
