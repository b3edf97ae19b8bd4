import JobMonitor.Proofs.Time.Calendar
import Mathlib.Data.Int.Init

set_option autoImplicit false

/-! # Counting days one by one

The number of a date is found by a closed formula, and the date of a number by another. Both agree with
counting: `Date.IsDay` counts the dates from 1970-01-01 on and back, each by the date that follows it in the
calendar, and the number of a date is its count (`Date.isDay_iff`). -/

namespace JobMonitor

/-! ## Days of some months -/

theorem totalDays_append (lengths rest : List Nat) :
    totalDays (lengths ++ rest) = totalDays lengths + totalDays rest := by
  induction lengths with
  | nil => exact (Nat.zero_add _).symm
  | cons length lengths ih => rw [List.cons_append, totalDays_cons, ih, totalDays_cons, Nat.add_assoc]

theorem totalDays_take_succ {lengths : List Nat} {k : Nat} (hk : k < lengths.length) :
    totalDays (lengths.take (k + 1)) = totalDays (lengths.take k) + lengths[k] := by
  rw [List.take_succ_eq_append_getElem hk, totalDays_append]
  rfl

theorem totalDays_take_le (lengths : List Nat) (k : Nat) :
    totalDays (lengths.take k) ≤ totalDays lengths := by
  have hsplit := totalDays_append (lengths.take k) (lengths.drop k)
  rw [List.take_append_drop] at hsplit
  omega

/-- The days up to the end of a month are those up to its start and its own. -/
theorem totalDays_take_month {year : Int} {month : Nat} (h : 1 ≤ month) (h' : month ≤ 12) :
    totalDays ((monthLengths year).take month)
      = totalDays ((monthLengths year).take (month - 1)) + monthLength year month := by
  have hmonth : month - 1 < (monthLengths year).length := by
    rw [length_monthLengths]
    omega
  have hupTo := totalDays_take_succ hmonth
  rwa [Nat.sub_add_cancel h, ← monthLength_eq_getElem h hmonth] at hupTo

/-- A day of a month is found again by walking there. -/
theorem splitDayOfYear_take {lengths : List Nat} {start k day : Nat} (hk : k < lengths.length)
    (hday : day < lengths[k]) :
    splitDayOfYear lengths start (totalDays (lengths.take k) + day) = (start + k, day + 1) := by
  induction lengths generalizing start k with
  | nil => exact absurd hk (Nat.not_lt_zero k)
  | cons length rest ih =>
    rw [splitDayOfYear]
    cases k with
    | zero =>
      have hnone : totalDays ((length :: rest).take 0) + day = day := Nat.zero_add day
      rw [hnone]
      exact if_pos hday
    | succ k =>
      rw [List.take_succ_cons, totalDays_cons, if_neg (by omega)]
      have hrest : length + totalDays (rest.take k) + day - length = totalDays (rest.take k) + day := by
        omega
      rw [hrest, ih (Nat.lt_of_succ_lt_succ hk) hday, Nat.add_assoc, Nat.add_comm 1]

/-! ## The date of a number -/

/-- The number of a date lies among those of its year. -/
theorem Date.dayNumber_bounds {d : Date} (h : d.isValid = true) :
    daysBeforeYear d.year ≤ d.dayNumber ∧ d.dayNumber < daysBeforeYear (d.year + 1) := by
  obtain ⟨⟨hmonth, hmonth'⟩, hday, hday'⟩ := isValid_iff.1 h
  have hupTo := @totalDays_take_month d.year d.month hmonth hmonth'
  have hall := totalDays_take_le (monthLengths d.year) d.month
  rw [daysBeforeYear_succ, dayNumber]
  omega

/-- **The date of a number is the one whose number it is**: a date is found again by its number. -/
theorem Date.ofDayNumber_dayNumber {d : Date} (h : d.isValid = true) :
    Date.ofDayNumber d.dayNumber = d := by
  obtain ⟨⟨hmonth, hmonth'⟩, hday, hday'⟩ := isValid_iff.1 h
  obtain ⟨hstart, hend⟩ := Date.dayNumber_bounds h
  obtain ⟨hstart', hend'⟩ := daysBeforeYear_yearOfDay d.dayNumber
  have hyear : yearOfDay d.dayNumber = d.year := by
    have hlow : d.year < yearOfDay d.dayNumber + 1 := lt_of_daysBeforeYear_lt (by omega)
    have hhigh : yearOfDay d.dayNumber < d.year + 1 := lt_of_daysBeforeYear_lt (by omega)
    omega
  have hdays : (d.dayNumber - daysBeforeYear d.year).toNat
      = totalDays ((monthLengths d.year).take (d.month - 1)) + (d.day - 1) := by
    rw [dayNumber]
    omega
  have hindex : d.month - 1 < (monthLengths d.year).length := by
    rw [length_monthLengths]
    omega
  have hlength := monthLength_eq_getElem hmonth hindex
  rw [ofDayNumber, hyear, hdays, splitDayOfYear_take hindex (by omega), Nat.add_sub_cancel' hmonth,
    Nat.sub_add_cancel hday]

/-! ## One day after another -/

/-- The date after a date: the next day of the month, or else the first of the next month, or else of
    the next year. -/
def Date.next (d : Date) : Date :=
  if d.day < monthLength d.year d.month then { d with day := d.day + 1 }
  else if d.month < 12 then ⟨d.year, d.month + 1, 1⟩
  else ⟨d.year + 1, 1, 1⟩

theorem Date.isValid_next {d : Date} (h : d.isValid = true) : d.next.isValid = true := by
  obtain ⟨⟨hmonth, hmonth'⟩, hday, hday'⟩ := isValid_iff.1 h
  rw [next]
  split
  · next hlater => exact isValid_iff.2 ⟨⟨hmonth, hmonth'⟩, Nat.le_add_left 1 _, hlater⟩
  · split
    · next hlater =>
      have hbounds := @monthLength_bounds d.year (d.month + 1) (by omega) (by omega)
      exact isValid_iff.2 ⟨⟨Nat.le_add_left 1 _, hlater⟩, Nat.le_refl 1, by dsimp only; omega⟩
    · have hbounds := @monthLength_bounds (d.year + 1) 1 (by decide) (by decide)
      exact isValid_iff.2 ⟨⟨Nat.le_refl 1, Nat.le_add_left 1 11⟩, Nat.le_refl 1, by dsimp only; omega⟩

/-- The numbers of dates go up one by one. -/
theorem Date.dayNumber_next {d : Date} (h : d.isValid = true) :
    d.next.dayNumber = d.dayNumber + 1 := by
  obtain ⟨⟨hmonth, hmonth'⟩, hday, hday'⟩ := isValid_iff.1 h
  have hupTo := @totalDays_take_month d.year d.month hmonth hmonth'
  rw [next]
  split
  · simp only [dayNumber]
    omega
  · next hlast =>
    split
    · simp only [dayNumber, Nat.add_sub_cancel]
      omega
    · next hdecember =>
      have hmonths : totalDays ((monthLengths d.year).take d.month) = totalDays (monthLengths d.year) := by
        have htwelve := length_monthLengths d.year
        rw [List.take_of_length_le (by omega)]
      have hnone : totalDays ((monthLengths (d.year + 1)).take (1 - 1)) = 0 := rfl
      simp only [dayNumber, daysBeforeYear_succ, hnone]
      omega

theorem Date.next_ofDayNumber (n : Int) : (Date.ofDayNumber n).next = Date.ofDayNumber (n + 1) := by
  obtain ⟨hvalid, hnumber⟩ := Date.ofDayNumber_spec n
  have hnext := Date.ofDayNumber_dayNumber (Date.isValid_next hvalid)
  rw [← hnext, Date.dayNumber_next hvalid, hnumber]

/-- The date is so many days after 1970-01-01, or before it if the number is negative. -/
inductive Date.IsDay : Int → Date → Prop where
  | epoch : IsDay 0 ⟨1970, 1, 1⟩
  | next {n : Int} {d : Date} (h : IsDay n d) : IsDay (n + 1) d.next
  | back {n : Int} {d : Date} (hd : d.isValid = true) (h : IsDay (n + 1) d.next) : IsDay n d

/-- **The number of a date is the count of days to it.** -/
theorem Date.isDay_iff {n : Int} {d : Date} : IsDay n d ↔ d.isValid = true ∧ d.dayNumber = n := by
  constructor
  · intro h
    induction h with
    | epoch => exact ⟨rfl, rfl⟩
    | next _ ih => exact ⟨Date.isValid_next ih.1, by rw [Date.dayNumber_next ih.1, ih.2]⟩
    | back hd _ ih =>
      refine ⟨hd, ?_⟩
      have hnext := ih.2
      rw [Date.dayNumber_next hd] at hnext
      omega
  · rintro ⟨hvalid, rfl⟩
    -- Every number is reached from zero, up or down.
    have hall : ∀ m, IsDay m (Date.ofDayNumber m) := by
      intro m
      induction m using Int.induction_on with
      | zero => exact .epoch
      | succ m ih =>
        rw [← Date.next_ofDayNumber]
        exact ih.next
      | pred m ih =>
        refine .back (Date.ofDayNumber_spec _).1 ?_
        rwa [Date.next_ofDayNumber, Int.sub_add_cancel]
    have hday := hall d.dayNumber
    rwa [Date.ofDayNumber_dayNumber hvalid] at hday

end JobMonitor
