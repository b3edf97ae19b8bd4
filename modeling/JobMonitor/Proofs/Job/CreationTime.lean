import JobMonitor.Job.CreationTime
import JobMonitor.Proofs.Time.Wire

set_option autoImplicit false

/-! # Creation times on the wire

There is an instant for every second of the years that the calendar covers, and each of them is read back
from the text that is sent for it, without the fraction. A creation time is therefore sent as the same value
however often it is received and sent again. -/

namespace JobMonitor

/-! ## The instants that there are -/

/-- The seconds of the years that an instant may lie in, by the year of their date. -/
theorem second_range_iff {second : Int} :
    minSecond ≤ second ∧ second ≤ maxSecond ↔
      minYear ≤ (Date.ofDayNumber (second / 86400)).year ∧
        (Date.ofDayNumber (second / 86400)).year ≤ maxYear := by
  constructor
  · intro h
    exact Instant.year_range ⟨second, 0, h, .inl (by decide)⟩
  · rintro ⟨hlow, hhigh⟩
    obtain ⟨hstart, hend⟩ := daysBeforeYear_yearOfDay (second / 86400)
    have hfirst := daysBeforeYear_le hlow
    have hlast := daysBeforeYear_le (Int.add_le_add_right hhigh 1)
    have hyear : (Date.ofDayNumber (second / 86400)).year = yearOfDay (second / 86400) := rfl
    rw [hyear] at hfirst hlast
    rw [minSecond, maxSecond]
    omega

/-- There is an instant for every second of the calendar, with any fraction, and for the leap second that
    may follow the last one of a minute. -/
theorem exists_instant_iff {second : Int} {nanos : Nat} :
    (∃ t : Instant, t.second = second ∧ t.nanos = nanos) ↔
      (minYear ≤ (Date.ofDayNumber (second / 86400)).year ∧
          (Date.ofDayNumber (second / 86400)).year ≤ maxYear) ∧
        (nanos < 1_000_000_000 ∨ nanos < 2_000_000_000 ∧ second % 60 = 59) := by
  rw [← second_range_iff]
  constructor
  · rintro ⟨t, rfl, rfl⟩
    exact ⟨t.second_range, t.nanos_range⟩
  · rintro ⟨hsecond, hnanos⟩
    exact ⟨⟨second, nanos, hsecond, hnanos⟩, rfl, rfl⟩

/-! ## Sending again -/

theorem Instant.isLeap_wholeSecond (t : Instant) : t.wholeSecond.isLeap = t.isLeap := by
  have hnanos : t.wholeSecond.nanos = if t.isLeap then 1_000_000_000 else 0 := rfl
  rw [isLeap, hnanos]
  cases t.isLeap with
  | true => rfl
  | false => rfl

/-- The fraction is not shown. -/
theorem Instant.shown_wholeSecond (t : Instant) : t.wholeSecond.shown = t.shown := by
  rw [shown, shown, isLeap_wholeSecond]
  rfl

theorem TimeNotation.wire_write_wholeSecond (t : Instant) :
    wire.write t.wholeSecond = wire.write t := by
  rw [write, write, wire_chars, wire_chars, Instant.shown_wholeSecond]

/-- A value that names no time is kept as it is. -/
theorem CreationTime.ofJson_cases (v : Json) :
    (∃ t, CreationTime.ofJson v = .valid t) ∨ CreationTime.ofJson v = .invalid v := by
  unfold ofJson
  split
  · split
    · next t _ => exact .inl ⟨t, rfl⟩
    · exact .inr rfl
  · exact .inr rfl

/-- **Instants and creation times survive the wire.** There is an instant for every second of the calendar,
    and it is read back from its text without its fraction. A creation time comes back as it was, without
    its fraction if it has one, and is then sent as the same value. -/
theorem CreationTime.wire_round_trip :
    (∀ second nanos, (∃ t : Instant, t.second = second ∧ t.nanos = nanos) ↔
      (minYear ≤ (Date.ofDayNumber (second / 86400)).year ∧
          (Date.ofDayNumber (second / 86400)).year ≤ maxYear) ∧
        (nanos < 1_000_000_000 ∨ nanos < 2_000_000_000 ∧ second % 60 = 59)) ∧
    (∀ t : Instant, readTimestamp (TimeNotation.wire.write t) = some t.wholeSecond ∧
      t.wholeSecond.second = t.second ∧
      t.wholeSecond.nanos = if t.isLeap then 1_000_000_000 else 0) ∧
    ∀ v, ((∃ t, ofJson v = .valid t ∧ ofJson (ofJson v).toJson = .valid t.wholeSecond) ∨
        (ofJson v = .invalid v ∧ ofJson (ofJson v).toJson = .invalid v)) ∧
      (ofJson (ofJson v).toJson).toJson = (ofJson v).toJson := by
  refine ⟨fun _ _ => exists_instant_iff, fun t => ⟨readTimestamp_wire t, rfl, rfl⟩, fun v => ?_⟩
  rcases ofJson_cases v with ⟨t, ht⟩ | hinvalid
  · have hback : ofJson (CreationTime.valid t).toJson = .valid t.wholeSecond := by
      rw [toJson, ofJson, readTimestamp_wire]
    rw [ht, hback]
    refine ⟨.inl ⟨t, rfl, rfl⟩, ?_⟩
    rw [toJson, toJson, TimeNotation.wire_write_wholeSecond]
  · rw [hinvalid, toJson, hinvalid]
    exact ⟨.inr ⟨rfl, rfl⟩, rfl⟩

end JobMonitor
