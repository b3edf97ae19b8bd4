import JobMonitor.Proofs.Time.Wire

set_option autoImplicit false

/-! # Times of entries are read back

An entry is written with its times in the exchange format: with as many digits of the fraction as
are needed, with a leap second as the sixtieth, and with a sign if the year has not just four
digits. The relaxed reader finds all of it, so the time that is read is the time that was
written. -/

namespace JobMonitor

/-! ## The fraction -/

/-- The digits of a fraction count from the point on. -/
theorem scanFraction_paddedDigits {width n : Nat} (hwidth : 0 < width) (hnine : width ≤ 9)
    (hn : n < Nat.pow 10 width) {rest : List Char} (hrest : StopsDigits rest) :
    scanFraction (paddedDigits width n ++ rest) = .ok (n * Nat.pow 10 (9 - width), rest) := by
  have hlength : (paddedDigits width n).length = width := length_paddedDigits_of_lt hwidth hn
  rw [scanFraction_append (fun _ => isDigitChar_of_mem_paddedDigits) (paddedDigits_ne_nil width n) hrest,
    List.take_of_length_le (Nat.le_trans (Nat.le_of_eq hlength) hnine), decimalValue_paddedDigits, hlength]

/-- A fraction is written with three, six or nine digits, or not at all, and none is lost. -/
theorem scanOptionalFraction_fractionChars {nanos : Nat} (h : nanos < 1_000_000_000)
    {rest : List Char} (hdigits : StopsDigits rest) (hpoint : rest.head? ≠ some '.') :
    scanOptionalFraction (fractionChars nanos ++ rest) = .ok (nanos, rest) := by
  have hfraction : ∀ s, scanOptionalFraction ('.' :: s) = scanFraction s := fun _ => rfl
  rw [fractionChars]
  split
  · next hzero =>
    rw [List.nil_append, scanOptionalFraction, hzero]
    rintro s rfl
    exact hpoint rfl
  · split
    · next hmilli =>
      rw [List.cons_append, hfraction,
        scanFraction_paddedDigits (by decide) (by decide)
          (show nanos / 1_000_000 < 1_000 by omega) hdigits]
      have : nanos / 1_000_000 * 1_000_000 = nanos := by omega
      rw [this]
    · split
      · next hmicro =>
        rw [List.cons_append, hfraction,
          scanFraction_paddedDigits (by decide) (by decide)
            (show nanos / 1_000 < 1_000_000 by omega) hdigits]
        have : nanos / 1_000 * 1_000 = nanos := by omega
        rw [this]
      · rw [List.cons_append, hfraction,
          scanFraction_paddedDigits (by decide) (by decide) (show nanos < 1_000_000_000 from h)
            hdigits]
        simp

/-! ## Reading what was written -/

theorem TimeNotation.exchange_chars (t : Instant) :
    exchange.chars t = yearChars t.shown.year ++ '-' :: (paddedDigits 2 t.shown.month
      ++ '-' :: (paddedDigits 2 t.shown.day ++ 'T' :: (paddedDigits 2 t.shown.hour
        ++ ':' :: (paddedDigits 2 t.shown.minute ++ ':' :: (paddedDigits 2 t.shown.second
          ++ (fractionChars t.fraction ++ ['Z'])))))) := by
  simp [TimeNotation.chars, exchange, Date.chars, Instant.clockChars, Instant.shown]

theorem Instant.fraction_lt (t : Instant) : t.fraction < 1_000_000_000 :=
  Nat.mod_lt _ (by decide)

/-- The fields are found one after the other. -/
theorem scanRelaxed_exchange (t : Instant) :
    scanRelaxed (TimeNotation.exchange.chars t)
      = .ok (({ t.shown with nanos := t.fraction }, 0), []) := by
  obtain ⟨hlow, hhigh⟩ := t.year_range
  obtain ⟨⟨hmonth, hmonth'⟩, ⟨hday, hday'⟩, hhour, hminute, hsecond⟩ := t.shown_fields
  have hyear := fun rest => scanYear_yearChars hlow hhigh
    (stopsDigits_cons (show isDigitChar '-' = false by decide) rest)
  have hdash : ∀ s, trimFront ('-' :: s) = '-' :: s := trimFront_cons (by decide)
  have hcolon : ∀ s, trimFront (':' :: s) = ':' :: s := trimFront_cons (by decide)
  have hfraction := scanOptionalFraction_fractionChars t.fraction_lt
    (stopsDigits_cons (show isDigitChar 'Z' = false by decide) []) (by decide)
  have hoffset : scanRelaxedOffset (trimFront ['Z']) = .ok (0, []) := rfl
  rw [TimeNotation.exchange_chars, scanRelaxed]
  simp only [bind, Except.bind, pure, Except.pure, scanChar, if_true, hdash, hcolon, hfraction,
    hoffset, scanDateEnd, true_or, show t.shown.year = t.date.year from rfl, hyear,
    scanLenient_paddedDigits hmonth hmonth' (by omega), scanLenient_paddedDigits hday hday' (by omega),
    scanLenient_paddedDigits (Nat.zero_le _) hhour (by omega),
    scanLenient_paddedDigits (Nat.zero_le _) hminute (by omega),
    scanLenient_paddedDigits (Nat.zero_le _) hsecond (by omega)]

/-- **The time of an entry is read back**, whatever its fraction and its year. -/
theorem readEntryTime_exchange (t : Instant) :
    readEntryTime (TimeNotation.exchange.write t) = .ok t := by
  have hnanos : t.nanos = t.fraction + if t.isLeap then 1_000_000_000 else 0 := by
    have := t.nanos_range
    rw [Instant.fraction, Instant.isLeap]
    simp only [decide_eq_true_eq]
    split <;> omega
  rw [readEntryTime, TimeNotation.write, String.toList_ofList, scanRelaxed_exchange]
  exact Instant.instant_shown_with rfl hnanos

end JobMonitor
