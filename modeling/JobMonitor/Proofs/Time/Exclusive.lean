import JobMonitor.Proofs.Time.Reading

set_option autoImplicit false

/-! # No time has two readings

The fields of the exchange format are as good for the lenient readers, which read as far in it, so where the
exchange format has its offset the others would have to end. And where one of them has a `T` the other one
has an hour. So of the readings of a time at most one succeeds, and it does not matter which of them is
tried first (`readTimestamp_exclusive`). -/

namespace JobMonitor

/-! ## Reading as far -/

theorem exists_of_bind_eq_ok {ε α β : Type} {x : Except ε α} {f : α → Except ε β} {b : β}
    (h : (x >>= f) = .ok b) : ∃ a, x = .ok a ∧ f a = .ok b := by
  cases x with
  | error e => cases h
  | ok a => exact ⟨a, rfl, h⟩

/-- What the first reader reads is read by the second one as well, up to the same place. -/
def ReadsAsFar {α β : Type} (strict : List Char → TimeScan α) (lenient : List Char → TimeScan β) : Prop :=
  ∀ s a left, strict s = .ok (a, left) → ∃ b, lenient s = .ok (b, left)

/-- Where a number is read there is a digit. -/
theorem exists_digit_of_scanNumber {least most : Nat} (hleast : 0 < least) {s left : List Char} {n : Nat}
    (h : scanNumber least most s = .ok (n, left)) : ∃ c rest, s = c :: rest ∧ isDigitChar c = true := by
  have hgoes : ¬ StopsDigits s := by
    intro hstop
    obtain ⟨e, he⟩ := @exists_scanNumber_error least most hleast s hstop
    rw [he] at h
    cases h
  cases s with
  | nil => exact absurd (fun c hc => by cases hc) hgoes
  | cons c rest =>
    refine ⟨c, rest, rfl, ?_⟩
    by_contra hc
    exact hgoes (stopsDigits_cons (by simpa using hc) rest)

/-- Fewer digits would have been enough. -/
theorem scanNumber_of_le {least least' most : Nat} (hle : least' ≤ least) {s left : List Char} {n : Nat}
    (h : scanNumber least most s = .ok (n, left)) : scanNumber least' most s = .ok (n, left) := by
  rw [scanNumber] at h ⊢
  split at h
  · split at h <;> cases h
  · next henough => rwa [if_neg (Nat.not_lt.2 (Nat.le_trans hle (Nat.not_lt.1 henough)))]

theorem readsAsFar_scanYear : ReadsAsFar (scanNumber 4 4) scanYear := by
  intro s n left h
  obtain ⟨c, rest, rfl, hc⟩ := exists_digit_of_scanNumber (by decide) h
  exact ⟨n, scanYear_of_digit hc (scanNumber_of_le (by decide) h)⟩

theorem exists_scanNumber_of_scanBetween {least most low high : Nat} {s left : List Char} {n : Nat}
    (h : scanBetween least most low high s = .ok (n, left)) :
    scanNumber least most s = .ok (n, left) ∧ low ≤ n ∧ n ≤ high := by
  rw [scanBetween] at h
  split at h
  · cases h
  · next m rest hscan =>
    split at h
    · next hrange =>
      obtain ⟨rfl, rfl⟩ := Prod.mk.inj (Except.ok.inj h)
      exact ⟨hscan, hrange⟩
    · cases h

theorem readsAsFar_scanLenient (low high : Nat) : ReadsAsFar (scanTwo low high) (scanLenient low high) := by
  intro s n left h
  obtain ⟨hscan, hrange⟩ := exists_scanNumber_of_scanBetween h
  obtain ⟨c, rest, rfl, hc⟩ := exists_digit_of_scanNumber (by decide) hscan
  refine ⟨n, ?_⟩
  rw [scanLenient, trimFront_cons (isBlankChar_of_isDigitChar hc), scanBetween,
    scanNumber_of_le (by decide) hscan]
  exact if_pos hrange

/-! ## Date and clock -/

/-- Year, month and day, where the year has a reader of its own. -/
def scanDate {α : Type} (year : List Char → TimeScan α) (field : Nat → Nat → List Char → TimeScan Nat)
    (s : List Char) : Except TimeError ((α × Nat × Nat) × List Char) := do
  let (year, s) ← year s
  let s ← scanChar '-' s
  let (month, s) ← field 1 12 s
  let s ← scanChar '-' s
  let (day, s) ← field 1 31 s
  return ((year, month, day), s)

/-- Hour, minute, second and fraction. -/
def scanClock (field : Nat → Nat → List Char → TimeScan Nat) (s : List Char) :
    Except TimeError ((Nat × Nat × Nat × Nat) × List Char) := do
  let (hour, s) ← field 0 23 s
  let s ← scanChar ':' s
  let (minute, s) ← field 0 59 s
  let s ← scanChar ':' s
  let (second, s) ← field 0 60 s
  let (nanos, s) ← scanOptionalFraction s
  return ((hour, minute, second, nanos), s)

theorem scanExchange_eq (s : List Char) : scanExchange s = do
    let ((year, month, day), s) ← scanDate (scanNumber 4 4) scanTwo s
    let s ← scanDateEnd s
    let ((hour, minute, second, nanos), s) ← scanClock scanTwo s
    let (offset, s) ← scanOffset (scanChar ':') s
    return ((⟨year, month, day, hour, minute, second, nanos⟩, offset), s) := by
  simp only [scanExchange, scanDate, scanClock, bind_assoc, pure_bind]

theorem scanNaive_eq (separator : List Char → Except TimeError (List Char)) (s : List Char) :
    scanNaive separator s = do
      let ((year, month, day), s) ← scanDate scanYear scanLenient s
      let s ← separator s
      let ((hour, minute, second, nanos), s) ← scanClock scanLenient s
      return (⟨year, month, day, hour, minute, second, nanos⟩, s) := by
  simp only [scanNaive, scanDate, scanClock, bind_assoc, pure_bind]

section

variable {field field' : Nat → Nat → List Char → TimeScan Nat}

theorem readsAsFar_scanDate {α β : Type} {year : List Char → TimeScan α} {year' : List Char → TimeScan β}
    (hyear : ReadsAsFar year year') (hfield : ∀ low high, ReadsAsFar (field low high) (field' low high)) :
    ReadsAsFar (scanDate year field) (scanDate year' field') := by
  intro s date left h
  obtain ⟨⟨y, s₁⟩, hy, h⟩ := exists_of_bind_eq_ok h
  obtain ⟨s₂, hdash, h⟩ := exists_of_bind_eq_ok h
  obtain ⟨⟨m, s₃⟩, hm, h⟩ := exists_of_bind_eq_ok h
  obtain ⟨s₄, hdash', h⟩ := exists_of_bind_eq_ok h
  obtain ⟨⟨d, s₅⟩, hd, h⟩ := exists_of_bind_eq_ok h
  obtain ⟨-, rfl⟩ := Prod.mk.inj (Except.ok.inj h)
  obtain ⟨y', hy'⟩ := hyear _ _ _ hy
  obtain ⟨m', hm'⟩ := hfield _ _ _ _ _ hm
  obtain ⟨d', hd'⟩ := hfield _ _ _ _ _ hd
  refine ⟨(y', m', d'), ?_⟩
  simp only [scanDate, hy', hdash, hm', hdash', hd', ok_bind]
  rfl

theorem readsAsFar_scanClock (hfield : ∀ low high, ReadsAsFar (field low high) (field' low high)) :
    ReadsAsFar (scanClock field) (scanClock field') := by
  intro s clock left h
  obtain ⟨⟨hour, s₁⟩, hh, h⟩ := exists_of_bind_eq_ok h
  obtain ⟨s₂, hcolon, h⟩ := exists_of_bind_eq_ok h
  obtain ⟨⟨m, s₃⟩, hm, h⟩ := exists_of_bind_eq_ok h
  obtain ⟨s₄, hcolon', h⟩ := exists_of_bind_eq_ok h
  obtain ⟨⟨second, s₅⟩, hs, h⟩ := exists_of_bind_eq_ok h
  obtain ⟨⟨nanos, s₆⟩, hn, h⟩ := exists_of_bind_eq_ok h
  obtain ⟨-, rfl⟩ := Prod.mk.inj (Except.ok.inj h)
  obtain ⟨hour', hh'⟩ := hfield _ _ _ _ _ hh
  obtain ⟨m', hm'⟩ := hfield _ _ _ _ _ hm
  obtain ⟨second', hs'⟩ := hfield _ _ _ _ _ hs
  refine ⟨(hour', m', second', nanos), ?_⟩
  simp only [scanClock, hh', hcolon, hm', hcolon', hs', hn, ok_bind]
  rfl

end

/-! ## Where the readings part -/

/-- A clock that is read leniently begins with a digit behind blanks. -/
theorem exists_digit_of_scanClock {s left : List Char} {clock : Nat × Nat × Nat × Nat}
    (h : scanClock scanLenient s = .ok (clock, left)) :
    ∃ c rest, trimFront s = c :: rest ∧ isDigitChar c = true := by
  obtain ⟨⟨hour, rest⟩, hhour, -⟩ := exists_of_bind_eq_ok h
  exact exists_digit_of_scanNumber (by decide) (exists_scanNumber_of_scanBetween hhour).1

theorem eq_nil_of_scanEnd {s : List Char} {u : Unit} (h : scanEnd s = .ok u) : s = [] := by
  rw [scanEnd] at h
  split at h
  · next hempty => exact List.isEmpty_iff.1 hempty
  · cases h

/-- A date without an offset that is read ends where a clock begins, and the clock is all that follows. -/
theorem of_readNaive {separator : List Char → Except TimeError (List Char)} {s : List Char} {i : Instant}
    (h : readNaive separator s = .ok i) :
    ∃ date behind clock begins, scanDate scanYear scanLenient s = .ok (date, behind) ∧
      separator behind = .ok begins ∧ scanClock scanLenient begins = .ok (clock, []) := by
  obtain ⟨⟨time, left⟩, hscan, h⟩ := exists_of_bind_eq_ok h
  obtain ⟨_, hend, -⟩ := exists_of_bind_eq_ok h
  rw [scanNaive_eq] at hscan
  obtain ⟨⟨date, behind⟩, hdate, hscan⟩ := exists_of_bind_eq_ok hscan
  obtain ⟨begins, hseparator, hscan⟩ := exists_of_bind_eq_ok hscan
  obtain ⟨⟨clock, left'⟩, hclock, hscan⟩ := exists_of_bind_eq_ok hscan
  obtain ⟨-, rfl⟩ := Prod.mk.inj (Except.ok.inj hscan)
  rw [eq_nil_of_scanEnd hend] at hclock
  exact ⟨date, behind, clock, begins, hdate, hseparator, hclock⟩

/-- In the exchange format something follows the clock. -/
theorem of_readExchange {s : List Char} {i : Instant} (h : readExchange s = .ok i) :
    ∃ date c rest clock left, scanDate (scanNumber 4 4) scanTwo s = .ok (date, c :: rest) ∧
      (c = 'T' ∨ c = 't' ∨ c = ' ') ∧ scanClock scanTwo rest = .ok (clock, left) ∧ left ≠ [] := by
  obtain ⟨⟨time, left⟩, hscan, -⟩ := exists_of_bind_eq_ok h
  rw [scanExchange_eq] at hscan
  obtain ⟨⟨date, behind⟩, hdate, hscan⟩ := exists_of_bind_eq_ok hscan
  obtain ⟨begins, hseparator, hscan⟩ := exists_of_bind_eq_ok hscan
  obtain ⟨⟨clock, left'⟩, hclock, hscan⟩ := exists_of_bind_eq_ok hscan
  obtain ⟨offset, hoffset, -⟩ := exists_of_bind_eq_ok hscan
  have hleft : left' ≠ [] := by
    rintro rfl
    cases hoffset
  cases behind with
  | nil => cases hseparator
  | cons c rest =>
    rw [scanDateEnd] at hseparator
    split at hseparator
    · next hc =>
      obtain rfl := Except.ok.inj hseparator
      exact ⟨date, c, rest, clock, left', hdate, hc, hclock, hleft⟩
    · cases hseparator

/-! ## At most one reading -/

/-- No clock begins with a letter. -/
theorem scanClock_letter_ne_ok {c : Char} (hblank : isBlankChar c = false)
    (hdigit : isDigitChar c = false) (rest : List Char)
    {read : (Nat × Nat × Nat × Nat) × List Char} :
    scanClock scanLenient (trimFront (c :: rest)) ≠ .ok read := by
  intro h
  obtain ⟨d, behind, hfirst, hd⟩ := exists_digit_of_scanClock h
  rw [trimFront_cons hblank, trimFront_cons hblank] at hfirst
  rw [← (List.cons.inj hfirst).1, hdigit] at hd
  cases hd

/-- The separators of the formats without an offset do not read beyond the clock, and stop in front of what
    is no clock. -/
theorem eq_of_separator {separator : List Char → Except TimeError (List Char)}
    (hseparator : separator = scanChar 'T' ∨ separator = fun s => .ok (trimFront s)) {c : Char}
    (hc : c = 'T' ∨ c = 't' ∨ c = ' ') {rest begins left left' : List Char}
    {clock clock' : Nat × Nat × Nat × Nat} (hclock : scanClock scanTwo rest = .ok (clock, left))
    (h : separator (c :: rest) = .ok begins)
    (hbegins : scanClock scanLenient begins = .ok (clock', left')) : begins = rest := by
  obtain ⟨⟨hour, _⟩, hhour, -⟩ := exists_of_bind_eq_ok hclock
  obtain ⟨d, behind, rfl, hd⟩ :=
    exists_digit_of_scanNumber (by decide) (exists_scanNumber_of_scanBetween hhour).1
  rcases hseparator with rfl | rfl
  · rw [scanChar] at h
    split at h
    · exact (Except.ok.inj h).symm
    · cases h
  · obtain rfl := Except.ok.inj h
    rcases hc with rfl | rfl | rfl
    · exact absurd hbegins (scanClock_letter_ne_ok (by decide) (by decide) _)
    · exact absurd hbegins (scanClock_letter_ne_ok (by decide) (by decide) _)
    · exact trimFront_cons (isBlankChar_of_isDigitChar hd) behind

/-- What has an offset is not read without one. -/
theorem readNaive_ne_ok_of_readExchange {separator : List Char → Except TimeError (List Char)}
    (hseparator : separator = scanChar 'T' ∨ separator = fun s => .ok (trimFront s)) {s : List Char}
    {i : Instant} (h : readExchange s = .ok i) (j : Instant) : readNaive separator s ≠ .ok j := by
  intro hnaive
  obtain ⟨date, c, rest, clock, left, hdate, hc, hclock, hleft⟩ := of_readExchange h
  obtain ⟨date', behind, clock', begins, hdate', hbehind, hclock'⟩ := of_readNaive hnaive
  -- Both have read the same date, the same separator and the same clock.
  obtain ⟨date'', hsame⟩ := readsAsFar_scanDate readsAsFar_scanYear readsAsFar_scanLenient _ _ _ hdate
  rw [hdate'] at hsame
  obtain ⟨-, rfl⟩ := Prod.mk.inj (Except.ok.inj hsame)
  obtain rfl := eq_of_separator hseparator hc hclock hbehind hclock'
  obtain ⟨clock'', hsame⟩ := readsAsFar_scanClock readsAsFar_scanLenient _ _ _ hclock
  rw [hclock'] at hsame
  exact hleft (Prod.mk.inj (Except.ok.inj hsame)).2.symm

/-- What has a `T` between date and clock is not read without one. -/
theorem readNaiveT_ne_ok_of_readNaiveBlank {s : List Char} {i : Instant}
    (h : readNaiveBlank s = .ok i) (j : Instant) : readNaiveT s ≠ .ok j := by
  intro hletter
  obtain ⟨date, behind, clock, begins, hdate, hbehind, hclock⟩ := of_readNaive h
  obtain ⟨date', behind', clock', begins', hdate', hbehind', -⟩ := of_readNaive hletter
  rw [hdate] at hdate'
  obtain ⟨-, rfl⟩ := Prod.mk.inj (Except.ok.inj hdate')
  obtain rfl := Except.ok.inj hbehind
  cases behind with
  | nil => cases hbehind'
  | cons c rest =>
    rw [scanChar] at hbehind'
    split at hbehind'
    · next hc =>
      obtain rfl := hc
      exact scanClock_letter_ne_ok (by decide) (by decide) rest hclock
    · cases hbehind'

/-! ## Any text -/

/-- Of readings of which at most one succeeds the first success does not depend on their order. -/
theorem findSome?_eq_of_perm {α β : Type} {readings readings' : List α} {f : α → Option β}
    (hperm : readings.Perm readings') (hone : (readings'.filterMap f).length ≤ 1) :
    readings.findSome? f = readings'.findSome? f := by
  have hsuccesses := hperm.filterMap f
  rw [← List.head?_filterMap, ← List.head?_filterMap]
  match hfound : readings'.filterMap f with
  | [] =>
    rw [hfound] at hsuccesses
    rw [List.perm_nil.1 hsuccesses]
  | [b] =>
    rw [hfound] at hsuccesses
    rw [List.perm_singleton.1 hsuccesses]
  | b :: b' :: more =>
    rw [hfound] at hone
    exact absurd hone (by simp)

theorem toOption_eq_none_of_ne_ok {ε α : Type} {x : Except ε α} (h : ∀ a, x ≠ .ok a) :
    x.toOption = none := by
  cases x with
  | error e => rfl
  | ok a => exact absurd rfl (h a)

theorem length_filterMap_timeReadings (s : List Char) :
    (timeReadings.filterMap fun read => (read s).toOption).length ≤ 1 := by
  have hlast : ([readNaiveT].filterMap fun read => (read s).toOption).length ≤ 1 :=
    List.length_filterMap_le _ _
  rw [timeReadings, List.filterMap_cons, List.filterMap_cons]
  cases hexchange : (readExchange s).toOption with
  | some i =>
    have hread := WrittenTime.toOption_eq_some_iff.1 hexchange
    have hblank := toOption_eq_none_of_ne_ok (readNaive_ne_ok_of_readExchange (.inr rfl) hread)
    have hletter := toOption_eq_none_of_ne_ok (readNaive_ne_ok_of_readExchange (.inl rfl) hread)
    simp [readNaiveBlank, readNaiveT, hblank, hletter]
  | none =>
    cases hfirst : (readNaiveBlank s).toOption with
    | some i =>
      have hread := WrittenTime.toOption_eq_some_iff.1 hfirst
      simp [toOption_eq_none_of_ne_ok (readNaiveT_ne_ok_of_readNaiveBlank hread)]
    | none => exact hlast

/-- **No text has two readings as a time**, so it does not matter which of them is tried first. A text with an
    offset is never read as a time without one. -/
theorem readTimestamp_exclusive (text : String) :
    (timeReadings.filterMap fun read => (read (trim text.toList)).toOption).length ≤ 1 ∧
    (∀ readings : List (List Char → Except TimeError Instant), readings.Perm timeReadings →
      (readings.findSome? fun read => (read (trim text.toList)).toOption) = readTimestamp text) ∧
    ∀ i, readExchange (trim text.toList) = .ok i → ∀ j,
      readNaiveBlank (trim text.toList) ≠ .ok j ∧ readNaiveT (trim text.toList) ≠ .ok j := by
  have hone := length_filterMap_timeReadings (trim text.toList)
  refine ⟨hone, fun readings hperm => findSome?_eq_of_perm hperm hone, fun i h j => ⟨?_, ?_⟩⟩
  · exact readNaive_ne_ok_of_readExchange (.inr rfl) h j
  · exact readNaive_ne_ok_of_readExchange (.inl rfl) h j

/-- A time that has the separator of a format without an offset, and an offset. -/
theorem readTimestamp_exclusive_ahead :
    let text := " 2025-08-27 16:33:00.250+02:00 "
    let i : Instant := ⟨1_756_305_180, 250_000_000, by decide, by decide⟩
    ([readNaiveT, readExchange, readNaiveBlank].Perm timeReadings ∧
      readExchange (trim text.toList) = .ok i) ∧
    ([readNaiveT, readExchange, readNaiveBlank].findSome? fun read =>
      (read (trim text.toList)).toOption) = readTimestamp text ∧
    ∀ j, readNaiveBlank (trim text.toList) ≠ .ok j ∧ readNaiveT (trim text.toList) ≠ .ok j := by
  intro text i
  have hperm : [readNaiveT, readExchange, readNaiveBlank].Perm timeReadings :=
    @List.perm_append_comm _ [readNaiveT] [readExchange, readNaiveBlank]
  have hread : readExchange (trim text.toList) = .ok i := by decide +kernel
  obtain ⟨-, horder, hoffset⟩ := readTimestamp_exclusive text
  exact ⟨⟨hperm, hread⟩, horder _ hperm, hoffset i hread⟩

end JobMonitor
