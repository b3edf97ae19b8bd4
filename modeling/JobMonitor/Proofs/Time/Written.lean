import JobMonitor.Proofs.Time.Counting
import JobMonitor.Proofs.Time.Wire
import Mathlib.Data.List.Basic
import Mathlib.Data.List.Induction

set_option autoImplicit false

/-! # Written times

A written time has fields of fixed width, of which each may hold any digits. It names an instant if its
fields exist in the calendar and on the clock (`WrittenTime.Exists`), and then the one at which they say it
is (`WrittenTime.Names`). The readers of fractions and offsets find what is written. -/

namespace JobMonitor

/-! ## Written times -/

/-- What stands between date and clock. -/
inductive TimeSeparator where
  | letter
  | blank

def TimeSeparator.char : TimeSeparator → Char
  | .letter => 'T'
  | .blank => ' '

/-- What stands behind a time: nothing, the letter for UTC, or by how much the clock is ahead of UTC or
    behind it. -/
inductive TimeSuffix where
  | none
  | utc
  | offset (isBehind : Bool) (hours minutes : Fin 100)

def TimeSuffix.chars : TimeSuffix → List Char
  | .none => []
  | .utc => ['Z']
  | .offset isBehind hours minutes =>
    (if isBehind then '-' else '+') :: (paddedDigits 2 hours ++ ':' :: paddedDigits 2 minutes)

/-- By how many seconds the clock is ahead of UTC. -/
def TimeSuffix.seconds : TimeSuffix → Int
  | .none => 0
  | .utc => 0
  | .offset isBehind hours minutes =>
    if isBehind then -(hours * 3600 + minutes * 60) else hours * 3600 + minutes * 60

/-- An offset is less than a day, and its minutes are less than an hour. -/
def TimeSuffix.Exists : TimeSuffix → Prop
  | .none => True
  | .utc => True
  | .offset _ hours minutes => hours.val ≤ 23 ∧ minutes.val ≤ 59

/-- The fields of a written time. -/
structure WrittenTime where
  year : Fin 10000
  month : Fin 100
  day : Fin 100
  separator : TimeSeparator
  hour : Fin 100
  minute : Fin 100
  second : Fin 100
  /-- The digits behind the point. Without any there is no point. -/
  fraction : List (Fin 10)
  suffix : TimeSuffix

namespace WrittenTime

def digitChars (digits : List (Fin 10)) : List Char := digits.map fun d => digitChar d.val

def fractionChars : List (Fin 10) → List Char
  | [] => []
  | digits => '.' :: digitChars digits

/-- Every field at its full width. -/
def chars (w : WrittenTime) : List Char :=
  paddedDigits 4 w.year ++ '-' :: (paddedDigits 2 w.month ++ '-' :: (paddedDigits 2 w.day
    ++ w.separator.char :: (paddedDigits 2 w.hour ++ ':' :: (paddedDigits 2 w.minute
      ++ ':' :: (paddedDigits 2 w.second ++ (fractionChars w.fraction ++ w.suffix.chars))))))

def text (w : WrittenTime) : String := String.ofList w.chars

def date (w : WrittenTime) : Date := ⟨(w.year : Nat), w.month, w.day⟩

/-- The fields exist in the calendar and on the clock, which has a sixtieth second. -/
structure Exists (w : WrittenTime) : Prop where
  month : 1 ≤ w.month.val ∧ w.month.val ≤ 12
  day : 1 ≤ w.day.val ∧ w.day.val ≤ monthLength (w.year : Nat) w.month
  hour : w.hour.val ≤ 23
  minute : w.minute.val ≤ 59
  second : w.second.val ≤ 60
  suffix : w.suffix.Exists

def digitsValue (digits : List (Fin 10)) : Nat := digits.foldl (fun value d => 10 * value + d.val) 0

def zeroDigit : Fin 10 := ⟨0, by decide⟩

/-- The number that the first nine digits make, where zeros stand for those that are missing. -/
def fractionNanos (digits : List (Fin 10)) : Nat :=
  digitsValue ((digits ++ List.replicate 9 zeroDigit).take 9)

/-- The instant at which the clock shows the time. The sixtieth second is counted like the one before it,
    with a billion nanoseconds more. -/
structure Names (w : WrittenTime) (i : Instant) : Prop where
  second : ∃ days, Date.IsDay days w.date ∧
    i.second = 86400 * days + 3600 * w.hour.val + 60 * w.minute.val + min w.second.val 59 - w.suffix.seconds
  nanos : i.nanos = fractionNanos w.fraction + if w.second.val = 60 then 1_000_000_000 else 0

end WrittenTime

/-! ## Fractions -/

namespace WrittenTime

theorem isDigitChar_of_mem_digitChars {digits : List (Fin 10)} {c : Char} (h : c ∈ digitChars digits) :
    isDigitChar c = true := by
  obtain ⟨d, -, rfl⟩ := List.mem_map.1 h
  exact isDigitChar_digitChar d

theorem isBlankChar_of_mem_fractionChars {digits : List (Fin 10)} {c : Char}
    (h : c ∈ fractionChars digits) : isBlankChar c = false := by
  cases digits with
  | nil => exact absurd h List.not_mem_nil
  | cons d digits =>
    rcases List.mem_cons.1 h with rfl | h
    · decide
    · exact isBlankChar_of_isDigitChar (isDigitChar_of_mem_digitChars h)

theorem decimalValue_digitChars (digits : List (Fin 10)) :
    decimalValue (digitChars digits) = digitsValue digits := by
  have hvalue : ∀ d : Fin 10, digitValue (digitChar d) = d := fun d => by
    rw [digitValue_digitChar, Nat.mod_eq_of_lt d.isLt]
  simp only [decimalValue, digitChars, digitsValue, List.foldl_map, hvalue]

theorem digitsValue_append_singleton (digits : List (Fin 10)) (d : Fin 10) :
    digitsValue (digits ++ [d]) = 10 * digitsValue digits + d.val := by
  simp [digitsValue]

/-- A zero behind the others makes a number ten times as great. -/
theorem digitsValue_append_zeros (digits : List (Fin 10)) (k : Nat) :
    digitsValue (digits ++ List.replicate k zeroDigit) = digitsValue digits * Nat.pow 10 k := by
  induction k with
  | zero =>
    rw [List.replicate_zero, List.append_nil]
    exact (Nat.mul_one _).symm
  | succ k ih =>
    have hpow : Nat.pow 10 (k + 1) = 10 * Nat.pow 10 k := Nat.mul_comm _ 10
    rw [List.replicate_succ', ← List.append_assoc, digitsValue_append_singleton, ih, hpow]
    exact Nat.mul_left_comm _ _ _

theorem digitsValue_lt (digits : List (Fin 10)) : digitsValue digits < Nat.pow 10 digits.length := by
  induction digits using List.reverseRecOn with
  | nil => exact Nat.zero_lt_one
  | append_singleton digits d ih =>
    have hpow : Nat.pow 10 (digits ++ [d]).length = 10 * Nat.pow 10 digits.length := by
      rw [List.length_append]
      exact Nat.mul_comm _ 10
    have hd := d.isLt
    rw [digitsValue_append_singleton, hpow]
    omega

/-- The digits that count are read with the weight that they have behind the point. -/
theorem fractionNanos_eq (digits : List (Fin 10)) :
    fractionNanos digits = decimalValue ((digitChars digits).take 9)
      * Nat.pow 10 (9 - ((digitChars digits).take 9).length) := by
  have hpadded : (digits ++ List.replicate 9 zeroDigit).take 9
      = digits.take 9 ++ List.replicate (9 - (digits.take 9).length) zeroDigit := by
    rw [List.take_append, List.take_replicate, List.length_take]
    congr 2
    omega
  have htake : (digitChars digits).take 9 = digitChars (digits.take 9) := List.map_take.symm
  have hlength : (digitChars (digits.take 9)).length = (digits.take 9).length := List.length_map _
  rw [fractionNanos, hpadded, digitsValue_append_zeros, htake, decimalValue_digitChars, hlength]

theorem fractionNanos_lt (digits : List (Fin 10)) : fractionNanos digits < 1_000_000_000 := by
  have hnine : ((digits ++ List.replicate 9 zeroDigit).take 9).length = 9 := by
    rw [List.length_take, List.length_append, List.length_replicate]
    omega
  have hlt := digitsValue_lt ((digits ++ List.replicate 9 zeroDigit).take 9)
  rwa [hnine] at hlt

theorem scanOptionalFraction_fractionChars_append (digits : List (Fin 10)) {rest : List Char}
    (hdigits : StopsDigits rest) (hpoint : rest.head? ≠ some '.') :
    scanOptionalFraction (fractionChars digits ++ rest) = .ok (fractionNanos digits, rest) := by
  cases digits with
  | nil =>
    have hzero : fractionNanos [] = 0 := rfl
    rw [fractionChars, List.nil_append, hzero, scanOptionalFraction]
    rintro s rfl
    exact hpoint rfl
  | cons d digits =>
    have hpointed : fractionChars (d :: digits) = '.' :: digitChars (d :: digits) := rfl
    have hfraction : ∀ s, scanOptionalFraction ('.' :: s) = scanFraction s := fun _ => rfl
    have hnonempty : digitChars (d :: digits) ≠ [] := List.cons_ne_nil _ _
    rw [hpointed, List.cons_append, hfraction,
      scanFraction_append (fun _ => isDigitChar_of_mem_digitChars) hnonempty hdigits, fractionNanos_eq]

end WrittenTime

/-! ## Suffixes -/

theorem ok_bind {ε α β : Type} (a : α) (f : α → Except ε β) : (Except.ok a >>= f) = f a := rfl

/-- Behind a check one goes on if it holds. -/
theorem ite_bind_eq_ok_iff {ε α β : Type} {p : Prop} [Decidable p] {a : α} {e : ε}
    {f : α → Except ε β} {r : β} :
    ((if p then .ok a else .error e : Except ε α) >>= f) = .ok r ↔ p ∧ f a = .ok r := by
  split
  · next hp => exact (and_iff_right hp).symm
  · next hp => exact iff_of_false nofun fun h => hp h.1

/-- The two characters of a number of two digits. -/
theorem exists_paddedDigits_two (n : Fin 100) : ∃ c d, paddedDigits 2 n = [c, d] ∧
    isDigitChar c = true ∧ isDigitChar d = true ∧ decimalValue [c, d] = n := by
  obtain ⟨c, d, hpair⟩ := List.length_eq_two.1 (length_paddedDigits_two n.isLt)
  have hdigit : ∀ c' ∈ [c, d], isDigitChar c' = true := fun c' hc =>
    isDigitChar_of_mem_paddedDigits (hpair ▸ hc)
  exact ⟨c, d, hpair, hdigit c (by simp), hdigit d (by simp), hpair ▸ decimalValue_paddedDigits 2 n⟩

theorem scanOffsetHours_paddedDigits (n : Fin 100) (rest : List Char) :
    scanOffsetHours (paddedDigits 2 n ++ rest) = .ok (n.val, rest) := by
  obtain ⟨c, d, hpair, hc, hd, hvalue⟩ := exists_paddedDigits_two n
  rw [hpair, scanOffsetHours]
  simp only [List.cons_append, List.nil_append, scanPair, hc, hd, and_self, if_true, hvalue]

theorem scanOffsetMinutes_paddedDigits (n : Fin 100) (rest : List Char) :
    scanOffsetMinutes (paddedDigits 2 n ++ rest)
      = if n.val ≤ 59 then .ok (n.val, rest) else .error .outOfRange := by
  obtain ⟨c, d, hpair, hc, hd, hvalue⟩ := exists_paddedDigits_two n
  -- The tens decide.
  have htens : c ≤ '5' ↔ n.val ≤ 59 := by
    have hsum : 10 * (10 * 0 + (c.toNat - 48)) + (d.toNat - 48) = n.val := hvalue
    have hle : c ≤ '5' ↔ c.toNat ≤ 53 := Iff.rfl
    rw [isDigitChar_iff] at hc hd
    rw [hle]
    omega
  rw [hpair, scanOffsetMinutes]
  simp only [List.cons_append, List.nil_append, scanPair, hc, hd, and_self, if_true, hvalue, htens]

namespace TimeSuffix

/-- The minutes of an offset are less than an hour. -/
def MinutesExist : TimeSuffix → Prop
  | .none => True
  | .utc => True
  | .offset _ _ minutes => minutes.val ≤ 59

/-- An offset whose minutes exist is less than a day if its hours are. -/
theorem exists_iff (s : TimeSuffix) : s.Exists ↔ s.MinutesExist ∧ s.seconds.natAbs < 86400 := by
  cases s with
  | none => exact iff_of_true trivial ⟨trivial, by decide⟩
  | utc => exact iff_of_true trivial ⟨trivial, by decide⟩
  | offset isBehind hours minutes =>
    simp only [Exists, MinutesExist, seconds]
    split <;> omega

/-- An offset is a number of minutes. -/
theorem seconds_mod (s : TimeSuffix) : s.seconds % 60 = 0 := by
  cases s with
  | none => rfl
  | utc => rfl
  | offset isBehind hours minutes =>
    simp only [seconds]
    split <;> omega

theorem stopsDigits_chars (s : TimeSuffix) : StopsDigits s.chars := by
  cases s with
  | none => simp [StopsDigits, chars]
  | utc => exact stopsDigits_cons (by decide) _
  | offset isBehind hours minutes =>
    cases isBehind with
    | true => exact stopsDigits_cons (by decide) _
    | false => exact stopsDigits_cons (by decide) _

theorem head?_chars_ne_point (s : TimeSuffix) : s.chars.head? ≠ some '.' := by
  cases s with
  | none => simp [chars]
  | utc => simp [chars]
  | offset isBehind hours minutes => cases isBehind <;> simp [chars]

theorem isBlankChar_of_mem_chars {s : TimeSuffix} {c : Char} (h : c ∈ s.chars) :
    isBlankChar c = false := by
  cases s with
  | none => exact absurd h List.not_mem_nil
  | utc =>
    rw [List.mem_singleton.1 h]
    decide
  | offset isBehind hours minutes =>
    rcases List.mem_cons.1 h with rfl | h
    · cases isBehind <;> decide
    · rcases List.mem_append.1 h with h | h
      · exact isBlankChar_of_mem_paddedDigits h
      · rcases List.mem_cons.1 h with rfl | h
        · decide
        · exact isBlankChar_of_mem_paddedDigits h

theorem offset_chars (isBehind : Bool) (hours minutes : Fin 100) :
    (offset isBehind hours minutes).chars = (if isBehind then '-' else '+')
      :: (paddedDigits 2 hours ++ ':' :: (paddedDigits 2 minutes ++ [])) := by
  rw [List.append_nil, chars]

/-- The exchange format wants an offset, and wants its minutes to exist. -/
theorem scanOffset_bind_eq_ok_iff (s : TimeSuffix) {β : Type} {f : Int × List Char → Except TimeError β}
    {r : β} : bind (m := Except TimeError) (scanOffset (scanChar ':') s.chars) f = .ok r ↔
      (s ≠ .none ∧ s.MinutesExist) ∧ f (s.seconds, []) = .ok r := by
  cases s with
  | none => exact iff_of_false nofun fun h => h.1.1 rfl
  | utc => exact (and_iff_right ⟨TimeSuffix.noConfusion, trivial⟩).symm
  | offset isBehind hours minutes =>
    have hsign : scanSign ((if isBehind then '-' else '+')
        :: (paddedDigits 2 hours ++ ':' :: (paddedDigits 2 minutes ++ [])))
        = .ok (isBehind, paddedDigits 2 hours ++ ':' :: (paddedDigits 2 minutes ++ [])) := by
      cases isBehind <;> rfl
    have hscan : scanOffset (scanChar ':') (offset isBehind hours minutes).chars
        = if minutes.val ≤ 59 then .ok ((offset isBehind hours minutes).seconds, [])
          else .error .outOfRange := by
      rw [offset_chars, scanOffset]
      · simp only [hsign, scanOffsetHours_paddedDigits, scanChar, if_true,
          scanOffsetMinutes_paddedDigits]
        by_cases hminutes : minutes.val ≤ 59
        · simp only [if_pos hminutes, seconds]
        · simp only [if_neg hminutes]
      · cases isBehind <;> simp
      · cases isBehind <;> simp
    rw [hscan, ite_bind_eq_ok_iff]
    exact and_congr_left fun _ => (and_iff_right TimeSuffix.noConfusion).symm

theorem scanEnd_bind_eq_ok_iff (s : TimeSuffix) {β : Type} {f : Unit → Except TimeError β} {r : β} :
    (scanEnd s.chars >>= f) = .ok r ↔ s = .none ∧ f () = .ok r := by
  cases s with
  | none => exact (and_iff_right rfl).symm
  | utc => exact iff_of_false nofun fun h => TimeSuffix.noConfusion h.1
  | offset isBehind hours minutes =>
    exact iff_of_false nofun fun h => TimeSuffix.noConfusion h.1

end TimeSuffix

end JobMonitor
