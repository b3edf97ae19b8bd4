import JobMonitor.Proofs.Number.Decimal
import JobMonitor.Time.Fields

set_option autoImplicit false

/-! # Reading the parts of a written time

Digits that are followed by something else are read back as their value, and blanks are found only
where they stand. -/

namespace JobMonitor

/-! ## Blanks -/

theorem isBlankChar_eq_false {c : Char} (hlow : 0x21 ≤ c.toNat) (hhigh : c.toNat ≤ 0x7E) :
    isBlankChar c = false := by
  simp only [isBlankChar, Bool.or_eq_false_iff, Bool.and_eq_false_iff, decide_eq_false_iff_not,
    beq_eq_false_iff_ne, ne_eq]
  omega

theorem isBlankChar_of_isDigitChar {c : Char} (h : isDigitChar c = true) :
    isBlankChar c = false := by
  rw [isDigitChar_iff] at h
  exact isBlankChar_eq_false (by omega) (by omega)

theorem isBlankChar_of_mem_paddedDigits {width n : Nat} {c : Char} (h : c ∈ paddedDigits width n) :
    isBlankChar c = false :=
  isBlankChar_of_isDigitChar (isDigitChar_of_mem_paddedDigits h)

theorem trimFront_cons {c : Char} (h : isBlankChar c = false) (s : List Char) :
    trimFront (c :: s) = c :: s :=
  List.dropWhile_cons_of_neg (by simp [h])

/-- Nothing is trimmed from a text that begins and ends with something else than a blank. -/
theorem trim_eq_self {text : List Char} (hfirst : ∀ c ∈ text.head?, isBlankChar c = false)
    (hlast : ∀ c ∈ text.getLast?, isBlankChar c = false) : trim text = text := by
  have htrim : ∀ s : List Char, (∀ c ∈ s.head?, isBlankChar c = false) → trimFront s = s := by
    intro s hs
    cases s with
    | nil => rfl
    | cons c rest => exact trimFront_cons (hs c rfl) rest
  rw [trim, htrim text hfirst, htrim text.reverse (by simpa using hlast), List.reverse_reverse]

/-- Nothing is trimmed from a text that begins and ends with parts without blanks. -/
theorem trim_append_append {first middle last : List Char} (hfirst : first ≠ []) (hlast : last ≠ [])
    (hfirst' : ∀ c ∈ first, isBlankChar c = false) (hlast' : ∀ c ∈ last, isBlankChar c = false) :
    trim (first ++ middle ++ last) = first ++ middle ++ last := by
  apply trim_eq_self
  · intro c hc
    rw [List.append_assoc, List.head?_append, List.head?_eq_some_head hfirst, Option.some_or] at hc
    exact Option.some.inj hc ▸ hfirst' _ (List.head_mem hfirst)
  · intro c hc
    rw [List.getLast?_append, List.getLast?_eq_some_getLast hlast, Option.some_or] at hc
    exact Option.some.inj hc ▸ hlast' _ (List.getLast_mem hlast)

/-! ## Numbers -/

/-- The text does not go on with a digit. -/
def StopsDigits (s : List Char) : Prop := ∀ c ∈ s.head?, isDigitChar c = false

theorem stopsDigits_cons {c : Char} (h : isDigitChar c = false) (s : List Char) :
    StopsDigits (c :: s) := by
  simpa [StopsDigits] using h

theorem leadingDigits_append {most : Nat} {digits rest : List Char}
    (hdigits : ∀ c ∈ digits, isDigitChar c = true) (hmost : digits.length ≤ most)
    (hrest : digits.length = most ∨ StopsDigits rest) :
    leadingDigits most (digits ++ rest) = digits := by
  rw [leadingDigits, List.take_append, List.take_of_length_le hmost,
    List.takeWhile_append_of_pos hdigits]
  have hnone : (rest.take (most - digits.length)).takeWhile isDigitChar = [] := by
    rcases hrest with hfull | hstop
    · rw [hfull, Nat.sub_self, List.take_zero, List.takeWhile_nil]
    · cases rest with
      | nil => simp
      | cons c rest =>
        cases most - digits.length with
        | zero => rfl
        | succ k =>
          rw [List.take_succ_cons, List.takeWhile_cons_of_neg]
          simp [hstop c rfl]
  rw [hnone, List.append_nil]

/-- Of more digits only the first ones are taken. -/
theorem leadingDigits_append_take {most : Nat} {digits rest : List Char}
    (hdigits : ∀ c ∈ digits, isDigitChar c = true) (hrest : StopsDigits rest) :
    leadingDigits most (digits ++ rest) = digits.take most := by
  rcases Nat.le_total digits.length most with hshort | hlong
  · rw [leadingDigits_append hdigits hshort (.inr hrest), List.take_of_length_le hshort]
  · have hlength : (digits.take most).length = most := by
      rw [List.length_take, Nat.min_eq_left hlong]
    have hsplit : digits ++ rest = digits.take most ++ (digits.drop most ++ rest) := by
      rw [← List.append_assoc, List.take_append_drop]
    rw [hsplit, leadingDigits_append (fun c hc => hdigits c (List.mem_of_mem_take hc))
      (Nat.le_of_eq hlength) (.inl hlength)]

theorem scanNumber_append {least most : Nat} {digits rest : List Char}
    (hdigits : ∀ c ∈ digits, isDigitChar c = true) (hleast : least ≤ digits.length)
    (hmost : digits.length ≤ most) (hrest : digits.length = most ∨ StopsDigits rest) :
    scanNumber least most (digits ++ rest) = .ok (decimalValue digits, rest) := by
  rw [scanNumber, leadingDigits_append hdigits hmost hrest]
  simp only [Nat.not_lt.2 hleast, if_false, List.drop_left]

theorem scanBetween_append {least most low high : Nat} {digits rest : List Char}
    (hdigits : ∀ c ∈ digits, isDigitChar c = true) (hleast : least ≤ digits.length)
    (hmost : digits.length ≤ most) (hrest : digits.length = most ∨ StopsDigits rest) :
    scanBetween least most low high (digits ++ rest)
      = if low ≤ decimalValue digits ∧ decimalValue digits ≤ high then .ok (decimalValue digits, rest)
        else .error .outOfRange := by
  rw [scanBetween, scanNumber_append hdigits hleast hmost hrest]

/-- A number of fixed width is found where no digit stands. -/
theorem exists_scanNumber_error {least most : Nat} (hleast : 0 < least) {s : List Char}
    (hs : StopsDigits s) : ∃ e, scanNumber least most s = .error e := by
  have hnone : leadingDigits most s = [] := by
    have := @leadingDigits_append most [] s (by simp) (Nat.zero_le _) (.inr hs)
    rwa [List.nil_append] at this
  rw [scanNumber, hnone]
  simp only [List.length_nil, hleast, if_true]
  split
  · exact ⟨_, rfl⟩
  · exact ⟨_, rfl⟩

/-! ## Fractions -/

theorem dropWhile_isDigitChar_of_stopsDigits {s : List Char} (h : StopsDigits s) :
    s.dropWhile isDigitChar = s := by
  cases s with
  | nil => rfl
  | cons c s => exact List.dropWhile_cons_of_neg (by simp [h c rfl])

/-- Nine digits behind the point count, and the others are passed over. -/
theorem scanFraction_append {digits rest : List Char} (hdigits : ∀ c ∈ digits, isDigitChar c = true)
    (hnonempty : digits ≠ []) (hrest : StopsDigits rest) :
    scanFraction (digits ++ rest)
      = .ok (decimalValue (digits.take 9) * Nat.pow 10 (9 - (digits.take 9).length), rest) := by
  have hlength : 0 < digits.length := List.length_pos_iff.2 hnonempty
  have hleast : ¬ (digits.take 9).length < 1 := by
    rw [List.length_take]
    omega
  have hlater : (digits ++ rest).drop (digits.take 9).length = digits.drop 9 ++ rest := by
    rw [← List.take_append_drop 9 digits, List.append_assoc]
    simp only [List.take_append_drop, List.drop_left]
  have hpassed : (digits.drop 9 ++ rest).dropWhile isDigitChar = rest := by
    rw [List.dropWhile_append_of_pos fun c hc => hdigits c (List.mem_of_mem_drop hc),
      dropWhile_isDigitChar_of_stopsDigits hrest]
  rw [scanFraction, scanNumber, leadingDigits_append_take hdigits hrest]
  simp only [if_neg hleast, hlater, hpassed]

/-! ## The instant of the fields -/

theorem Instant.of?_eq_some_iff {second : Int} {nanos : Nat} {i : Instant} :
    Instant.of? second nanos = some i ↔ i.second = second ∧ i.nanos = nanos := by
  rw [of?]
  split
  · next h =>
    rw [Option.some_inj]
    constructor
    · rintro rfl
      exact ⟨rfl, rfl⟩
    · rintro ⟨rfl, rfl⟩
      rfl
  · next h =>
    refine iff_of_false nofun ?_
    rintro ⟨rfl, rfl⟩
    exact h ⟨i.second_range, i.nanos_range⟩

theorem LocalTime.instant_eq_ok_iff {t : LocalTime} {offset : Int} {i : Instant} :
    t.instant offset = .ok i ↔
      (minYear ≤ t.year ∧ t.year ≤ maxYear ∧ t.date.isValid = true) ∧ offset.natAbs < 86400 ∧
        i.second = t.seconds - offset ∧ i.nanos = t.nanoseconds := by
  rw [← Instant.of?_eq_some_iff, instant]
  split
  · next hdate =>
    rw [and_iff_right hdate]
    split
    · next hoffset =>
      rw [and_iff_right hoffset]
      cases Instant.of? (t.seconds - offset) t.nanoseconds with
      | none => exact iff_of_false nofun nofun
      | some i' =>
        exact ⟨fun h => congrArg some (Except.ok.inj h), fun h => congrArg Except.ok (Option.some.inj h)⟩
    · next hoffset => exact iff_of_false nofun fun h => hoffset h.1
  · next hdate => exact iff_of_false nofun fun h => hdate h.1

end JobMonitor
