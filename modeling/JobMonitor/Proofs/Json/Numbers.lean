import JobMonitor.Json.Reader
import JobMonitor.Proofs.Json.Strings
import JobMonitor.Proofs.Number.Decimal

set_option autoImplicit false

/-! # JSON integers are read back

The digits of an integer are read up to the first byte that is no part of a number. Such a byte, or
none at all, stands behind every value of a list or an object and at the end of a text. -/

namespace JobMonitor

/-! ## Digits as bytes -/

theorem isDigitChar_lt {c : Char} (h : isDigitChar c = true) : c.toNat < 0x80 := by
  rw [isDigitChar_iff] at h
  omega

theorem utf8Encode_digits {digits : List Char} (h : ∀ c ∈ digits, isDigitChar c = true) :
    digits.flatMap String.utf8EncodeChar = digits.map fun c => UInt8.ofNat c.toNat := by
  induction digits with
  | nil => rfl
  | cons c rest ih =>
    rw [List.flatMap_cons, utf8EncodeChar_of_lt (isDigitChar_lt (h c List.mem_cons_self)),
      ih fun c hc => h c (List.mem_cons_of_mem _ hc)]
    rfl

theorem toNat_ofNat_digit {c : Char} (h : isDigitChar c = true) :
    (UInt8.ofNat c.toNat).toNat = c.toNat := by
  have := isDigitChar_lt h
  rw [UInt8.toNat_ofNat']
  omega

theorem Json.isDigit_iff {b : UInt8} : Json.isDigit b = true ↔ 48 ≤ b.toNat ∧ b.toNat ≤ 57 := by
  rw [isDigit, Bool.and_eq_true, decide_eq_true_iff, decide_eq_true_iff]
  exact Iff.rfl

theorem Json.isDigit_ofNat_digit {c : Char} (h : isDigitChar c = true) :
    Json.isDigit (UInt8.ofNat c.toNat) = true := by
  rw [isDigit_iff, toNat_ofNat_digit h]
  exact isDigitChar_iff.1 h

/-- Digits have the same value as characters and as bytes. -/
theorem Json.foldl_digitValue {digits : List Char} (h : ∀ c ∈ digits, isDigitChar c = true)
    (start : Nat) :
    (digits.map fun c => UInt8.ofNat c.toNat).foldl (fun v b => v * 10 + Json.digitValue b) start
      = digits.foldl (fun v c => 10 * v + JobMonitor.digitValue c) start := by
  induction digits generalizing start with
  | nil => rfl
  | cons c rest ih =>
    have hc : Json.digitValue (UInt8.ofNat c.toNat) = JobMonitor.digitValue c := by
      rw [digitValue, toNat_ofNat_digit (h c List.mem_cons_self)]
      rfl
    rw [List.map_cons, List.foldl_cons, List.foldl_cons, hc,
      ih fun c hc => h c (List.mem_cons_of_mem _ hc), Nat.mul_comm]

/-! ## The end of a number -/

/-- The text does not go on with a byte that could be part of a number. -/
def Json.StopsNumber (s : Bytes) : Prop :=
  ∀ b ∈ s.head?, Json.isDigit b = false ∧ b ≠ '.'.toUInt8 ∧ b ≠ 'e'.toUInt8 ∧ b ≠ 'E'.toUInt8

theorem Json.stopsNumber_nil : Json.StopsNumber [] := by
  simp [StopsNumber]

theorem Json.stopsNumber_comma (s : Bytes) : Json.StopsNumber (','.toUInt8 :: s) := by
  intro b hb
  rw [← Option.some.inj hb]
  decide

theorem Json.stopsNumber_bracket (s : Bytes) : Json.StopsNumber (']'.toUInt8 :: s) := by
  intro b hb
  rw [← Option.some.inj hb]
  decide

theorem Json.stopsNumber_brace (s : Bytes) : Json.StopsNumber ('}'.toUInt8 :: s) := by
  intro b hb
  rw [← Option.some.inj hb]
  decide

theorem Json.readFraction_of_stopsNumber {s : Bytes} (h : Json.StopsNumber s) :
    Json.readFraction s = .ok (none, s) := by
  cases s with
  | nil => rfl
  | cons b rest => exact if_neg (h b rfl).2.1

theorem Json.readExponent_of_stopsNumber {s : Bytes} (h : Json.StopsNumber s) :
    Json.readExponent s = .ok (none, s) := by
  cases s with
  | nil => rfl
  | cons b rest =>
    obtain ⟨-, -, hlower, hupper⟩ := h b rfl
    rw [readExponent, decide_eq_false hlower, decide_eq_false hupper]
    rfl

/-- Digits end where none follows. -/
theorem Json.spanDigits_append_of_head {digits rest : Bytes}
    (h : ∀ b ∈ digits, Json.isDigit b = true) (hrest : ∀ b ∈ rest.head?, Json.isDigit b = false) :
    Json.spanDigits (digits ++ rest) = (digits, rest) := by
  rw [spanDigits, List.takeWhile_append_of_pos h, List.dropWhile_append_of_pos h]
  cases rest with
  | nil => rw [List.takeWhile_nil, List.dropWhile_nil, List.append_nil]
  | cons b rest =>
    have hb : ¬ Json.isDigit b = true := by simp [hrest b rfl]
    rw [List.takeWhile_cons_of_neg hb, List.dropWhile_cons_of_neg hb, List.append_nil]

theorem Json.spanDigits_append {digits rest : Bytes} (h : ∀ b ∈ digits, Json.isDigit b = true)
    (hrest : Json.StopsNumber rest) : Json.spanDigits (digits ++ rest) = (digits, rest) :=
  Json.spanDigits_append_of_head h fun b hb => (hrest b hb).1

/-! ## Integers -/

theorem Json.readWholeDigits_decimalDigits (n : Nat) {rest : Bytes} (hrest : Json.StopsNumber rest) :
    Json.readWholeDigits ((decimalDigits n).map (fun c => UInt8.ofNat c.toNat) ++ rest)
      = .ok ((decimalDigits n).map fun c => UInt8.ofNat c.toNat, rest) := by
  -- No digit may follow a zero in front, and only the number zero is written with one.
  by_cases hn : n = 0
  · have hzero : (decimalDigits n).map (fun c => UInt8.ofNat c.toNat) = ['0'.toUInt8] := by
      rw [hn, decimalDigits]
      rfl
    rw [hzero, List.singleton_append]
    cases rest with
    | nil => rfl
    | cons b rest =>
      have hb : ¬ Json.isDigit b = true := by simp [(hrest b rfl).1]
      exact if_neg hb
  · obtain ⟨c, digits, hcons⟩ := List.exists_cons_of_ne_nil (decimalDigits_ne_nil n)
    have hdigits : ∀ d ∈ c :: digits, isDigitChar d = true :=
      fun d hd => isDigitChar_of_mem_decimalDigits (hcons ▸ hd)
    have hc := hdigits c List.mem_cons_self
    have hfirst : UInt8.ofNat c.toNat ≠ '0'.toUInt8 := by
      intro heq
      have hnumber : c.toNat = '0'.toNat := by
        rw [← toNat_ofNat_digit hc, heq]
        rfl
      have hzero : c = '0' := by rw [← Char.ofNat_toNat c, hnumber, Char.ofNat_toNat]
      exact head?_decimalDigits_ne_zero hn (by rw [hcons, hzero, List.head?_cons])
    have hspan := @Json.spanDigits_append (digits.map fun c => UInt8.ofNat c.toNat) rest (by
      intro b hb
      obtain ⟨d, hd, rfl⟩ := List.mem_map.1 hb
      exact Json.isDigit_ofNat_digit (hdigits d (List.mem_cons_of_mem _ hd))) hrest
    rw [hcons, List.map_cons, List.cons_append, readWholeDigits.eq_def]
    simp only [hfirst, if_false, Json.isDigit_ofNat_digit hc, if_true, hspan]

/-- The digits of an integer, behind its minus sign if it has one, are read as the integer. -/
theorem Json.readNumber_decimalDigits {isNegative : Bool} {n : Nat} {i : JsonInteger}
    (hi : i.val = if isNegative then -(n : Int) else n) (hzero : isNegative = true → n ≠ 0)
    {rest : Bytes} (hrest : Json.StopsNumber rest) :
    Json.readNumber isNegative ((decimalDigits n).flatMap String.utf8EncodeChar ++ rest)
      = .ok (.integer i, rest) := by
  have hdigits : ∀ c ∈ decimalDigits n, isDigitChar c = true :=
    fun _ => isDigitChar_of_mem_decimalDigits
  have hvalue : ((decimalDigits n).map fun c => UInt8.ofNat c.toNat).foldl
      (fun v b => v * 10 + Json.digitValue b) 0 = n :=
    (Json.foldl_digitValue hdigits 0).trans (decimalValue_decimalDigits n)
  have hinteger : Json.Numeral.integer?
      ⟨isNegative, (decimalDigits n).map fun c => UInt8.ofNat c.toNat, none, none⟩ = some i := by
    rw [Json.Numeral.integer?]
    simp only [hvalue, ← hi, Option.isSome_none, Bool.false_eq_true, false_or]
    rw [if_neg fun h => hzero h.1 h.2, dif_pos i.property]
  rw [utf8Encode_digits hdigits, readNumber, readNumeral]
  simp only [bind, Except.bind, pure, Except.pure, Json.readWholeDigits_decimalDigits n hrest,
    Json.readFraction_of_stopsNumber hrest, Json.readExponent_of_stopsNumber hrest,
    Json.Numeral.value, hinteger]

end JobMonitor
