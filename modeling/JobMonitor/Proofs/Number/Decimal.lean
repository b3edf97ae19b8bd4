import JobMonitor.Number.Decimal

set_option autoImplicit false

/-! # Digits and their value

The digits of a number have that number as their value, and zeros in front change nothing. -/

namespace JobMonitor

/-! ## Single digits -/

theorem isDigitChar_iff {c : Char} : isDigitChar c = true ↔ 48 ≤ c.toNat ∧ c.toNat ≤ 57 := by
  rw [isDigitChar, Bool.and_eq_true, decide_eq_true_iff, decide_eq_true_iff]
  exact Iff.rfl

theorem toNat_digitChar (d : Nat) : (digitChar d).toNat = 48 + d % 10 := by
  have hvalid : (48 + d % 10).isValidChar := .inl (by omega)
  rw [digitChar, Char.ofNat, dif_pos hvalid]
  rfl

theorem isDigitChar_digitChar (d : Nat) : isDigitChar (digitChar d) = true := by
  rw [isDigitChar_iff, toNat_digitChar]
  omega

theorem digitValue_digitChar (d : Nat) : digitValue (digitChar d) = d % 10 := by
  rw [digitValue, toNat_digitChar]
  omega

/-! ## The digits of a number -/

theorem isDigitChar_of_mem_decimalDigits {n : Nat} {c : Char} (h : c ∈ decimalDigits n) :
    isDigitChar c = true := by
  fun_induction decimalDigits n with
  | case1 n hn =>
    rw [List.mem_singleton.1 h]
    exact isDigitChar_digitChar n
  | case2 n hn ih =>
    rcases List.mem_append.1 h with h | h
    · exact ih h
    · rw [List.mem_singleton.1 h]
      exact isDigitChar_digitChar (n % 10)

theorem decimalDigits_ne_nil (n : Nat) : decimalDigits n ≠ [] := by
  rw [decimalDigits]
  split <;> simp

theorem decimalValue_append_singleton (digits : List Char) (c : Char) :
    decimalValue (digits ++ [c]) = 10 * decimalValue digits + digitValue c := by
  simp [decimalValue]

theorem decimalValue_decimalDigits (n : Nat) : decimalValue (decimalDigits n) = n := by
  fun_induction decimalDigits n with
  | case1 n hn =>
    show 10 * 0 + digitValue (digitChar n) = n
    rw [digitValue_digitChar]
    omega
  | case2 n hn ih =>
    rw [decimalValue_append_singleton, ih, digitValue_digitChar]
    omega

/-- Only zero starts with the digit zero. -/
theorem head?_decimalDigits_ne_zero {n : Nat} (h : n ≠ 0) :
    (decimalDigits n).head? ≠ some '0' := by
  fun_induction decimalDigits n with
  | case1 n hn =>
    intro hzero
    have hval := congrArg Char.toNat (Option.some.inj hzero)
    rw [toNat_digitChar] at hval
    have : ('0' : Char).toNat = 48 := rfl
    omega
  | case2 n hn ih =>
    obtain ⟨c, rest, hcons⟩ := List.exists_cons_of_ne_nil (decimalDigits_ne_nil (n / 10))
    rw [hcons] at ih ⊢
    exact ih (by omega)

theorem length_decimalDigits_le {n width : Nat} (hwidth : 0 < width) (h : n < Nat.pow 10 width) :
    (decimalDigits n).length ≤ width := by
  induction width generalizing n with
  | zero => omega
  | succ k ih =>
    have hpow : Nat.pow 10 (k + 1) = 10 * Nat.pow 10 k := Nat.mul_comm _ 10
    rw [decimalDigits]
    split
    · rw [List.length_singleton]
      omega
    · next hn =>
      have hk : 0 < k := by
        rcases Nat.eq_zero_or_pos k with rfl | hk
        · exact absurd h hn
        · exact hk
      have hn' : n / 10 < Nat.pow 10 k := by omega
      rw [List.length_append, List.length_singleton]
      exact Nat.succ_le_succ (ih hk hn')

/-! ## Zeros in front -/

theorem decimalValue_zeros_append (k : Nat) (digits : List Char) :
    decimalValue (List.replicate k '0' ++ digits) = decimalValue digits := by
  induction k with
  | zero => rfl
  | succ k ih =>
    rw [← ih]
    rfl

theorem paddedDigits_ne_nil (width n : Nat) : paddedDigits width n ≠ [] :=
  List.append_ne_nil_of_right_ne_nil _ (decimalDigits_ne_nil n)

theorem isDigitChar_of_mem_paddedDigits {width n : Nat} {c : Char}
    (h : c ∈ paddedDigits width n) : isDigitChar c = true := by
  rcases List.mem_append.1 h with h | h
  · rw [List.eq_of_mem_replicate h]
    rfl
  · exact isDigitChar_of_mem_decimalDigits h

theorem decimalValue_paddedDigits (width n : Nat) : decimalValue (paddedDigits width n) = n := by
  rw [paddedDigits, decimalValue_zeros_append, decimalValue_decimalDigits]

theorem length_paddedDigits (width n : Nat) :
    (paddedDigits width n).length = max width (decimalDigits n).length := by
  rw [paddedDigits, List.length_append, List.length_replicate]
  omega

theorem length_paddedDigits_of_lt {width n : Nat} (hwidth : 0 < width) (h : n < Nat.pow 10 width) :
    (paddedDigits width n).length = width := by
  rw [length_paddedDigits]
  exact Nat.max_eq_left (length_decimalDigits_le hwidth h)

end JobMonitor
