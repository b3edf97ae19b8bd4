import JobMonitor.Proofs.Json.Tokens

set_option autoImplicit false

/-! # Written numbers are read

A number is read in its parts up to its end, and then it has the value that is written
(`Json.WrittenNumber.value_numeral`): digits are gathered as long as they are kept, and scaling fails
exactly if the number is too large. -/

namespace JobMonitor

/-! ## The parts of a number -/

theorem Json.isDigit_digitByte (d : Fin 10) : Json.isDigit (Json.digitByte d) = true := by
  revert d
  decide

theorem Json.digitValue_digitByte (d : Fin 10) : Json.digitValue (Json.digitByte d) = d.val := by
  revert d
  decide

theorem Json.isDigit_of_mem_digitBytes {digits : List (Fin 10)} {b : UInt8}
    (h : b ∈ digits.map Json.digitByte) : Json.isDigit b = true := by
  obtain ⟨d, -, rfl⟩ := List.mem_map.1 h
  exact Json.isDigit_digitByte d

/-- One digit or more are read up to the first byte that is none. -/
theorem Json.WrittenDigits.spanDigits_bytes (d : Json.WrittenDigits) {s : Bytes}
    (hs : ∀ b ∈ s.head?, Json.isDigit b = false) : Json.spanDigits (d.bytes ++ s) = (d.bytes, s) := by
  refine Json.spanDigits_append_of_head (fun b hb => ?_) hs
  rcases List.mem_cons.1 hb with rfl | hb
  · exact Json.isDigit_digitByte _
  · exact Json.isDigit_of_mem_digitBytes hb

theorem Json.WholeDigits.readWholeDigits_bytes (w : Json.WholeDigits) {s : Bytes}
    (hs : ∀ b ∈ s.head?, Json.isDigit b = false) :
    Json.readWholeDigits (w.bytes ++ s) = .ok (w.bytes, s) := by
  cases w with
  | zero =>
    -- No digit may follow a zero in front.
    cases s with
    | nil => rfl
    | cons b rest =>
      have hb : ¬ Json.isDigit b = true := by simp [hs b rfl]
      exact if_neg hb
  | positive predFirst rest =>
    have hfirst : Json.digitByte predFirst.succ ≠ '0'.toUInt8 := by
      revert predFirst
      decide
    have hspan := @Json.spanDigits_append_of_head (rest.map Json.digitByte) s
      (fun b hb => Json.isDigit_of_mem_digitBytes hb) hs
    rw [bytes, digits, List.map_cons, List.cons_append, readWholeDigits.eq_def]
    simp only [hfirst, if_false, Json.isDigit_digitByte, if_true, hspan]

theorem Json.readFraction_bytes (fraction : Option Json.WrittenDigits) {s : Bytes}
    (hs : ∀ b ∈ s.head?, Json.isDigit b = false ∧ b ≠ '.'.toUInt8) :
    Json.readFraction ((fraction.map fun d => '.'.toUInt8 :: d.bytes).getD [] ++ s)
      = .ok (fraction.map Json.WrittenDigits.bytes, s) := by
  cases fraction with
  | none =>
    cases s with
    | nil => rfl
    | cons b rest => exact if_neg (hs b rfl).2
  | some d =>
    have hspan := d.spanDigits_bytes fun b hb => (hs b hb).1
    show Json.readFraction ('.'.toUInt8 :: (d.bytes ++ s)) = _
    rw [readFraction, if_pos rfl, hspan]
    rfl

theorem Json.readExponentSign_bytes (sign : Option Bool) (d : Json.WrittenDigits) (s : Bytes) :
    Json.readExponentSign
        ((sign.map fun isNegative => if isNegative then '-'.toUInt8 else '+'.toUInt8).toList
          ++ (d.bytes ++ s))
      = (sign.getD false, d.bytes ++ s) := by
  rcases sign with _ | _ | _
  · have hfirst : Json.digitByte d.first ≠ '+'.toUInt8 ∧ Json.digitByte d.first ≠ '-'.toUInt8 := by
      generalize d.first = first
      revert first
      decide
    show Json.readExponentSign (Json.digitByte d.first :: (d.rest.map Json.digitByte ++ s)) = _
    rw [readExponentSign, if_neg hfirst.1, if_neg hfirst.2]
    rfl
  · rfl
  · rfl

theorem Json.readExponent_bytes (exponent : Option Json.WrittenExponent) {s : Bytes}
    (hs : Json.StopsNumber s) :
    Json.readExponent ((exponent.map Json.WrittenExponent.bytes).getD [] ++ s)
      = .ok (exponent.map fun e => (e.sign.getD false, e.digits.bytes), s) := by
  cases exponent with
  | none => exact Json.readExponent_of_stopsNumber hs
  | some e =>
    have hspan := e.digits.spanDigits_bytes fun b hb => (hs b hb).1
    have hsign := Json.readExponentSign_bytes e.sign e.digits s
    have hmark : ((if e.isUpper then 'E'.toUInt8 else 'e'.toUInt8) = 'e'.toUInt8
        || (if e.isUpper then 'E'.toUInt8 else 'e'.toUInt8) = 'E'.toUInt8) = true := by
      cases e.isUpper <;> decide
    rw [Option.map_some, Option.getD_some, WrittenExponent.bytes, List.cons_append,
      List.append_assoc, readExponent, if_pos hmark, hsign]
    dsimp only
    rw [hspan]
    rfl

/-- What follows the digits in front of the point is no digit, and what follows those behind it no point
    either. -/
theorem Json.head?_exponentBytes (exponent : Option Json.WrittenExponent) {s : Bytes}
    (hs : Json.StopsNumber s) :
    ∀ b ∈ ((exponent.map Json.WrittenExponent.bytes).getD [] ++ s).head?,
      Json.isDigit b = false ∧ b ≠ '.'.toUInt8 := by
  cases exponent with
  | none => exact fun b hb => ⟨(hs b hb).1, (hs b hb).2.1⟩
  | some e =>
    intro b hb
    obtain rfl : (if e.isUpper then 'E'.toUInt8 else 'e'.toUInt8) = b := Option.some.inj hb
    cases e.isUpper <;> decide

theorem Json.head?_fractionBytes (fraction : Option Json.WrittenDigits) {s : Bytes}
    (hs : ∀ b ∈ s.head?, Json.isDigit b = false) :
    ∀ b ∈ ((fraction.map fun d => '.'.toUInt8 :: d.bytes).getD [] ++ s).head?,
      Json.isDigit b = false := by
  cases fraction with
  | none => exact hs
  | some d =>
    intro b hb
    obtain rfl : '.'.toUInt8 = b := Option.some.inj hb
    decide

/-- The parts of a number as they are read. -/
def Json.WrittenNumber.numeral (n : Json.WrittenNumber) : Json.Numeral where
  isNegative := n.isNegative
  whole := n.whole.bytes
  fraction := n.fraction.map Json.WrittenDigits.bytes
  exponent := n.exponent.map fun e => (e.sign.getD false, e.digits.bytes)

/-- A number is read behind its minus sign, if it has one, in its parts. -/
theorem Json.WrittenNumber.readNumeral_bytes (n : Json.WrittenNumber) {s : Bytes}
    (hs : Json.StopsNumber s) :
    Json.readNumeral n.isNegative (n.unsignedBytes ++ s) = .ok (n.numeral, s) := by
  have hexponent := Json.head?_exponentBytes n.exponent hs
  have hfraction := Json.head?_fractionBytes n.fraction fun b hb => (hexponent b hb).1
  rw [unsignedBytes, List.append_assoc, List.append_assoc, readNumeral]
  simp only [bind, Except.bind, pure, Except.pure, n.whole.readWholeDigits_bytes hfraction,
    Json.readFraction_bytes n.fraction hexponent, Json.readExponent_bytes n.exponent hs]
  rfl

/-! ## Integers -/

theorem Json.foldl_digitBytes (digits : List (Fin 10)) (start : Nat) :
    (digits.map Json.digitByte).foldl (fun v b => v * 10 + Json.digitValue b) start
      = Json.valueBehind start digits := by
  rw [List.foldl_map, valueBehind]
  simp only [Json.digitValue_digitByte]

/-- More digits make no smaller number. -/
theorem Json.le_valueBehind (start : Nat) (digits : List (Fin 10)) :
    start ≤ Json.valueBehind start digits := by
  induction digits generalizing start with
  | nil => exact Nat.le_refl start
  | cons d rest ih => exact Nat.le_trans (by omega) (ih (start * 10 + d.val))

theorem Json.WholeDigits.value_eq_zero_iff (w : Json.WholeDigits) :
    Json.valueBehind 0 w.digits = 0 ↔ w = .zero := by
  cases w with
  | zero => exact ⟨fun _ => rfl, fun _ => rfl⟩
  | positive predFirst rest =>
    have hle := Json.le_valueBehind (0 * 10 + predFirst.succ.val) rest
    rw [Fin.val_succ] at hle
    refine ⟨fun h => ?_, Json.WholeDigits.noConfusion⟩
    rw [digits, valueBehind, List.foldl_cons, Fin.val_succ] at h
    rw [valueBehind] at hle
    omega

theorem Json.WrittenNumber.integer?_numeral (n : Json.WrittenNumber) :
    n.numeral.integer? = if h : n.IsInteger ∧ IsJsonInteger n.integer then some ⟨n.integer, h.2⟩
      else none := by
  have hwhole : n.numeral.whole.foldl (fun v b => v * 10 + Json.digitValue b) 0
      = Json.valueBehind 0 n.whole.digits := Json.foldl_digitBytes _ 0
  have hparts : (n.numeral.fraction.isSome ∨ n.numeral.exponent.isSome ∨
      n.numeral.isNegative ∧ Json.valueBehind 0 n.whole.digits = 0) ↔ ¬ n.IsInteger := by
    rw [numeral, Option.isSome_map, Option.isSome_map, n.whole.value_eq_zero_iff]
    constructor
    · rintro (hfraction | hexponent | ⟨hnegative, hzero⟩) h
      · rw [h.fraction] at hfraction
        cases hfraction
      · rw [h.exponent] at hexponent
        cases hexponent
      · exact h.notMinusZero hnegative hzero
    · refine fun h => Classical.byContradiction fun hnone => h ?_
      simp only [not_or, not_and, Option.not_isSome_iff_eq_none] at hnone
      exact ⟨hnone.1, hnone.2.1, hnone.2.2⟩
  have hsigned : (if n.numeral.isNegative then -(Json.valueBehind 0 n.whole.digits : Int)
      else Json.valueBehind 0 n.whole.digits) = n.integer := rfl
  rw [Numeral.integer?]
  simp only [hwhole, hsigned]
  by_cases hinteger : n.IsInteger
  · rw [if_neg fun h => hparts.1 h hinteger]
    by_cases hrange : IsJsonInteger n.integer
    · rw [dif_pos hrange, dif_pos ⟨hinteger, hrange⟩]
    · rw [dif_neg hrange, dif_neg fun h => hrange h.2]
  · rw [if_pos (hparts.2 hinteger), dif_neg fun h => hinteger h.1]

/-! ## Gathering digits -/

namespace Json.WrittenNumber

/-- What is kept fits, if what it is put behind does. -/
theorem valueBehind_kept_lt {start : Nat} (h : start < 2 ^ 64) (digits : List (Fin 10)) :
    Json.valueBehind start (digits.take (keptBehind start digits)) < 2 ^ 64 :=
  @Nat.findGreatest_spec 0 (fun kept => Json.valueBehind start (digits.take kept) < 2 ^ 64) _
    digits.length (Nat.zero_le _) h

theorem keptBehind_le (start : Nat) (digits : List (Fin 10)) :
    keptBehind start digits ≤ digits.length := Nat.findGreatest_le _

/-- A digit is kept if it fits, and then it is asked how many of the others are. -/
theorem keptBehind_cons (start : Nat) (d : Fin 10) (rest : List (Fin 10)) :
    keptBehind start (d :: rest)
      = if start * 10 + d.val < 2 ^ 64 then keptBehind (start * 10 + d.val) rest + 1 else 0 := by
  rw [keptBehind, Nat.findGreatest_eq_iff]
  split
  · next hfits =>
    refine ⟨Nat.succ_le_succ (keptBehind_le _ rest), fun _ => valueBehind_kept_lt hfits rest,
      fun k hk hlength => ?_⟩
    obtain ⟨k, rfl⟩ : ∃ j, k = j + 1 := ⟨k - 1, by omega⟩
    exact @Nat.findGreatest_is_greatest k
      (fun kept => Json.valueBehind (start * 10 + d.val) (rest.take kept) < 2 ^ 64) _ rest.length
      (Nat.lt_of_succ_lt_succ hk) (Nat.le_of_succ_le_succ hlength)
  · next hfits =>
    refine ⟨Nat.zero_le _, fun h => absurd rfl h, fun k hk _ => ?_⟩
    obtain ⟨k, rfl⟩ : ∃ j, k = j + 1 := ⟨k - 1, by omega⟩
    exact fun hless => hfits (Nat.lt_of_le_of_lt (Json.le_valueBehind _ (rest.take k)) hless)

/-- Digits are gathered as long as they are kept. -/
theorem gather_digits (start : Nat) (digits : List (Fin 10)) :
    Json.gather start (digits.map Json.digitByte)
      = (Json.valueBehind start (digits.take (keptBehind start digits)),
        (digits.drop (keptBehind start digits)).map Json.digitByte) := by
  induction digits generalizing start with
  | nil => rfl
  | cons d rest ih =>
    have hsize : UInt64.size = 2 ^ 64 := rfl
    rw [List.map_cons, gather, Json.digitValue_digitByte, hsize, keptBehind_cons]
    by_cases hfits : start * 10 + d.val < 2 ^ 64
    · rw [if_pos hfits, if_pos hfits, List.take_succ_cons, List.drop_succ_cons]
      exact ih (start * 10 + d.val)
    · rw [if_neg hfits, if_neg hfits]
      rfl

theorem gathered_numeral (n : Json.WrittenNumber) :
    n.numeral.gathered = (n.significand,
      (n.whole.digits.length - n.wholeKept : Nat) - (n.fractionKept : Int)) := by
  have hwhole : Json.gather 0 n.numeral.whole
      = (n.wholeSignificand, (n.whole.digits.drop n.wholeKept).map Json.digitByte) :=
    gather_digits 0 n.whole.digits
  have hleft : ((n.whole.digits.drop n.wholeKept).map Json.digitByte).length
      = n.whole.digits.length - n.wholeKept := by rw [List.length_map, List.length_drop]
  rw [Numeral.gathered, hwhole]
  dsimp only
  rw [hleft, significand, fractionKept, fractionDigits]
  cases hfraction : n.fraction with
  | none =>
    have hnone : n.numeral.fraction = none := by rw [numeral, hfraction, Option.map_none]
    rw [hnone]
    exact congrArg (n.wholeSignificand, ·) (Int.sub_zero _).symm
  | some d =>
    have hsome : n.numeral.fraction = some (d.digits.map Json.digitByte) := by
      rw [numeral, hfraction]
      rfl
    have hkept := keptBehind_le n.wholeSignificand d.digits
    rw [hsome]
    dsimp only
    rw [gather_digits, Option.map_some, Option.getD_some, List.length_map, List.length_map,
      List.length_drop, Nat.sub_sub_self hkept]

/-! ## Scaling -/

section

open Binary64

variable {s : Nat}

theorem lt_overflowBound_of_lt (hs : s < 2 ^ 64) : s < overflowBound :=
  Nat.lt_trans hs (by decide +kernel)

theorem powerOfTen_lt_overflowBound {k : Nat} (hk : k ≤ 308) : 10 ^ k < overflowBound := by
  obtain ⟨most, hmost⟩ : ∃ most, most = 308 := ⟨_, rfl⟩
  have hleast : 10 ^ most < overflowBound := by
    rw [hmost]
    decide +kernel
  exact Nat.lt_of_le_of_lt (Nat.pow_le_pow_right (by decide) (hmost ▸ hk)) hleast

theorem iterate_over_zero (x : Binary64) (times : Nat) :
    (fun y : Binary64 => y.over x)^[times] (ofMagnitude false 0)
      = ofMagnitude false 0 :=
  Function.iterate_fixed (zero_over x) times

/-- It makes no difference whether zero is divided further. -/
theorem shrink_eq (times : Nat) {x : Binary64}
    (hx : x.significand = 0 → x = ofMagnitude false 0) :
    Json.shrink times x = (fun x => x.over (Json.powerOfTen 308))^[times] x := by
  induction times generalizing x with
  | zero => rfl
  | succ times ih =>
    rw [shrink]
    split
    · next hzero =>
      rw [hx hzero, iterate_over_zero]
    · exact ih ofRatio_eq_zero

theorem quotient_zero (power : Nat) : quotient (ofMagnitude false 0) power = ofMagnitude false 0 := by
  rw [quotient, iterate_over_zero, zero_over]

/-- What scaling does to a significand. It fails exactly if that is not zero and becomes too large. -/
theorem scale_ofNat (hs : s < 2 ^ 64) (power : Int) :
    Json.scale (.ofNat s) power
      = if s ≠ 0 ∧ (308 < power ∨ 0 ≤ power ∧
            overflowBound ≤ roundTo53Bits s * roundTo53Bits (10 ^ power.toNat)) then
          .error .numberOutOfRange
        else .ok (if s = 0 then .ofMagnitude false 0
          else if 0 ≤ power then (ofNat s).times (Json.powerOfTen power.toNat)
          else quotient (.ofNat s) power.natAbs) := by
  have hbound := lt_overflowBound_of_lt hs
  have hsignificand := significand_ofNat_eq_zero_iff hbound
  rw [scale]
  simp only [hsignificand]
  by_cases hgreat : power > 308
  · rw [if_pos hgreat]
    by_cases hzero : s = 0
    · rw [if_pos hzero, if_neg fun h => h.1 hzero, if_pos hzero, hzero]
      rfl
    · rw [if_neg hzero, if_pos ⟨hzero, .inl hgreat⟩]
  · rw [if_neg hgreat]
    by_cases hsign : 0 ≤ power
    · have habs : power.natAbs = power.toNat := by omega
      have hten := @powerOfTen_lt_overflowBound power.toNat (by omega)
      rw [if_pos hsign, habs]
      by_cases hzero : s = 0
      · -- The product of zero is zero.
        have hproduct : (ofNat s).times (Json.powerOfTen power.toNat) = ofMagnitude false 0 := by
          rw [hzero]
          exact zero_times _
        rw [hproduct, if_neg (by decide), if_neg fun h => h.1 hzero, if_pos hzero]
      · have hinfinite : ((ofNat s).times (Json.powerOfTen power.toNat)).isInfinite = true
            ↔ overflowBound ≤ roundTo53Bits s * roundTo53Bits (10 ^ power.toNat) :=
          isInfinite_times_ofNat_iff hbound hten
        rw [if_neg hzero, if_pos hsign]
        by_cases hover : overflowBound ≤ roundTo53Bits s * roundTo53Bits (10 ^ power.toNat)
        · rw [if_pos (hinfinite.2 hover), if_pos ⟨hzero, .inr ⟨hsign, hover⟩⟩]
        · rw [if_neg (mt hinfinite.1 hover), if_neg fun h => h.2.elim hgreat fun h => hover h.2]
    · rw [if_neg hsign, if_neg fun h => h.2.elim hgreat fun h => hsign h.1, if_neg hsign,
        shrink_eq (x := ofNat s) _ ofRatio_eq_zero]
      by_cases hzero : s = 0
      · rw [if_pos hzero, hzero]
        exact congrArg Except.ok (quotient_zero power.natAbs)
      · rw [if_neg hzero]
        rfl

end

/-! ## Values -/

theorem significand_lt (n : Json.WrittenNumber) : n.significand < 2 ^ 64 :=
  valueBehind_kept_lt (valueBehind_kept_lt (by decide) n.whole.digits) n.fractionDigits

/-- A number whose exponent is added up is scaled by its power of ten. -/
theorem scaled_power {n : Json.WrittenNumber} (hexponent : ¬ n.HasHugeExponent) :
    Json.scaled n.isNegative n.significand n.power
      = if n.significand ≠ 0 ∧ n.Overflows then .error .numberOutOfRange
        else .ok (if n.isNegative then n.magnitude.negate else n.magnitude) := by
  have hmagnitude : n.magnitude = if n.significand = 0 then .ofMagnitude false 0
      else if 0 ≤ n.power then (Binary64.ofNat n.significand).times (Json.powerOfTen n.power.toNat)
      else quotient (.ofNat n.significand) n.power.natAbs := by
    rw [magnitude]
    simp only [hexponent, or_false]
  have hscale : Json.scale (.ofNat n.significand) n.power
      = if n.significand ≠ 0 ∧ n.Overflows then .error .numberOutOfRange else .ok n.magnitude := by
    have hoverflows : n.Overflows ↔ 308 < n.power ∨ 0 ≤ n.power ∧ Binary64.overflowBound
          ≤ Binary64.roundTo53Bits n.significand * Binary64.roundTo53Bits (10 ^ n.power.toNat) :=
      iff_of_eq (if_neg hexponent)
    rw [hmagnitude]
    simp only [hoverflows]
    exact scale_ofNat n.significand_lt n.power
  rw [scaled, hscale]
  by_cases hover : n.significand ≠ 0 ∧ n.Overflows
  · rw [if_pos hover, if_pos hover]
    rfl
  · rw [if_neg hover, if_neg hover]
    rfl

/-- The digits of an exponent are added up unless it is a huge one. -/
theorem exponentValue?_bytes {n : Json.WrittenNumber} {e : Json.WrittenExponent}
    (hexponent : n.exponent = some e) : Json.exponentValue? e.digits.bytes
      = if n.HasHugeExponent then none else some n.exponentSize := by
  have hsize : n.exponentSize = Json.valueBehind 0 e.digits.digits := by
    rw [exponentSize, hexponent]
    rfl
  have hlimit : 2_147_483_648 = 2 ^ 31 := rfl
  rw [exponentValue?, WrittenDigits.bytes, Json.foldl_digitBytes, ← hsize, hlimit]
  by_cases hhuge : n.HasHugeExponent
  · rw [if_pos hhuge, if_neg (Nat.not_lt.2 hhuge)]
  · rw [if_neg hhuge, if_pos (Nat.not_le.1 hhuge)]

/-- The number that is read is the number that is written, unless it is too large. -/
theorem float_numeral (n : Json.WrittenNumber) :
    n.numeral.float
      = if n.significand ≠ 0 ∧ n.Overflows then .error .numberOutOfRange
        else .ok (if n.isNegative then n.magnitude.negate else n.magnitude) := by
  rw [Numeral.float, n.gathered_numeral]
  dsimp only
  cases hexponent : n.exponent with
  | none =>
    have hnone : n.numeral.exponent = none := by rw [numeral, hexponent, Option.map_none]
    have hsize : n.exponentSize = 0 := by rw [exponentSize, hexponent]; rfl
    have hpower : n.power = (n.whole.digits.length - n.wholeKept : Nat) - (n.fractionKept : Int) := by
      rw [power, hsize]
      split <;> exact Int.add_zero _
    rw [hnone, ← hpower]
    exact scaled_power (by rw [HasHugeExponent, hsize]; decide)
  | some e =>
    have hsome : n.numeral.exponent = some (e.sign.getD false, e.digits.bytes) := by
      rw [numeral, hexponent, Option.map_some]
    have hshrinks : e.sign.getD false = n.shrinks := by rw [shrinks, hexponent, Option.bind_some]
    rw [hsome]
    dsimp only
    rw [exponentValue?_bytes hexponent, hshrinks]
    by_cases hhuge : n.HasHugeExponent
    · have hmagnitude : n.magnitude = .ofMagnitude false 0 := by
        rw [magnitude, if_pos (.inr hhuge)]
      have hnegate : (Binary64.ofMagnitude false 0).negate = .ofMagnitude true 0 := rfl
      have hoverflows : n.Overflows ↔ n.shrinks = false := iff_of_eq (if_pos hhuge)
      rw [if_pos hhuge, hmagnitude, hnegate]
      simp only [hoverflows]
      cases n.shrinks <;> cases hsign : n.isNegative <;> simp [numeral, hsign]
    · rw [if_neg hhuge]
      dsimp only
      refine Eq.trans (congrArg (Json.scaled _ _) ?_) (scaled_power hhuge)
      rw [power]
      split <;> omega

/-- **A number that is read has the value that is written**, unless it is too large. -/
theorem value_numeral (n : Json.WrittenNumber) :
    n.numeral.value = n.value?.elim (.error .numberOutOfRange) .ok := by
  rw [Numeral.value, n.integer?_numeral, value?]
  by_cases hinteger : n.IsInteger ∧ IsJsonInteger n.integer
  · rw [dif_pos hinteger, dif_pos hinteger]
    rfl
  · rw [dif_neg hinteger, dif_neg hinteger]
    dsimp only
    rw [n.float_numeral]
    by_cases hlarge : n.IsTooLarge
    · rw [if_pos hlarge, if_pos ⟨hlarge.notZero, hlarge.overflows⟩]
      rfl
    · rw [if_neg hlarge, if_neg fun h => hlarge ⟨hinteger, h.1, h.2⟩]
      rfl

/-- A number is read as its value. -/
theorem readNumber_bytes (n : Json.WrittenNumber) {s : Bytes} (hs : Json.StopsNumber s) :
    ReadsExactly (Json.readNumber n.isNegative (n.unsignedBytes ++ s)) n.value? s := by
  rw [readNumber]
  simp only [bind, Except.bind, n.readNumeral_bytes hs, n.value_numeral]
  cases n.value? with
  | none => exact ⟨_, rfl⟩
  | some value => rfl

end Json.WrittenNumber

end JobMonitor
