import JobMonitor.Number.Binary64
import Mathlib.Tactic.Positivity
import Mathlib.Tactic.Ring

set_option autoImplicit false

/-! # Rounding to binary64 numbers

When a ratio is rounded the place of its leading bit decides the last place that is kept
(`leadingPlace`). From that follow the two facts that a reader of numbers needs: a ratio is rounded to
infinity exactly from half a unit in the last place above the greatest number on
(`isInfinite_ofRatio_iff`), and a natural below that is rounded to fifty-three bits (`ratio_ofNat`). -/

namespace JobMonitor

/-! ## Rounding to an integer -/

section

variable {num den bound : Nat}

theorem div_le_roundHalfEven (num den : Nat) :
    num / den ≤ roundHalfEven num den ∧ roundHalfEven num den ≤ num / den + 1 := by
  rw [roundHalfEven]
  split
  · omega
  · split <;> omega

theorem le_roundHalfEven (h : bound * den ≤ num) (hden : 0 < den) : bound ≤ roundHalfEven num den :=
  Nat.le_trans ((Nat.le_div_iff_mul_le hden).2 h) (div_le_roundHalfEven num den).1

theorem roundHalfEven_le (h : num ≤ bound * den) (hden : 0 < den) : roundHalfEven num den ≤ bound := by
  rcases Nat.lt_or_eq_of_le (Nat.div_le_of_le_mul (Nat.mul_comm bound den ▸ h)) with hlow | hlow
  · exact Nat.le_trans (div_le_roundHalfEven num den).2 hlow
  · -- The ratio is the bound itself.
    have hsplit := Nat.div_add_mod' num den
    have hrest : num % den = 0 := by
      rw [hlow] at hsplit
      omega
    rw [roundHalfEven, hrest, if_pos (by omega), hlow]

/-- A ratio is rounded up to an even number from the half below it on. -/
theorem even_le_roundHalfEven_iff {half : Nat} (hhalf : 0 < half) (hden : 0 < den) :
    2 * half ≤ roundHalfEven num den ↔ (4 * half - 1) * den ≤ 2 * num := by
  obtain ⟨pred, rfl⟩ : ∃ pred, half = pred + 1 := ⟨half - 1, by omega⟩
  have hsplit := Nat.div_add_mod' num den
  have hmod := Nat.mod_lt num hden
  have hbounds := div_le_roundHalfEven num den
  have hhalf : (4 * (pred + 1) - 1) * den = (2 * pred + 1) * den + (2 * pred + 1) * den + den := by
    rw [show 4 * (pred + 1) - 1 = 4 * pred + 3 from rfl]
    ring
  rcases Nat.lt_trichotomy (num / den) (2 * pred + 1) with hlow | hlow | hlow
  · have hmul := Nat.mul_le_mul_right den hlow
    rw [Nat.succ_mul] at hmul
    exact iff_of_false (by omega) (by omega)
  · rw [hlow] at hsplit
    rw [roundHalfEven, hlow]
    split
    · exact iff_of_false (by omega) (by omega)
    · exact iff_of_true (by split <;> omega) (by omega)
  · have hmul := Nat.mul_le_mul_right den hlow
    rw [Nat.succ_mul] at hmul
    exact iff_of_true (by omega) (by omega)

theorem roundHalfEven_one (n : Nat) : roundHalfEven n 1 = n := by
  rw [roundHalfEven, Nat.mod_one, Nat.div_one, if_pos Nat.one_pos]

end

/-! ## The place of the leading bit -/

namespace Binary64

/-- The place of the leading bit of a ratio. -/
def leadingPlace (num den : Nat) : Int :=
  let lead := leadingBit num den
  if den * 2 ^ lead.toNat ≤ num * 2 ^ (-lead).toNat then lead else lead - 1

/-- The ratio is at least a power of two exactly if its leading bit is at that place or above it. -/
theorem le_leadingPlace_iff {num den : Nat} (hnum : num ≠ 0) (hden : den ≠ 0) (i j : Nat) :
    (i : Int) - j ≤ leadingPlace num den ↔ den * 2 ^ i ≤ num * 2 ^ j := by
  have hnumLow := Nat.log2_self_le hnum
  have hnumHigh := num.lt_log2_self
  have hdenLow := Nat.log2_self_le hden
  have hdenHigh := den.lt_log2_self
  have hlead : leadingBit num den = (num.log2 : Int) - den.log2 := rfl
  rw [leadingPlace, hlead]
  generalize num.log2 = a at *
  generalize den.log2 = b at *
  rcases Int.lt_trichotomy ((i : Int) - j) (a - b) with hless | hsame | hmore
  · refine iff_of_true (by split <;> omega) ?_
    calc den * 2 ^ i ≤ 2 ^ (b + 1) * 2 ^ i := Nat.mul_le_mul_right _ hdenHigh.le
      _ = 2 ^ (b + 1 + i) := (Nat.pow_add 2 (b + 1) i).symm
      _ ≤ 2 ^ (a + j) := Nat.pow_le_pow_right Nat.two_pos (by omega)
      _ = 2 ^ a * 2 ^ j := Nat.pow_add 2 a j
      _ ≤ num * 2 ^ j := Nat.mul_le_mul_right _ hnumLow
  · -- Both sides are scaled by the same power.
    have hpowers : 2 ^ i * 2 ^ (-(a - b : Int)).toNat = 2 ^ (a - b : Int).toNat * 2 ^ j := by
      rw [← Nat.pow_add, ← Nat.pow_add]
      congr 1
      omega
    have hscaled : den * 2 ^ i ≤ num * 2 ^ j ↔
        den * 2 ^ (a - b : Int).toNat ≤ num * 2 ^ (-(a - b : Int)).toNat := by
      rw [← Nat.mul_le_mul_right_iff (Nat.two_pow_pos (-(a - b : Int)).toNat), Nat.mul_assoc, hpowers,
        ← Nat.mul_assoc, Nat.mul_right_comm num, Nat.mul_le_mul_right_iff (Nat.two_pow_pos j)]
    rw [hscaled]
    split
    · next haligned => exact iff_of_true hsame.le haligned
    · next haligned => exact iff_of_false (by omega) haligned
  · refine iff_of_false (by split <;> omega) (Nat.not_le.2 ?_)
    calc num * 2 ^ j < 2 ^ (a + 1) * 2 ^ j := Nat.mul_lt_mul_of_pos_right hnumHigh (Nat.two_pow_pos j)
      _ = 2 ^ (a + 1 + j) := (Nat.pow_add 2 (a + 1) j).symm
      _ ≤ 2 ^ (b + i) := Nat.pow_le_pow_right Nat.two_pos (by omega)
      _ = 2 ^ b * 2 ^ i := Nat.pow_add 2 b i
      _ ≤ den * 2 ^ i := Nat.mul_le_mul_right _ hdenLow

/-! ## Rounding a ratio -/

/-- The last place that is kept of a ratio. Fifty-three bits stand above it, unless it would lie below the
    last place of the smallest numbers. -/
def lastPlace (num den : Nat) : Int := max (leadingPlace num den - 52) (-1074)

/-- What is kept of a ratio, as a multiple of its last place. -/
def kept (num den : Nat) : Nat :=
  roundHalfEven (num * 2 ^ (-lastPlace num den).toNat) (den * 2 ^ (lastPlace num den).toNat)

/-- The bits of a rounded ratio, before the exponents that are too great are cut off. -/
def magnitudeOf (num den : Nat) : Nat :=
  kept num den + (lastPlace num den + 1074).toNat * 2 ^ 52

theorem roundAtPlace_lastPlace (num den : Nat) :
    roundAtPlace num den (lastPlace num den) = kept num den := by
  rw [roundAtPlace, kept]
  split
  · next hplace =>
    rw [Int.toNat_of_nonpos (Int.neg_nonpos_of_nonneg hplace), Nat.pow_zero, Nat.mul_one]
    rfl
  · next hplace =>
    rw [Int.toNat_of_nonpos (by omega : lastPlace num den ≤ 0), Nat.pow_zero, Nat.mul_one]
    rfl

theorem ofRatio_eq (negative : Bool) {num : Nat} (hnum : num ≠ 0) (den : Nat) :
    ofRatio negative num den
      = if 2047 * 2 ^ 52 ≤ magnitudeOf num den then infinity negative
        else ofMagnitude negative (magnitudeOf num den) := by
  have hplace : (if (if leadingBit num den ≥ 0 then
        decide (den * Nat.pow 2 (leadingBit num den).toNat ≤ num)
      else decide (den ≤ num * Nat.pow 2 (-leadingBit num den).toNat)) = true
      then leadingBit num den else leadingBit num den - 1) = leadingPlace num den := by
    rw [leadingPlace]
    by_cases hlead : leadingBit num den ≥ 0
    · rw [if_pos hlead, Int.toNat_of_nonpos (Int.neg_nonpos_of_nonneg hlead), Nat.pow_zero,
        Nat.mul_one]
      simp only [decide_eq_true_eq]
      rfl
    · rw [if_neg hlead, Int.toNat_of_nonpos (by omega : leadingBit num den ≤ 0), Nat.pow_zero,
        Nat.mul_one]
      simp only [decide_eq_true_eq]
      rfl
  have hkept := roundAtPlace_lastPlace num den
  rw [lastPlace] at hkept
  rw [ofRatio, if_neg hnum]
  dsimp only
  rw [hplace, hkept]
  rfl

/-! ### How many bits are kept -/

section

variable {num den : Nat}

theorem kept_le (hnum : num ≠ 0) (hden : den ≠ 0) : kept num den ≤ 2 ^ 53 := by
  have hplace : ¬ ((((lastPlace num den).toNat + 53 : Nat) : Int) - (-lastPlace num den).toNat
      ≤ leadingPlace num den) := by
    have : leadingPlace num den - 52 ≤ lastPlace num den := Int.le_max_left _ _
    omega
  rw [le_leadingPlace_iff hnum hden, Nat.pow_add] at hplace
  refine roundHalfEven_le ?_ (Nat.mul_pos (Nat.pos_of_ne_zero hden) (Nat.two_pow_pos _))
  calc num * 2 ^ (-lastPlace num den).toNat ≤ den * (2 ^ (lastPlace num den).toNat * 2 ^ 53) :=
        (Nat.not_le.1 hplace).le
    _ = 2 ^ 53 * (den * 2 ^ (lastPlace num den).toNat) := by ring

theorem le_kept (hnum : num ≠ 0) (hden : den ≠ 0) (hnormal : -1022 ≤ leadingPlace num den) :
    2 ^ 52 ≤ kept num den := by
  have hplace : ((((lastPlace num den).toNat + 52 : Nat) : Int) - (-lastPlace num den).toNat
      ≤ leadingPlace num den) := by
    rw [lastPlace]
    omega
  rw [le_leadingPlace_iff hnum hden, Nat.pow_add] at hplace
  refine le_roundHalfEven ?_ (Nat.mul_pos (Nat.pos_of_ne_zero hden) (Nat.two_pow_pos _))
  calc 2 ^ 52 * (den * 2 ^ (lastPlace num den).toNat)
      = den * (2 ^ (lastPlace num den).toNat * 2 ^ 52) := by ring
    _ ≤ num * 2 ^ (-lastPlace num den).toNat := hplace

/-! ### Infinity -/

/-- Half a unit in the last place above the greatest binary64 number, which is `2 ^ 1024 - 2 ^ 970`. -/
def overflowBound : Nat := (2 ^ 54 - 1) * 2 ^ 970

theorem overflowBound_pos : 0 < overflowBound := by
  rw [overflowBound]
  positivity

theorem overflows_iff (hnum : num ≠ 0) (hden : den ≠ 0) :
    2047 * 2 ^ 52 ≤ magnitudeOf num den ↔ overflowBound * den ≤ num := by
  have hkept := kept_le hnum hden
  -- The power of the last place is not to be multiplied out.
  obtain ⟨k, hk, hbound⟩ : ∃ k : Nat, k = 970 ∧ overflowBound = (2 ^ 54 - 1) * 2 ^ k :=
    ⟨970, rfl, rfl⟩
  rw [magnitudeOf, hbound, Nat.mul_assoc]
  rcases Int.lt_trichotomy (leadingPlace num den) 1023 with hsmall | hgreatest | hgreat
  · -- Even when the significand is rounded up there is a greater exponent left.
    have hplace : (lastPlace num den + 1074).toNat ≤ 2044 := by
      rw [lastPlace]
      omega
    have hless : ¬ ((53 + k : Nat) : Int) - (0 : Nat) ≤ leadingPlace num den := by omega
    rw [le_leadingPlace_iff hnum hden, Nat.pow_zero, Nat.mul_one, Nat.pow_add, Nat.mul_left_comm,
      Nat.mul_comm den] at hless
    refine iff_of_false (by omega) fun h => hless (Nat.le_trans ?_ h)
    exact Nat.mul_le_mul_right _ (by decide)
  · have hplace : lastPlace num den = (k + 1 : Nat) := by
      rw [lastPlace]
      omega
    have hround : kept num den = roundHalfEven num (den * 2 ^ (k + 1)) := by
      rw [kept, hplace, Int.toNat_natCast, Int.toNat_of_nonpos (by omega), Nat.pow_zero, Nat.mul_one]
    have hpositive : 0 < den * 2 ^ (k + 1) :=
      Nat.mul_pos (Nat.pos_of_ne_zero hden) (Nat.two_pow_pos _)
    have hhalf : 2 * 2 ^ 52 ≤ roundHalfEven num (den * 2 ^ (k + 1)) ↔
        (4 * 2 ^ 52 - 1) * (den * 2 ^ (k + 1)) ≤ 2 * num :=
      even_le_roundHalfEven_iff (Nat.two_pow_pos 52) hpositive
    have hscaled : (4 * 2 ^ 52 - 1) * (den * 2 ^ (k + 1)) = 2 * ((2 ^ 54 - 1) * (2 ^ k * den)) := by
      rw [Nat.pow_succ 2 k, show 4 * 2 ^ 52 - 1 = 2 ^ 54 - 1 from rfl]
      ring
    rw [← hround, hscaled, Nat.mul_le_mul_left_iff Nat.two_pos] at hhalf
    rw [← hhalf, hplace]
    omega
  · have hnormal := le_kept hnum hden (by omega)
    have hplace : 2046 ≤ (lastPlace num den + 1074).toNat := by
      rw [lastPlace]
      omega
    have hmore : ((54 + k : Nat) : Int) - (0 : Nat) ≤ leadingPlace num den := by omega
    rw [le_leadingPlace_iff hnum hden, Nat.pow_zero, Nat.mul_one, Nat.pow_add, Nat.mul_left_comm,
      Nat.mul_comm den] at hmore
    refine iff_of_true (by omega) (Nat.le_trans ?_ hmore)
    exact Nat.mul_le_mul_right _ (by decide)

theorem magnitudeBits_ofMagnitude {magnitude : Nat} (h : magnitude < 2 ^ 63) :
    (ofMagnitude false magnitude).magnitudeBits = magnitude := by
  show (UInt64.ofNat (magnitude + 0)).toNat % 2 ^ 63 = magnitude
  rw [UInt64.toNat_ofNat', Nat.add_zero, Nat.mod_eq_of_lt (a := magnitude) (by omega),
    Nat.mod_eq_of_lt h]

/-- A ratio is rounded to infinity from half a unit in the last place above the greatest number on. -/
theorem isInfinite_ofRatio_iff (num : Nat) (hden : den ≠ 0) :
    (ofRatio false num den).isInfinite = true ↔ overflowBound * den ≤ num := by
  by_cases hnum : num = 0
  · have hpositive : 0 < overflowBound * den :=
      Nat.mul_pos overflowBound_pos (Nat.pos_of_ne_zero hden)
    rw [hnum, ofRatio, if_pos rfl]
    exact iff_of_false (by decide) (Nat.not_le.2 hpositive)
  · rw [ofRatio_eq false hnum, ← overflows_iff hnum hden]
    split
    · next hover => exact iff_of_true (by decide) hover
    · next hover =>
      refine iff_of_false ?_ hover
      rw [isInfinite, magnitudeBits_ofMagnitude (by omega)]
      simp only [beq_iff_eq]
      show ¬ magnitudeOf num den = 2047 * 2 ^ 52
      omega

end

/-! ## Naturals -/

/-- The natural with no more than fifty-three bits in front of its zeros that is nearest to `n`. -/
def roundTo53Bits (n : Nat) : Nat :=
  roundHalfEven n (2 ^ (Nat.log2 n - 52)) * 2 ^ (Nat.log2 n - 52)

theorem ratio_pos (x : Binary64) : 0 < x.ratio.2 := by
  rw [ratio]
  split
  · exact Nat.one_pos
  · exact Nat.two_pow_pos _

/-- The value of a number as a multiple of the last place of the smallest ones. -/
theorem ratio_scaled (x : Binary64) :
    x.ratio.1 * 2 ^ 1074 = x.significand * 2 ^ x.scale * x.ratio.2 := by
  obtain ⟨least, hleast⟩ : ∃ least, least = 1074 := ⟨_, rfl⟩
  rw [ratio]
  simp only [← hleast]
  split
  · next hscale =>
    have hpowers : 2 ^ x.scale = 2 ^ (x.scale - least) * 2 ^ least := by
      rw [← Nat.pow_add, Nat.sub_add_cancel hscale]
    rw [hpowers, ← Nat.mul_assoc, Nat.mul_one]
    rfl
  · next hscale =>
    have hpowers : 2 ^ least = 2 ^ x.scale * 2 ^ (least - x.scale) := by
      rw [← Nat.pow_add, Nat.add_sub_cancel' (by omega)]
    rw [hpowers, ← Nat.mul_assoc]
    rfl

theorem significand_ofMagnitude {r place : Nat} (hlow : 2 ^ 52 ≤ r) (hhigh : r ≤ 2 ^ 53)
    (hfinite : r + place * 2 ^ 52 < 2 ^ 63) :
    (ofMagnitude false (r + place * 2 ^ 52)).significand
        * 2 ^ (ofMagnitude false (r + place * 2 ^ 52)).scale = r * 2 ^ place := by
  have hbits := magnitudeBits_ofMagnitude hfinite
  rw [significand, scale, hbits]
  show (if r + place * 2 ^ 52 < 2 ^ 52 then r + place * 2 ^ 52
    else (r + place * 2 ^ 52) % 2 ^ 52 + 2 ^ 52) * 2 ^ ((r + place * 2 ^ 52) / 2 ^ 52 - 1) = _
  rw [if_neg (by omega)]
  rcases Nat.lt_or_eq_of_le hhigh with hless | hcarried
  · rw [show (r + place * 2 ^ 52) % 2 ^ 52 + 2 ^ 52 = r by omega,
      show (r + place * 2 ^ 52) / 2 ^ 52 - 1 = place by omega]
  · -- The significand has been rounded up to the next power.
    rw [hcarried, show (2 ^ 53 + place * 2 ^ 52) % 2 ^ 52 + 2 ^ 52 = 2 ^ 52 by omega,
      show (2 ^ 53 + place * 2 ^ 52) / 2 ^ 52 - 1 = place + 1 by omega, Nat.pow_succ 2 place]
    ring

theorem leadingPlace_one {n : Nat} (hn : n ≠ 0) : leadingPlace n 1 = n.log2 := by
  have hlead : leadingBit n 1 = n.log2 := by
    rw [leadingBit, show Nat.log2 1 = 0 from rfl]
    omega
  rw [leadingPlace, hlead, if_pos]
  rw [Int.toNat_natCast, Int.toNat_of_nonpos (by omega), Nat.pow_zero, Nat.mul_one, Nat.one_mul]
  exact Nat.log2_self_le hn

/-- What is kept of a natural, in multiples of the last place of the smallest numbers. -/
theorem kept_one {n : Nat} (hn : n ≠ 0) {least : Nat} (hleast : least = 1074) :
    kept n 1 * 2 ^ (lastPlace n 1 + 1074).toNat = roundTo53Bits n * 2 ^ least := by
  have hplace : lastPlace n 1 = (n.log2 : Int) - 52 := by
    rw [lastPlace, leadingPlace_one hn]
    omega
  rw [kept, roundTo53Bits, hplace, Nat.one_mul, Nat.mul_assoc, ← Nat.pow_add]
  rcases Nat.le_total n.log2 52 with hfits | hlong
  · have hsum : 2 ^ least = 2 ^ (-((n.log2 : Int) - 52)).toNat * 2 ^ ((n.log2 : Int) - 52 + 1074).toNat := by
      rw [← Nat.pow_add]
      congr 1
      omega
    rw [Int.toNat_of_nonpos (by omega : (n.log2 : Int) - 52 ≤ 0), Nat.sub_eq_zero_of_le hfits,
      Nat.pow_zero, roundHalfEven_one, roundHalfEven_one, Nat.zero_add, hsum, Nat.mul_assoc]
  · rw [Int.toNat_of_nonpos (by omega : -((n.log2 : Int) - 52) ≤ 0), Nat.pow_zero, Nat.mul_one,
      show ((n.log2 : Int) - 52).toNat = n.log2 - 52 by omega,
      show ((n.log2 : Int) - 52 + 1074).toNat = n.log2 - 52 + least by omega]

/-- The bits of a natural that is not rounded to infinity. -/
theorem ofNat_eq {n : Nat} (hn : n ≠ 0) (h : n < overflowBound) :
    ofNat n = ofMagnitude false (magnitudeOf n 1) ∧ 2 ^ 52 ≤ kept n 1 ∧ magnitudeOf n 1 < 2 ^ 63 := by
  have hfinite := mt (overflows_iff hn Nat.one_ne_zero).1 (by omega)
  refine ⟨?_, le_kept hn Nat.one_ne_zero ?_, Nat.lt_trans (Nat.not_le.1 hfinite) (by decide)⟩
  · rw [ofNat, ofRatio_eq false hn, if_neg hfinite]
  · rw [leadingPlace_one hn]
    omega

/-- A natural that is not rounded to infinity is rounded to fifty-three bits. -/
theorem ratio_ofNat {n : Nat} (h : n < overflowBound) :
    (ofNat n).ratio.1 = roundTo53Bits n * (ofNat n).ratio.2 := by
  by_cases hn : n = 0
  · have hround : roundTo53Bits 0 = 0 := rfl
    rw [hn, hround, Nat.zero_mul]
    rfl
  · obtain ⟨hbits, hlow, hfinite⟩ := ofNat_eq hn h
    have hvalue := significand_ofMagnitude hlow (kept_le hn Nat.one_ne_zero) hfinite
    have hscaled := (ofNat n).ratio_scaled
    obtain ⟨least, hleast⟩ : ∃ least, least = 1074 := ⟨_, rfl⟩
    rw [← hleast, hbits, magnitudeOf, hvalue, kept_one hn hleast] at hscaled
    rw [hbits, magnitudeOf]
    refine Nat.eq_of_mul_eq_mul_right (Nat.two_pow_pos least) (hscaled.trans ?_)
    ring

/-! ## Products -/

/-- The product of two naturals, each rounded, is infinite exactly if the exact product of what they have
    been rounded to is. -/
theorem isInfinite_times_ofNat_iff {m n : Nat} (hm : m < overflowBound) (hn : n < overflowBound) :
    ((ofNat m).times (ofNat n)).isInfinite = true
      ↔ overflowBound ≤ roundTo53Bits m * roundTo53Bits n := by
  have hpositive : 0 < (ofNat m).ratio.2 * (ofNat n).ratio.2 :=
    Nat.mul_pos (ofNat m).ratio_pos (ofNat n).ratio_pos
  have hproduct : (ofNat m).ratio.1 * (ofNat n).ratio.1
      = roundTo53Bits m * roundTo53Bits n * ((ofNat m).ratio.2 * (ofNat n).ratio.2) := by
    rw [ratio_ofNat hm, ratio_ofNat hn]
    ring
  rw [times, isInfinite_ofRatio_iff _ (Nat.pos_iff_ne_zero.1 hpositive), hproduct,
    Nat.mul_le_mul_right_iff hpositive]

/-! ## Zero -/

/-- A rounded number is not negative, so it is zero if its significand is. -/
theorem ofRatio_eq_zero {num den : Nat} (h : (ofRatio false num den).significand = 0) :
    ofRatio false num den = ofMagnitude false 0 := by
  by_cases hnum : num = 0
  · rw [ofRatio, if_pos hnum]
  · rw [ofRatio_eq false hnum] at h ⊢
    split at h
    · cases h
    · next hfinite =>
      rw [if_neg hfinite]
      rw [significand, magnitudeBits_ofMagnitude (by omega)] at h
      split at h
      · rw [h]
      · exact absurd h (Nat.ne_of_gt (Nat.add_pos_right _ (Nat.two_pow_pos 52)))

theorem significand_ofNat_eq_zero_iff {n : Nat} (h : n < overflowBound) :
    (ofNat n).significand = 0 ↔ n = 0 := by
  constructor
  · intro hzero
    by_contra hn
    obtain ⟨hbits, hlow, hfinite⟩ := ofNat_eq hn h
    rw [hbits, significand, magnitudeBits_ofMagnitude hfinite] at hzero
    split at hzero
    · rw [magnitudeOf] at hzero
      omega
    · exact absurd hzero (Nat.ne_of_gt (Nat.add_pos_right _ (Nat.two_pow_pos 52)))
  · rintro rfl
    rfl

theorem ratio_zero : (ofMagnitude false 0).ratio.1 = 0 := rfl

theorem zero_over (x : Binary64) : (ofMagnitude false 0).over x = ofMagnitude false 0 := by
  rw [Binary64.over, ratio_zero, Nat.zero_mul, ofRatio, if_pos rfl]

theorem zero_times (x : Binary64) : (ofMagnitude false 0).times x = ofMagnitude false 0 := by
  rw [times, ratio_zero, Nat.zero_mul, ofRatio, if_pos rfl]

end Binary64

end JobMonitor
