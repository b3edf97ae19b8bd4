import JobMonitor.Number.Shortest
import JobMonitor.Proofs.Number.Decimal

set_option autoImplicit false

/-! # The characters of number texts

Whatever the digits of a number are and wherever the point is put, its text is made of digits, signs,
points and letters. So there is no control character in it, unless there is one in the words of the
notation. -/

namespace JobMonitor

/-! ## Texts without control characters -/

/-- There are no line breaks and no other control characters in the text. -/
def IsPrintableText (text : List Char) : Prop := ∀ c ∈ text, 0x20 ≤ c.toNat

-- Characters are finitely many, and an instance that goes through all of them would be found as well.
instance (text : List Char) : Decidable (IsPrintableText text) :=
  List.decidableBAll (fun c : Char => 0x20 ≤ c.toNat) text

theorem isPrintableText_append {text more : List Char} :
    IsPrintableText (text ++ more) ↔ IsPrintableText text ∧ IsPrintableText more :=
  List.forall_mem_append

theorem isPrintableText_cons {c : Char} {text : List Char} :
    IsPrintableText (c :: text) ↔ 0x20 ≤ c.toNat ∧ IsPrintableText text :=
  List.forall_mem_cons

theorem IsPrintableText.of_subset {text more : List Char} (h : IsPrintableText more)
    (hsubset : text ⊆ more) : IsPrintableText text :=
  fun c hc => h c (hsubset hc)

theorem isPrintableText_decimalDigits (n : Nat) : IsPrintableText (decimalDigits n) := by
  intro c hc
  have hdigit := isDigitChar_iff.1 (isDigitChar_of_mem_decimalDigits hc)
  omega

theorem isPrintableText_signedDigits (n : Int) : IsPrintableText (signedDigits n) := by
  rw [signedDigits]
  split
  · exact isPrintableText_cons.2 ⟨by decide, isPrintableText_decimalDigits _⟩
  · exact isPrintableText_decimalDigits _

/-! ## Notations -/

theorem isPrintableText_zeros (count : Nat) : IsPrintableText (List.replicate count '0') := by
  intro c hc
  rw [List.eq_of_mem_replicate hc]
  decide

theorem ShortDecimal.isPrintableText_positional (keepsPoint : Bool) (d : ShortDecimal) :
    IsPrintableText (d.positional keepsPoint) := by
  have hdigits := isPrintableText_decimalDigits d.digits
  rw [positional]
  split
  · refine isPrintableText_append.2
      ⟨isPrintableText_append.2 ⟨hdigits, isPrintableText_zeros _⟩, ?_⟩
    cases keepsPoint <;> decide
  · split
    · exact isPrintableText_append.2 ⟨hdigits.of_subset (List.take_subset _ _),
        isPrintableText_cons.2 ⟨by decide, hdigits.of_subset (List.drop_subset _ _)⟩⟩
    · exact isPrintableText_append.2 ⟨isPrintableText_cons.2
        ⟨by decide, isPrintableText_cons.2 ⟨by decide, isPrintableText_zeros _⟩⟩, hdigits⟩

theorem ShortDecimal.isPrintableText_scientific (signsExponent : Bool) (d : ShortDecimal) :
    IsPrintableText (d.scientific signsExponent) := by
  have hdigits := isPrintableText_decimalDigits d.digits
  have hfraction : IsPrintableText
      (if (decimalDigits d.digits).length > 1 then '.' :: (decimalDigits d.digits).drop 1 else []) := by
    split
    · exact isPrintableText_cons.2 ⟨by decide, hdigits.of_subset (List.drop_subset _ _)⟩
    · decide
  simp only [scientific, isPrintableText_append, isPrintableText_cons]
  refine ⟨⟨⟨hdigits.of_subset (List.take_subset _ _), hfraction⟩, by decide, ?_⟩,
    isPrintableText_signedDigits _⟩
  split <;> decide

/-- The words for what is not finite decide. -/
theorem FloatNotation.isPrintableText_write {f : FloatNotation}
    (hinfinity : IsPrintableText f.infinity.toList) (hnan : IsPrintableText f.nan.toList)
    (x : Binary64) : IsPrintableText (f.write x).toList := by
  have hsigned : ∀ {text : String}, IsPrintableText text.toList →
      IsPrintableText ((if x.isNegative then "-" else "") ++ text).toList := by
    intro text htext
    rw [String.toList_append, isPrintableText_append]
    refine ⟨?_, htext⟩
    split <;> decide
  have hfinite : ∀ isPositional : Bool, IsPrintableText (if isPositional then
      x.shortest.positional f.keepsPoint else x.shortest.scientific f.signsExponent) := by
    intro isPositional
    cases isPositional
    · exact x.shortest.isPrintableText_scientific f.signsExponent
    · exact x.shortest.isPrintableText_positional f.keepsPoint
  rw [write]
  split
  · exact hnan
  · split
    · exact hsigned hinfinity
    · split
      · refine hsigned ?_
        cases f.keepsPoint <;> decide
      · refine hsigned ?_
        rw [String.toList_ofList]
        exact hfinite _

end JobMonitor
