import JobMonitor.Json.Lexical
import JobMonitor.Json.Printer
import JobMonitor.Proofs.Number.Notation

set_option autoImplicit false

/-! # JSON strings are read back

A quoted string is read byte by byte. What stands for a character in it gives the UTF-8 bytes of the
character, whether it is the character itself or an escape, so that the bytes up to the closing
quote are those of the text. -/

namespace JobMonitor

/-! ## UTF-8 -/

/-- A byte of an ASCII character is its number, and the bytes of other characters are not ASCII. -/
theorem toNat_of_mem_utf8EncodeChar {c : Char} {b : UInt8} (h : b ∈ String.utf8EncodeChar c) :
    b.toNat = c.toNat ∨ 0x80 ≤ b.toNat ∧ 0x80 ≤ c.toNat := by
  have hc : c.val.toNat = c.toNat := rfl
  rw [String.utf8EncodeChar] at h
  simp only [hc] at h
  split at h
  · rw [List.mem_singleton.1 h, UInt8.toNat_ofNat']
    omega
  · split at h
    · simp only [List.mem_cons, List.not_mem_nil, or_false] at h
      rcases h with rfl | rfl <;> rw [UInt8.toNat_ofNat'] <;> omega
    · split at h
      · simp only [List.mem_cons, List.not_mem_nil, or_false] at h
        rcases h with rfl | rfl | rfl <;> rw [UInt8.toNat_ofNat'] <;> omega
      · simp only [List.mem_cons, List.not_mem_nil, or_false] at h
        rcases h with rfl | rfl | rfl | rfl <;> rw [UInt8.toNat_ofNat'] <;> omega

theorem utf8EncodeChar_of_lt {c : Char} (h : c.toNat < 0x80) :
    String.utf8EncodeChar c = [UInt8.ofNat c.toNat] := by
  have hc : c.val.toNat ≤ 0x7F := Nat.le_of_lt_succ h
  rw [String.utf8EncodeChar]
  exact if_pos hc

/-! ## Escapes -/

/-- A byte that stands for itself inside a quoted string. -/
def Json.IsPlain (b : UInt8) : Prop := b ≠ '"'.toUInt8 ∧ b ≠ '\\'.toUInt8 ∧ ¬ b < 0x20

theorem Json.isPlain_of_mem_utf8EncodeChar {c : Char} (hquote : c ≠ '"') (hbackslash : c ≠ '\\')
    (hcontrol : ¬ c.toNat < 0x20) {b : UInt8} (h : b ∈ String.utf8EncodeChar c) :
    Json.IsPlain b := by
  have hnumber : ∀ d : Char, c ≠ d → c.toNat ≠ d.toNat := fun d hd heq =>
    hd (by rw [← Char.ofNat_toNat c, heq, Char.ofNat_toNat])
  have hquote' : c.toNat ≠ 34 := hnumber '"' hquote
  have hbackslash' : c.toNat ≠ 92 := hnumber '\\' hbackslash
  have hb := toNat_of_mem_utf8EncodeChar h
  refine ⟨?_, ?_, ?_⟩
  · rintro rfl
    have : ('"'.toUInt8).toNat = 34 := rfl
    omega
  · rintro rfl
    have : ('\\'.toUInt8).toNat = 92 := rfl
    omega
  · rw [UInt8.lt_iff_toNat_lt]
    have : (0x20 : UInt8).toNat = 32 := rfl
    omega

theorem Json.readStringBytes_plain {bytes : Bytes} (h : ∀ b ∈ bytes, Json.IsPlain b) (fuel : Nat)
    (s : Bytes) :
    Json.readStringBytes (bytes.length + fuel) (bytes ++ s)
      = (Json.readStringBytes fuel s).map fun (more, s) => (bytes ++ more, s) := by
  induction bytes with
  | nil =>
    rw [List.length_nil, Nat.zero_add, List.nil_append]
    cases Json.readStringBytes fuel s <;> rfl
  | cons b rest ih =>
    obtain ⟨hquote, hbackslash, hcontrol⟩ := h b List.mem_cons_self
    rw [List.length_cons, Nat.add_right_comm, List.cons_append, readStringBytes, if_neg hquote,
      if_neg hbackslash, if_neg hcontrol, ih fun b hb => h b (List.mem_cons_of_mem _ hb)]
    cases Json.readStringBytes fuel s <;> rfl

theorem hexValue?_hexChar {d : Nat} (h : d < 16) :
    Json.hexValue? (UInt8.ofNat (hexChar d).toNat) = some d := by
  revert d
  decide

theorem utf8EncodeChar_hexChar {d : Nat} (h : d < 16) :
    String.utf8EncodeChar (hexChar d) = [UInt8.ofNat (hexChar d).toNat] := by
  revert d
  decide

/-- A control character is escaped by its number. -/
theorem Json.readEscape_control {c : Char} (h : c.toNat < 0x20) (s : Bytes) :
    Json.readEscape ((['u', '0', '0', hexChar (c.toNat / 16), hexChar (c.toNat % 16)]).flatMap
      String.utf8EncodeChar ++ s) = .ok (String.utf8EncodeChar c, s) := by
  have hhigh : c.toNat / 16 < 16 := by omega
  have hlow : c.toNat % 16 < 16 := by omega
  have hvalue : 0 * 4096 + 0 * 256 + c.toNat / 16 * 16 + c.toNat % 16 = c.toNat := by omega
  have hread : Json.readHex (0x30 :: 0x30 :: UInt8.ofNat (hexChar (c.toNat / 16)).toNat
      :: UInt8.ofNat (hexChar (c.toNat % 16)).toNat :: s) = .ok (c.toNat, s) := by
    rw [readHex, hexValue?_hexChar hhigh, hexValue?_hexChar hlow]
    show Except.ok (0 * 4096 + 0 * 256 + c.toNat / 16 * 16 + c.toNat % 16, s) = _
    rw [hvalue]
  have hbytes : (['u', '0', '0', hexChar (c.toNat / 16), hexChar (c.toNat % 16)]).flatMap
      String.utf8EncodeChar ++ s = 'u'.toUInt8 :: 0x30 :: 0x30
        :: UInt8.ofNat (hexChar (c.toNat / 16)).toNat
        :: UInt8.ofNat (hexChar (c.toNat % 16)).toNat :: s := by
    simp only [List.flatMap_cons, List.flatMap_nil, utf8EncodeChar_hexChar hhigh,
      utf8EncodeChar_hexChar hlow]
    rfl
  have htrailing : Json.isTrailing c.toNat = false := by
    simp only [isTrailing, Bool.and_eq_false_iff, decide_eq_false_iff_not]
    omega
  have hleading : Json.isLeading c.toNat = false := by
    simp only [isLeading, Bool.and_eq_false_iff, decide_eq_false_iff_not]
    omega
  have hcode : Json.readCodePoint (0x30 :: 0x30 :: UInt8.ofNat (hexChar (c.toNat / 16)).toNat
      :: UInt8.ofNat (hexChar (c.toNat % 16)).toNat :: s) = .ok (c.toNat, s) := by
    rw [readCodePoint, hread]
    simp only [htrailing, hleading, Bool.false_eq_true, if_false]
  have hshort : Json.shortEscape? 'u'.toUInt8 = none := by decide
  rw [hbytes, readEscape, hshort]
  simp only [if_true, hcode, Char.ofNat_toNat]

theorem Json.readStringBytes_of_readEscape {escaped bytes s : Bytes}
    (h : Json.readEscape (escaped ++ s) = .ok (bytes, s)) (fuel : Nat) :
    Json.readStringBytes (fuel + 1) ('\\'.toUInt8 :: escaped ++ s)
      = (Json.readStringBytes fuel s).map fun (more, s) => (bytes ++ more, s) := by
  rw [List.cons_append, readStringBytes, if_neg (by decide), if_pos rfl, h]

/-- A character is escaped by a letter or by its number, or it stands for itself. -/
theorem Json.escape_cases (c : Char) :
    (∃ d, Json.escape c = ['\\', d] ∧ 0x20 ≤ d.toNat ∧
        ∀ s, Json.readEscape (String.utf8EncodeChar d ++ s) = .ok (String.utf8EncodeChar c, s)) ∨
      (c.toNat < 0x20 ∧
        Json.escape c = ['\\', 'u', '0', '0', hexChar (c.toNat / 16), hexChar (c.toNat % 16)]) ∨
      (c ≠ '"' ∧ c ≠ '\\' ∧ ¬ c.toNat < 0x20 ∧ Json.escape c = [c]) := by
  by_cases hquote : c = '"'
  · exact .inl ⟨'"', by rw [hquote]; rfl, by decide, fun s => by rw [hquote]; rfl⟩
  by_cases hbackslash : c = '\\'
  · exact .inl ⟨'\\', by rw [hbackslash]; rfl, by decide, fun s => by rw [hbackslash]; rfl⟩
  by_cases hb : c = '\x08'
  · exact .inl ⟨'b', by rw [hb]; rfl, by decide, fun s => by rw [hb]; rfl⟩
  by_cases hf : c = '\x0C'
  · exact .inl ⟨'f', by rw [hf]; rfl, by decide, fun s => by rw [hf]; rfl⟩
  by_cases hn : c = '\n'
  · exact .inl ⟨'n', by rw [hn]; rfl, by decide, fun s => by rw [hn]; rfl⟩
  by_cases hr : c = '\r'
  · exact .inl ⟨'r', by rw [hr]; rfl, by decide, fun s => by rw [hr]; rfl⟩
  by_cases ht : c = '\t'
  · exact .inl ⟨'t', by rw [ht]; rfl, by decide, fun s => by rw [ht]; rfl⟩
  -- Only characters without a letter of their own are escaped by their number.
  by_cases hcontrol : c.toNat < 0x20
  · refine .inr (.inl ⟨hcontrol, ?_⟩)
    simp only [escape, hquote, hbackslash, hb, hf, hn, hr, ht, hcontrol, if_true, if_false]
  · refine .inr (.inr ⟨hquote, hbackslash, hcontrol, ?_⟩)
    simp only [escape, hquote, hbackslash, hb, hf, hn, hr, ht, hcontrol, if_false]

theorem Json.readStringBytes_escaped {c : Char} {escaped : List Char} {s : Bytes} {fuel : Nat}
    (hescape : Json.escape c = '\\' :: escaped)
    (hread : Json.readEscape (escaped.flatMap String.utf8EncodeChar ++ s)
      = .ok (String.utf8EncodeChar c, s))
    (h : ((Json.escape c).flatMap String.utf8EncodeChar ++ s).length ≤ fuel) :
    ∃ left, s.length ≤ left ∧
      Json.readStringBytes fuel ((Json.escape c).flatMap String.utf8EncodeChar ++ s)
        = (Json.readStringBytes left s).map fun (more, s) => (String.utf8EncodeChar c ++ more, s) := by
  have hbytes : (Json.escape c).flatMap String.utf8EncodeChar
      = '\\'.toUInt8 :: escaped.flatMap String.utf8EncodeChar := by
    rw [hescape]
    rfl
  rw [hbytes] at h ⊢
  simp only [List.cons_append, List.length_cons, List.length_append] at h
  refine ⟨fuel - 1, by omega, ?_⟩
  have hnext := Json.readStringBytes_of_readEscape hread (fuel - 1)
  rwa [Nat.sub_add_cancel (by omega)] at hnext

/-- What stands for a character is read as the bytes of the character. -/
theorem Json.readStringBytes_escape (c : Char) {s : Bytes} {fuel : Nat}
    (h : ((Json.escape c).flatMap String.utf8EncodeChar ++ s).length ≤ fuel) :
    ∃ left, s.length ≤ left ∧
      Json.readStringBytes fuel ((Json.escape c).flatMap String.utf8EncodeChar ++ s)
        = (Json.readStringBytes left s).map fun (more, s) => (String.utf8EncodeChar c ++ more, s) := by
  rcases Json.escape_cases c with
    ⟨d, hescape, -, hread⟩ | ⟨hcontrol, hescape⟩ | ⟨hquote, hbackslash, hcontrol, hself⟩
  · refine Json.readStringBytes_escaped hescape ?_ h
    rw [List.flatMap_cons, List.flatMap_nil, List.append_nil]
    exact hread s
  · exact Json.readStringBytes_escaped hescape (Json.readEscape_control hcontrol s) h
  · -- The bytes of a plain character are read one by one, each for a step of the fuel.
    rw [hself, List.flatMap_cons, List.flatMap_nil, List.append_nil] at h ⊢
    rw [List.length_append] at h
    refine ⟨fuel - (String.utf8EncodeChar c).length, by omega, ?_⟩
    have hnext := Json.readStringBytes_plain (fun _ hmem => Json.isPlain_of_mem_utf8EncodeChar hquote
      hbackslash hcontrol hmem) (fuel - (String.utf8EncodeChar c).length) s
    rwa [Nat.add_sub_cancel' (by omega)] at hnext

/-! ## Whole strings -/

/-- The bytes of a quoted string behind its opening quote, up to the closing one. -/
theorem Json.readStringBytes_quoted (cs : List Char) {s : Bytes} {fuel : Nat}
    (h : ((cs.flatMap Json.escape).flatMap String.utf8EncodeChar ++ '"'.toUInt8 :: s).length ≤ fuel) :
    Json.readStringBytes fuel
        ((cs.flatMap Json.escape).flatMap String.utf8EncodeChar ++ '"'.toUInt8 :: s)
      = .ok (cs.flatMap String.utf8EncodeChar, s) := by
  induction cs generalizing fuel with
  | nil =>
    cases fuel with
    | zero => exact absurd h (Nat.not_succ_le_zero _)
    | succ fuel => rfl
  | cons c rest ih =>
    rw [List.flatMap_cons, List.flatMap_append, List.append_assoc] at h ⊢
    obtain ⟨left, hleft, hread⟩ := Json.readStringBytes_escape c h
    rw [hread, ih hleft]
    rfl

theorem Json.bytes_quoted (text : String) :
    (Json.quoted text).flatMap String.utf8EncodeChar
      = '"'.toUInt8 :: ((text.toList.flatMap Json.escape).flatMap String.utf8EncodeChar
        ++ ['"'.toUInt8]) := by
  rw [quoted, List.cons_append, List.flatMap_cons, List.flatMap_append]
  rfl

/-- A quoted string is read behind its opening quote as the text that it was made of. -/
theorem Json.readString_quoted (text : String) (s : Bytes) :
    Json.readString ((text.toList.flatMap Json.escape).flatMap String.utf8EncodeChar
      ++ '"'.toUInt8 :: s) = .ok (text, s) := by
  rw [readString, Json.readStringBytes_quoted text.toList (Nat.le_refl _)]
  have htext : Bytes.toText? (text.toList.flatMap String.utf8EncodeChar) = some text :=
    Bytes.toText?_ofText text
  simp only [htext]

/-! ## Control characters -/

/-- There are no line breaks and no other control characters among the bytes. -/
def Bytes.IsPrintable (s : Bytes) : Prop := ∀ b ∈ s, ¬ b < 0x20

theorem le_toNat_hexChar {n : Nat} (h : n < 16) : 0x20 ≤ (hexChar n).toNat := by
  revert n
  decide

/-- No control character stands for a character of a string. -/
theorem Json.isPrintableText_escape (c : Char) : IsPrintableText (Json.escape c) := by
  intro d h
  rcases Json.escape_cases c with
    ⟨letter, hescape, hletter, -⟩ | ⟨hcontrol, hescape⟩ | ⟨-, -, hcontrol, hself⟩
  · rw [hescape, List.mem_cons, List.mem_singleton] at h
    rcases h with rfl | rfl
    · decide
    · exact hletter
  · have hhigh := @le_toNat_hexChar (c.toNat / 16) (by omega)
    have hlow := @le_toNat_hexChar (c.toNat % 16) (by omega)
    simp only [hescape, List.mem_cons, List.not_mem_nil, or_false] at h
    rcases h with rfl | rfl | rfl | rfl | rfl | rfl
    · decide
    · decide
    · decide
    · decide
    · exact hhigh
    · exact hlow
  · rw [hself] at h
    rw [List.mem_singleton.1 h]
    exact Nat.not_lt.1 hcontrol

theorem Json.isPrintableText_quoted (text : String) : IsPrintableText (Json.quoted text) := by
  rw [quoted, isPrintableText_append, isPrintableText_cons]
  refine ⟨⟨by decide, fun d hd => ?_⟩, by decide⟩
  obtain ⟨c, -, hd⟩ := List.mem_flatMap.1 hd
  exact Json.isPrintableText_escape c d hd

/-- The bytes of characters that are no control characters are none either. -/
theorem isPrintable_utf8Encode {text : List Char} (h : IsPrintableText text) :
    Bytes.IsPrintable (text.flatMap String.utf8EncodeChar) := by
  intro b hb
  obtain ⟨c, hc, hb⟩ := List.mem_flatMap.1 hb
  have hc := h c hc
  have hb := toNat_of_mem_utf8EncodeChar hb
  rw [UInt8.lt_iff_toNat_lt]
  have : (0x20 : UInt8).toNat = 32 := rfl
  omega

end JobMonitor
