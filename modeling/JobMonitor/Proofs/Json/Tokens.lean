import JobMonitor.Proofs.Json.Written

set_option autoImplicit false

/-! # Written tokens are read

Blanks and strings are read as they are written, each up to its end. A string with half of a surrogate pair
in it is refused. -/

namespace JobMonitor

/-! ## What is read of something that is written -/

section

variable {ε α β : Type}

/-- The reader gives the value and leaves what follows. If there is no value it fails. -/
def ReadsExactly (result : Except ε (α × Bytes)) (value : Option α) (s : Bytes) : Prop :=
  match value with
  | some a => result = .ok (a, s)
  | none => ∃ e, result = .error e

theorem ReadsExactly.map {result : Except ε (α × Bytes)} {value : Option α} {s : Bytes} (f : α → β)
    (h : ReadsExactly result value s) :
    ReadsExactly (result.map fun (a, s) => (f a, s)) (value.map f) s := by
  cases value with
  | some a =>
    obtain rfl : result = .ok (a, s) := h
    rfl
  | none =>
    obtain ⟨e, rfl⟩ := h
    exact ⟨e, rfl⟩

end

/-! ## Blanks -/

theorem Json.Blank.isBlank_byte (b : Json.Blank) : Json.isBlank b.byte = true := by
  cases b <;> rfl

theorem Json.skipBlank_blankBytes (blanks : List Json.Blank) (s : Bytes) :
    Json.skipBlank (Json.blankBytes blanks ++ s) = Json.skipBlank s := by
  refine List.dropWhile_append_of_pos fun b hb => ?_
  obtain ⟨blank, -, rfl⟩ := List.mem_map.1 hb
  exact blank.isBlank_byte

/-- A number does not go on behind a blank. -/
theorem Json.stopsNumber_blankBytes {s : Bytes} (h : Json.StopsNumber s) (blanks : List Json.Blank) :
    Json.StopsNumber (Json.blankBytes blanks ++ s) := by
  cases blanks with
  | nil => exact h
  | cons blank rest =>
    intro b hb
    obtain rfl : blank.byte = b := Option.some.inj hb
    cases blank <;> decide

/-! ## Escapes -/

theorem Json.HexDigit.hexValue?_byte (d : Json.HexDigit) : Json.hexValue? d.byte = some d.value.val := by
  obtain ⟨value, isUpper⟩ := d
  revert value isUpper
  decide

theorem Json.readHex_bytes (u : Json.CodeUnit) (s : Bytes) :
    Json.readHex (u.bytes ++ s) = .ok (u.value, s) := by
  show Json.readHex (u.a.byte :: u.b.byte :: u.c.byte :: u.d.byte :: s) = _
  rw [readHex, u.a.hexValue?_byte, u.b.hexValue?_byte, u.c.hexValue?_byte, u.d.hexValue?_byte]
  rfl

theorem Json.readEscape_short (e : Json.ShortEscape) (s : Bytes) :
    Json.readEscape (e.letter.toUInt8 :: s) = .ok (String.utf8EncodeChar e.char, s) := by
  cases e <;> rfl

theorem Json.readEscape_code (s : Bytes) :
    Json.readEscape ('u'.toUInt8 :: s)
      = (Json.readCodePoint s).map fun (n, s) => (String.utf8EncodeChar (Char.ofNat n), s) := by
  have hshort : Json.shortEscape? 'u'.toUInt8 = none := by decide
  rw [readEscape, hshort]
  dsimp only
  rw [if_pos rfl]
  rcases Json.readCodePoint s with _ | ⟨n, s⟩ <;> rfl

theorem Json.readTrailing_code (leading : Nat) (u : Json.CodeUnit) (s : Bytes) :
    Json.readTrailing leading ('\\'.toUInt8 :: 'u'.toUInt8 :: (u.bytes ++ s))
      = if Json.isTrailing u.value then .ok (Json.pairValue leading u.value, s)
        else .error .loneSurrogate := by
  simp only [readTrailing, ne_eq, not_true_eq_false, if_false, Json.readHex_bytes]

/-- Whatever else follows half of a pair does not complete it. -/
theorem Json.exists_readTrailing_error (leading : Nat) {units : List Json.StringUnit}
    (h : ∀ u rest, units ≠ .code u :: rest) (s : Bytes) :
    ∃ e, Json.readTrailing leading (Json.unitBytes units ++ s) = .error e := by
  cases units with
  | nil => exact ⟨.unfinishedPair, rfl⟩
  | cons unit rest =>
    cases unit with
    | plain c hquote hbackslash hcontrol =>
      obtain ⟨b, more, hbytes⟩ := List.exists_cons_of_ne_nil (String.utf8EncodeChar_ne_nil (c := c))
      have hplain := Json.isPlain_of_mem_utf8EncodeChar hquote hbackslash hcontrol
        (hbytes ▸ List.mem_cons_self)
      rw [unitBytes, List.flatMap_cons, StringUnit.bytes, hbytes]
      exact ⟨.unfinishedPair, if_pos hplain.2.1⟩
    | short e =>
      have hletter : e.letter.toUInt8 ≠ 'u'.toUInt8 := by cases e <;> decide
      exact ⟨.unfinishedPair, if_pos hletter⟩
    | code u => exact absurd rfl (h u rest)

/-! ## Strings -/

theorem Json.unitBytes_cons (unit : Json.StringUnit) (rest : List Json.StringUnit) (s : Bytes) :
    Json.unitBytes (unit :: rest) ++ s = unit.bytes ++ (Json.unitBytes rest ++ s) := by
  rw [unitBytes, unitBytes, List.flatMap_cons, List.append_assoc, List.append_assoc, List.append_assoc]

/-- An escape that cannot be read. -/
theorem Json.exists_readStringBytes_error {s : Bytes} (h : ∃ e, Json.readEscape s = .error e)
    (fuel : Nat) : ∃ e, Json.readStringBytes fuel ('\\'.toUInt8 :: s) = .error e := by
  obtain ⟨e, he⟩ := h
  cases fuel with
  | zero => exact ⟨_, rfl⟩
  | succ fuel =>
    refine ⟨e, ?_⟩
    rw [readStringBytes, if_neg (by decide), if_pos rfl, he]

/-- Half of a pair that stands by itself. -/
theorem Json.exists_readEscape_error {u : Json.CodeUnit} {s : Bytes}
    (h : Json.isTrailing u.value = true ∨
      Json.isLeading u.value = true ∧ ∃ e, Json.readTrailing u.value s = .error e) :
    ∃ e, Json.readEscape ('u'.toUInt8 :: (u.bytes ++ s)) = .error e := by
  rw [Json.readEscape_code, readCodePoint, Json.readHex_bytes]
  dsimp only
  by_cases htrailing : Json.isTrailing u.value = true
  · rw [if_pos htrailing]
    exact ⟨_, rfl⟩
  · obtain ⟨hleading, e, he⟩ := h.resolve_left htrailing
    rw [if_neg htrailing, if_pos hleading, he]
    exact ⟨e, rfl⟩

/-- An escape is read as its character, and then what follows it. -/
theorem Json.readStringBytes_of_escape {escaped left s : Bytes} {c : Char}
    {chars : Option (List Char)}
    (hread : Json.readEscape (escaped ++ left) = .ok (String.utf8EncodeChar c, left)) {fuel : Nat}
    (hfuel : ('\\'.toUInt8 :: (escaped ++ left)).length ≤ fuel)
    (hleft : ∀ fuel, left.length ≤ fuel → ReadsExactly (Json.readStringBytes fuel left)
      (chars.map fun cs => cs.flatMap String.utf8EncodeChar) s) :
    ReadsExactly (Json.readStringBytes fuel ('\\'.toUInt8 :: (escaped ++ left)))
      ((chars.map (c :: ·)).map fun cs => cs.flatMap String.utf8EncodeChar) s := by
  rw [List.length_cons, List.length_append] at hfuel
  obtain ⟨fuel, rfl⟩ : ∃ k, fuel = k + 1 := ⟨fuel - 1, by omega⟩
  have hmore := (hleft fuel (by omega)).map (String.utf8EncodeChar c ++ ·)
  have hstep := Json.readStringBytes_of_readEscape hread fuel
  rw [List.cons_append] at hstep
  rw [Option.map_map] at hmore ⊢
  rw [hstep]
  exact hmore

/-- What stands between the quotes is read as the bytes of its characters. -/
theorem Json.readStringBytes_units (units : List Json.StringUnit) {s : Bytes} {fuel : Nat}
    (h : (Json.unitBytes units ++ s).length ≤ fuel) :
    ReadsExactly (Json.readStringBytes fuel (Json.unitBytes units ++ s))
      ((Json.unitChars? units).map fun cs => cs.flatMap String.utf8EncodeChar) s := by
  -- One unit, or two that make a pair, are read at a time, as `unitChars?` takes them.
  fun_induction Json.unitChars? units generalizing fuel with
  | case1 =>
    obtain ⟨fuel, rfl⟩ : ∃ k, fuel = k + 1 := ⟨fuel - 1, by
      simp only [unitBytes, List.flatMap_nil, List.nil_append, List.length_append,
        List.length_singleton] at h
      omega⟩
    rfl
  | case2 c hquote hbackslash hcontrol rest ih =>
    rw [Json.unitBytes_cons, StringUnit.bytes] at h ⊢
    rw [List.length_append] at h
    obtain ⟨fuel, rfl⟩ : ∃ k, fuel = (String.utf8EncodeChar c).length + k :=
      ⟨fuel - (String.utf8EncodeChar c).length, by omega⟩
    rw [Json.readStringBytes_plain fun _ hmem =>
      Json.isPlain_of_mem_utf8EncodeChar hquote hbackslash hcontrol hmem]
    have hmore := (@ih fuel (by omega)).map (String.utf8EncodeChar c ++ ·)
    rw [Option.map_map] at hmore ⊢
    exact hmore
  | case3 e rest ih =>
    rw [Json.unitBytes_cons, StringUnit.bytes] at h ⊢
    exact @Json.readStringBytes_of_escape [e.letter.toUInt8] _ _ _ _ (Json.readEscape_short e _) _ h
      fun _ => ih
  | case4 u rest htrailing =>
    rw [Json.unitBytes_cons, StringUnit.bytes]
    exact Json.exists_readStringBytes_error (Json.exists_readEscape_error (.inl htrailing)) fuel
  | case5 u hnot hleading v rest htrailing ih =>
    rw [Json.unitBytes_cons, Json.unitBytes_cons, StringUnit.bytes, StringUnit.bytes] at h ⊢
    have hread : Json.readEscape ('u'.toUInt8 :: (u.bytes ++ '\\'.toUInt8 :: 'u'.toUInt8 :: v.bytes)
        ++ (Json.unitBytes rest ++ s))
        = .ok (String.utf8EncodeChar (Char.ofNat (Json.pairValue u.value v.value)),
          Json.unitBytes rest ++ s) := by
      rw [List.cons_append, List.append_assoc, List.cons_append, List.cons_append,
        Json.readEscape_code, readCodePoint, Json.readHex_bytes]
      dsimp only
      rw [if_neg hnot, if_pos hleading, Json.readTrailing_code, if_pos htrailing]
      rfl
    exact Json.readStringBytes_of_escape hread h fun _ => ih
  | case6 u hnot hleading v rest hother =>
    rw [Json.unitBytes_cons, Json.unitBytes_cons, StringUnit.bytes, StringUnit.bytes]
    refine Json.exists_readStringBytes_error (Json.exists_readEscape_error (.inr ⟨hleading, ?_⟩)) fuel
    exact ⟨.loneSurrogate, (Json.readTrailing_code _ v _).trans (if_neg hother)⟩
  | case7 u rest hnot hleading hother =>
    rw [Json.unitBytes_cons, StringUnit.bytes]
    refine Json.exists_readStringBytes_error (Json.exists_readEscape_error (.inr ⟨hleading, ?_⟩)) fuel
    exact Json.exists_readTrailing_error _ hother s
  | case8 u rest hnot hleading ih =>
    rw [Json.unitBytes_cons, StringUnit.bytes] at h ⊢
    have hread : Json.readEscape ('u'.toUInt8 :: u.bytes ++ (Json.unitBytes rest ++ s))
        = .ok (String.utf8EncodeChar (Char.ofNat u.value), Json.unitBytes rest ++ s) := by
      rw [List.cons_append, Json.readEscape_code, readCodePoint, Json.readHex_bytes]
      dsimp only
      rw [if_neg hnot, if_neg hleading]
      rfl
    exact Json.readStringBytes_of_escape hread h fun _ => ih

/-- A string is read behind its opening quote as the text that is written. -/
theorem Json.readString_units (units : List Json.StringUnit) (s : Bytes) :
    ReadsExactly (Json.readString (Json.unitBytes units ++ s)) (Json.unitText? units) s := by
  have hbytes := Json.readStringBytes_units units (Nat.le_refl (Json.unitBytes units ++ s).length)
  rw [readString, unitText?]
  cases hchars : Json.unitChars? units with
  | none =>
    rw [hchars] at hbytes
    obtain ⟨e, he⟩ := hbytes
    rw [he]
    exact ⟨e, rfl⟩
  | some cs =>
    rw [hchars] at hbytes
    have hread : Json.readStringBytes _ _ = .ok (cs.flatMap String.utf8EncodeChar, s) := hbytes
    have htext : Bytes.toText? (cs.flatMap String.utf8EncodeChar) = some (String.ofList cs) := by
      have := Bytes.toText?_ofText (String.ofList cs)
      rwa [Bytes.ofText, String.toList_ofList] at this
    rw [hread]
    dsimp only
    rw [htext]
    rfl

end JobMonitor
