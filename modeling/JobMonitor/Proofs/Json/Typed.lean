import JobMonitor.Json.Typed
import JobMonitor.Proofs.Json.Values

set_option autoImplicit false

/-! # Typed data is read back

The readers of typed data find in the compact text of a value what the value was made of, and leave
what follows. A member that nobody asks for is skipped: a string that can be read can be skipped as
well, and what follows it is the same. -/

namespace JobMonitor

/-! ## Scalars -/

theorem Json.readNumeric_integer {α : Type} {wanted : String}
    {convert : JsonNumber → Except Json.ReadError α} {n : JsonInteger} {a : α}
    (hconvert : convert (.integer n) = .ok a) {s : Bytes} (hs : Json.StopsNumber s) :
    Json.readNumeric wanted convert ((Json.number (.integer n)).bytes ++ s) = .ok (a, s) := by
  obtain ⟨b, t, hbytes, ⟨hlead, hread⟩ | ⟨hlead, hread⟩⟩ := Json.readNumber_integer n hs
  all_goals
    have hblank := (Json.isBlank_of_lead_ne_other (b := b) (by rw [hlead]; decide)).1
    rw [hbytes, readNumeric, Json.skipBlank_cons hblank]
    simp only [hlead, hread, hconvert]
    rfl

theorem Json.readInt64_bytes (n : Int64) {s : Bytes} (hs : Json.StopsNumber s) :
    Json.readInt64 ((Json.ofInt64 n).bytes ++ s) = .ok (n, s) := by
  refine Json.readNumeric_integer ?_ hs
  rw [JsonNumber.int64, JsonNumber.integerIn, if_pos ⟨n.le_toInt, Int.le_sub_one_of_lt n.toInt_lt⟩]
  show Except.ok (Int64.ofInt n.toInt) = _
  rw [Int64.ofInt_toInt]

theorem Json.readInt32_bytes (n : Int32) (h : IsJsonInteger n.toInt) {s : Bytes}
    (hs : Json.StopsNumber s) :
    Json.readInt32 ((Json.number (.integer ⟨n.toInt, h⟩)).bytes ++ s) = .ok (n, s) := by
  refine Json.readNumeric_integer ?_ hs
  rw [JsonNumber.int32, JsonNumber.integerIn, if_pos ⟨n.le_toInt, Int.le_sub_one_of_lt n.toInt_lt⟩]
  show Except.ok (Int32.ofInt n.toInt) = _
  rw [Int32.ofInt_toInt]

theorem Json.bytes_string_append (text : String) (s : Bytes) :
    (Json.string text).bytes ++ s = '"'.toUInt8
      :: ((text.toList.flatMap Json.escape).flatMap String.utf8EncodeChar ++ '"'.toUInt8 :: s) := by
  rw [bytes, chars, Json.bytes_quoted, List.cons_append, List.append_assoc]
  rfl

theorem Json.readText_bytes (wanted text : String) (s : Bytes) :
    Json.readText wanted ((Json.string text).bytes ++ s) = .ok (text, s) := by
  rw [Json.bytes_string_append, readText, Json.skipBlank_cons (by decide)]
  show (Json.readString _).mapError _ = _
  rw [Json.readString_quoted]
  rfl

/-! ## Lists and objects -/

theorem Json.readListOf_bytes {α : Type} {read : Bytes → Json.Reading α} {value : α → Json}
    {items : List α} (hstart : ∀ a ∈ items, Json.StartsValue (value a).bytes)
    (hread : ∀ a ∈ items, ∀ s, Json.StopsNumber s → read ((value a).bytes ++ s) = .ok (a, s))
    (s : Bytes) : Json.readListOf read ((Json.array (items.map value)).bytes ++ s) = .ok (items, s) := by
  have hlist := @Json.readList_joined _ _ _ Json.ReadError.text read (fun a => (value a).bytes) id
    items hstart hread s
  rw [Json.bytes_array, List.cons_append, List.append_assoc, List.singleton_append, readListOf,
    Json.skipBlank_cons (by decide), List.map_map]
  rw [List.map_id] at hlist
  exact hlist

theorem Json.readRecord_bytes {α : Type} (wanted : String) (object list : Bytes → Json.Reading α)
    (members : List (String × Json)) (s : Bytes) :
    Json.readRecord wanted object list ((Json.object members).bytes ++ s)
      = object (Json.joined ((members.map Json.memberBytes).map ('"'.toUInt8 :: ·))
        ++ '}'.toUInt8 :: s) := by
  rw [Json.bytes_object, List.cons_append, List.append_assoc, List.singleton_append, readRecord,
    Json.skipBlank_cons (by decide), List.map_map]
  rfl

theorem Json.readMemberValue_colon {α : Type} (read : Bytes → Json.Reading α) (s : Bytes) :
    Json.readMemberValue read (':'.toUInt8 :: s) = read s := rfl

/-! ## Escapes that are read -/

theorem Json.length_of_readHex {s rest : Bytes} {n : Nat} (h : Json.readHex s = .ok (n, rest)) :
    s.length = rest.length + 4 := by
  rw [readHex.eq_def] at h
  split at h
  · split at h
    · cases h
      rfl
    · cases h
  · cases h

/-- The second half of a surrogate pair is an escape of its own. -/
theorem Json.of_readTrailing {s rest : Bytes} {leading n : Nat}
    (h : Json.readTrailing leading s = .ok (n, rest)) :
    ∃ t unit, s = '\\'.toUInt8 :: 'u'.toUInt8 :: t ∧ Json.readHex t = .ok (unit, rest) := by
  rw [readTrailing.eq_def] at h
  split at h
  · cases h
  · split at h
    · cases h
    · next hb =>
      split at h
      · cases h
      · split at h
        · cases h
        · next hu =>
          obtain rfl := Decidable.of_not_not hb
          obtain rfl := Decidable.of_not_not hu
          split at h
          · cases h
          · next unit t hhex =>
            split at h
            · cases h
              exact ⟨_, unit, rfl, hhex⟩
            · cases h

theorem Json.of_readCodePoint {s rest : Bytes} {n : Nat}
    (h : Json.readCodePoint s = .ok (n, rest)) :
    ∃ unit t, Json.readHex s = .ok (unit, t) ∧
      (t = rest ∨ Json.readTrailing unit t = .ok (n, rest)) := by
  rw [readCodePoint] at h
  split at h
  · cases h
  · next unit t hhex =>
    split at h
    · cases h
    · split at h
      · exact ⟨unit, t, hhex, .inr h⟩
      · cases h
        exact ⟨_, _, hhex, .inl rfl⟩

theorem Json.of_readEscape {b : UInt8} {s rest bytes : Bytes}
    (h : Json.readEscape (b :: s) = .ok (bytes, rest)) :
    (∃ c, Json.shortEscape? b = some c) ∧ s = rest ∨
      b = 'u'.toUInt8 ∧ ∃ n, Json.readCodePoint s = .ok (n, rest) := by
  rw [readEscape] at h
  split at h
  · next c hshort =>
    cases h
    exact .inl ⟨⟨c, hshort⟩, rfl⟩
  · split at h
    · next hu =>
      split at h
      · cases h
      · next n rest' hcode =>
        cases h
        exact .inr ⟨hu, n, hcode⟩
    · cases h

/-! ## Skipped strings -/

theorem Json.skipEscape_u {s rest : Bytes} {unit : Nat} (h : Json.readHex s = .ok (unit, rest)) :
    Json.skipEscape ('u'.toUInt8 :: s) = .ok rest := by
  show (Json.readHex s).map _ = _
  rw [h]
  rfl

/-- Whatever is read as an escape is skipped as one, or as two if it is a surrogate pair. -/
theorem Json.skipEscape_of_readEscape {s rest bytes : Bytes}
    (h : Json.readEscape s = .ok (bytes, rest)) :
    rest.length < s.length ∧ Json.skipEscape s = .ok rest ∨
      ∃ t, rest.length < t.length ∧ t.length + 1 < s.length ∧
        Json.skipEscape s = .ok ('\\'.toUInt8 :: t) ∧ Json.skipEscape t = .ok rest := by
  cases s with
  | nil => cases h
  | cons b s =>
    rcases Json.of_readEscape h with ⟨⟨c, hshort⟩, rfl⟩ | ⟨rfl, n, hcode⟩
    · refine .inl ⟨Nat.lt_succ_self _, ?_⟩
      rw [skipEscape, hshort]
      rfl
    · obtain ⟨unit, t, hhex, rfl | hpair⟩ := Json.of_readCodePoint hcode
      · have hlength := Json.length_of_readHex hhex
        exact .inl ⟨by rw [List.length_cons]; omega, Json.skipEscape_u hhex⟩
      · -- A pair is skipped half by half.
        obtain ⟨t', unit', rfl, hhex'⟩ := Json.of_readTrailing hpair
        have hlength := Json.length_of_readHex hhex
        have hlength' := Json.length_of_readHex hhex'
        simp only [List.length_cons] at hlength ⊢
        exact .inr ⟨'u'.toUInt8 :: t', by rw [List.length_cons]; omega,
          by rw [List.length_cons]; omega, Json.skipEscape_u hhex, Json.skipEscape_u hhex'⟩

/-- A string that goes on with a byte ends there, or goes on behind an escape or behind the byte. -/
theorem Json.of_readStringBytes {fuel : Nat} {b : UInt8} {s rest bytes : Bytes}
    (h : Json.readStringBytes (fuel + 1) (b :: s) = .ok (bytes, rest)) :
    b = '"'.toUInt8 ∧ s = rest ∨
      (b = '\\'.toUInt8 ∧ ∃ decoded s' more, Json.readEscape s = .ok (decoded, s') ∧
        Json.readStringBytes fuel s' = .ok (more, rest)) ∨
      (b ≠ '"'.toUInt8 ∧ b ≠ '\\'.toUInt8 ∧ ¬ b < 0x20 ∧
        ∃ more, Json.readStringBytes fuel s = .ok (more, rest)) := by
  have hmore : ∀ {s : Bytes} {f : Bytes → Bytes},
      (Json.readStringBytes fuel s).map (fun r => (f r.1, r.2)) = .ok (bytes, rest) →
      ∃ more, Json.readStringBytes fuel s = .ok (more, rest) := by
    intro s f h
    cases hread : Json.readStringBytes fuel s with
    | error e =>
      rw [hread] at h
      cases h
    | ok r =>
      rw [hread] at h
      cases h
      exact ⟨r.1, rfl⟩
  rw [readStringBytes] at h
  split at h
  · next hquote =>
    cases h
    exact .inl ⟨hquote, rfl⟩
  · next hquote =>
    split at h
    · next hbackslash =>
      split at h
      · cases h
      · next decoded s' hescape =>
        obtain ⟨more, hread⟩ := hmore h
        exact .inr (.inl ⟨hbackslash, decoded, s', more, hescape, hread⟩)
    · next hbackslash =>
      split at h
      · cases h
      · next hcontrol => exact .inr (.inr ⟨hquote, hbackslash, hcontrol, hmore h⟩)

theorem Json.skipStringBytes_escape {left : Nat} {s t : Bytes} (h : Json.skipEscape s = .ok t) :
    Json.skipStringBytes (left + 1) ('\\'.toUInt8 :: s) = Json.skipStringBytes left t := by
  rw [skipStringBytes, if_neg (by decide), if_pos rfl, h]

/-- A string that is read can be skipped. -/
theorem Json.skipStringBytes_of_readStringBytes {fuel : Nat} {s rest bytes : Bytes}
    (h : Json.readStringBytes fuel s = .ok (bytes, rest)) {left : Nat} (hleft : s.length ≤ left) :
    Json.skipStringBytes left s = .ok rest := by
  induction fuel generalizing s rest bytes left with
  | zero => cases h
  | succ fuel ih =>
    cases s with
    | nil => cases h
    | cons b s =>
      obtain ⟨left, rfl⟩ : ∃ k, left = k + 1 := Nat.exists_eq_succ_of_ne_zero (by
        rintro rfl
        exact absurd hleft (Nat.not_succ_le_zero _))
      have hleft := Nat.le_of_succ_le_succ hleft
      rcases Json.of_readStringBytes h with ⟨rfl, rfl⟩ | ⟨rfl, decoded, s', more, hescape, hread⟩ |
        ⟨hquote, hbackslash, hcontrol, more, hread⟩
      · rw [skipStringBytes, if_pos rfl]
      · rcases Json.skipEscape_of_readEscape hescape with
          ⟨hlt, hskip⟩ | ⟨t, hlt, hlt', hskip, hskip'⟩
        · rw [Json.skipStringBytes_escape hskip]
          exact ih hread (by omega)
        · -- Two escapes take two steps.
          obtain ⟨left, rfl⟩ : ∃ k, left = k + 1 := ⟨left - 1, by omega⟩
          rw [Json.skipStringBytes_escape hskip, Json.skipStringBytes_escape hskip']
          exact ih hread (by omega)
      · rw [skipStringBytes, if_neg hquote, if_neg hbackslash, if_neg hcontrol]
        exact ih hread hleft

theorem Json.skipString_of_readString {s rest : Bytes} {text : String}
    (h : Json.readString s = .ok (text, rest)) : Json.skipString s = .ok rest := by
  rw [readString] at h
  split at h
  · cases h
  · next bytes rest' hread =>
    split at h
    · cases h
      exact Json.skipStringBytes_of_readStringBytes hread (Nat.le_refl _)
    · cases h

/-- A member that holds a string is skipped behind its key. -/
theorem Json.skipMemberValue_string (text : String) (s : Bytes) :
    Json.skipMemberValue (':'.toUInt8 :: ((Json.string text).bytes ++ s)) = .ok s := by
  have hskip := Json.skipString_of_readString (Json.readString_quoted text s)
  rw [Json.bytes_string_append, skipMemberValue]
  show (Json.skipValue ('"'.toUInt8 :: _)).mapError _ = _
  rw [skipValue, List.length_cons, skipNested, Json.skipBlank_cons (by decide)]
  show (Json.skipString _).mapError _ = _
  rw [hskip]
  rfl

end JobMonitor
