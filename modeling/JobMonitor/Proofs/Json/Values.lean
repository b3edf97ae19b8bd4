import JobMonitor.Proofs.Json.Sequences

set_option autoImplicit false

/-! # JSON values are read back

The compact text of a value without binary64 numbers is read as the value itself, up to the order of
members: the reader puts the members of every object into the order of their keys, and of a repeated
key the last one counts. The text of any value is a single line. -/

namespace JobMonitor

/-! ## What is read -/

mutual

/-- The value with the members of all objects put in order. -/
def Json.arranged : Json → Json
  | .null => .null
  | .bool b => .bool b
  | .number n => .number n
  | .string text => .string text
  | .array items => .array (Json.arrangedItems items)
  | .object members => .ofMembers (Json.arrangedMembers members)

@[inherit_doc Json.arranged]
def Json.arrangedItems : List Json → List Json
  | [] => []
  | v :: rest => v.arranged :: Json.arrangedItems rest

@[inherit_doc Json.arranged]
def Json.arrangedMembers : List (String × Json) → List (String × Json)
  | [] => []
  | (k, v) :: rest => (k, v.arranged) :: Json.arrangedMembers rest

end

theorem Json.arrangedItems_eq_map (items : List Json) :
    Json.arrangedItems items = items.map Json.arranged := by
  induction items with
  | nil => rfl
  | cons v rest ih => rw [arrangedItems, ih, List.map_cons]

theorem Json.arrangedMembers_eq_map (members : List (String × Json)) :
    Json.arrangedMembers members = members.map fun m => (m.1, m.2.arranged) := by
  induction members with
  | nil => rfl
  | cons m rest ih =>
    obtain ⟨k, v⟩ := m
    rw [arrangedMembers, ih, List.map_cons]

/-- The numbers of the value are integers, and at most `depth` lists and objects stand one inside the
    other. -/
inductive Json.IsExact : (depth : Nat) → Json → Prop where
  | null {depth : Nat} : IsExact depth .null
  | bool {depth : Nat} (b : Bool) : IsExact depth (.bool b)
  | integer {depth : Nat} (n : JsonInteger) : IsExact depth (.number (.integer n))
  | string {depth : Nat} (text : String) : IsExact depth (.string text)
  | array {depth : Nat} {items : List Json} (h : ∀ v ∈ items, IsExact depth v) :
      IsExact (depth + 1) (.array items)
  | object {depth : Nat} {members : List (String × Json)} (h : ∀ m ∈ members, IsExact depth m.2) :
      IsExact (depth + 1) (.object members)

/-! ## The bytes of a text -/

/-- The bytes of a member behind the opening quote of its key. -/
def Json.memberBytes (m : String × Json) : Bytes :=
  (m.1.toList.flatMap Json.escape).flatMap String.utf8EncodeChar
    ++ '"'.toUInt8 :: ':'.toUInt8 :: m.2.bytes

theorem Json.utf8Encode_itemChars (items : List Json) :
    (Json.itemChars items).flatMap String.utf8EncodeChar = Json.joined (items.map Json.bytes) := by
  induction items with
  | nil => rfl
  | cons v rest ih =>
    cases rest with
    | nil =>
      rw [List.map_cons, List.map_nil, joined, List.flatMap_nil, List.append_nil]
      rfl
    | cons w rest =>
      rw [itemChars, List.flatMap_append, List.flatMap_cons, ih]
      rfl

theorem Json.utf8Encode_member (m : String × Json) :
    (Json.quoted m.1 ++ ':' :: m.2.chars).flatMap String.utf8EncodeChar
      = '"'.toUInt8 :: Json.memberBytes m := by
  rw [List.flatMap_append, Json.bytes_quoted, List.flatMap_cons, memberBytes, List.cons_append,
    List.append_assoc]
  rfl

theorem Json.utf8Encode_memberChars (members : List (String × Json)) :
    (Json.memberChars members).flatMap String.utf8EncodeChar
      = Json.joined (members.map fun m => '"'.toUInt8 :: Json.memberBytes m) := by
  induction members with
  | nil => rfl
  | cons m rest ih =>
    obtain ⟨k, v⟩ := m
    cases rest with
    | nil =>
      rw [List.map_cons, List.map_nil, joined, List.flatMap_nil, List.append_nil]
      exact Json.utf8Encode_member (k, v)
    | cons m rest =>
      have hsplit : Json.memberChars ((k, v) :: m :: rest)
          = (Json.quoted k ++ ':' :: v.chars) ++ ',' :: Json.memberChars (m :: rest) := by
        rw [memberChars, List.append_assoc, List.cons_append]
      rw [hsplit, List.flatMap_append, List.flatMap_cons, ih, Json.utf8Encode_member (k, v)]
      rfl

theorem Json.bytes_array (items : List Json) :
    (Json.array items).bytes
      = '['.toUInt8 :: (Json.joined (items.map Json.bytes) ++ [']'.toUInt8]) := by
  rw [bytes, chars, List.cons_append, List.flatMap_cons, List.flatMap_append,
    Json.utf8Encode_itemChars]
  rfl

theorem Json.bytes_object (members : List (String × Json)) :
    (Json.object members).bytes = '{'.toUInt8
      :: (Json.joined (members.map fun m => '"'.toUInt8 :: Json.memberBytes m) ++ ['}'.toUInt8]) := by
  rw [bytes, chars, List.cons_append, List.flatMap_cons, List.flatMap_append,
    Json.utf8Encode_memberChars]
  rfl

theorem Json.lead_of_isDigit {b : UInt8} (h : Json.isDigit b = true) : Json.lead b = .digit := by
  have hne : ∀ c : UInt8, Json.isDigit c = false → b ≠ c := by
    rintro c hc rfl
    rw [hc] at h
    exact Bool.noConfusion h
  rw [lead, if_neg (hne _ (by decide)), if_neg (hne _ (by decide)), if_neg (hne _ (by decide)),
    if_neg (hne _ (by decide)), if_pos h]

/-- The text of a natural begins with a digit. -/
theorem Json.exists_digit (n : Nat) : ∃ b rest, Json.isDigit b = true ∧
    (decimalDigits n).flatMap String.utf8EncodeChar = b :: rest := by
  have hdigits : ∀ c ∈ decimalDigits n, isDigitChar c = true :=
    fun _ => isDigitChar_of_mem_decimalDigits
  obtain ⟨c, digits, hcons⟩ := List.exists_cons_of_ne_nil (decimalDigits_ne_nil n)
  rw [hcons] at hdigits
  rw [hcons, utf8Encode_digits hdigits]
  exact ⟨_, _, Json.isDigit_ofNat_digit (hdigits c List.mem_cons_self), rfl⟩

/-- Every text of a value begins with a byte that begins a value. -/
theorem Json.startsValue_bytes {depth : Nat} {v : Json} (h : v.IsExact depth) :
    Json.StartsValue v.bytes := by
  cases h with
  | null => exact ⟨_, _, rfl, by decide⟩
  | bool b => cases b <;> exact ⟨_, _, rfl, by decide⟩
  | integer n =>
    rw [bytes, chars, JsonNumber.chars, signedDigits]
    split
    · exact ⟨'-'.toUInt8, _, rfl, by decide⟩
    · obtain ⟨b, rest, hb, hbytes⟩ := Json.exists_digit n.val.natAbs
      exact ⟨b, rest, hbytes, by rw [Json.lead_of_isDigit hb]; exact Json.Lead.noConfusion⟩
  | string text =>
    rw [bytes, chars, Json.bytes_quoted]
    exact ⟨_, _, rfl, by decide⟩
  | array _ =>
    rw [Json.bytes_array]
    exact ⟨_, _, rfl, by decide⟩
  | object _ =>
    rw [Json.bytes_object]
    exact ⟨_, _, rfl, by decide⟩

/-! ## Reading what was written -/

/-- A key is read up to the colon behind it. -/
theorem Json.readString_memberBytes (m : String × Json) (s : Bytes) :
    Json.readString (Json.memberBytes m ++ s) = .ok (m.1, ':'.toUInt8 :: (m.2.bytes ++ s)) := by
  rw [memberBytes, List.append_assoc, List.cons_append, Json.readString_quoted]
  rfl

/-- An integer is found behind its minus sign, or from its first digit on. -/
theorem Json.readNumber_integer (n : JsonInteger) {s : Bytes} (hs : Json.StopsNumber s) :
    ∃ b t, (Json.number (.integer n)).bytes ++ s = b :: t ∧
      (Json.lead b = .minus ∧ Json.readNumber true t = .ok (.integer n, s) ∨
        Json.lead b = .digit ∧ Json.readNumber false (b :: t) = .ok (.integer n, s)) := by
  rw [bytes, chars, JsonNumber.chars, signedDigits]
  split
  · next hneg =>
    have hread := @Json.readNumber_decimalDigits true n.val.natAbs n
      (by rw [if_pos rfl]; omega) (fun _ => by omega) s hs
    exact ⟨'-'.toUInt8, _, rfl, .inl ⟨by decide, hread⟩⟩
  · next hpos =>
    have hread := @Json.readNumber_decimalDigits false n.val.natAbs n
      (by rw [if_neg Bool.false_ne_true]; omega) (fun h => Bool.noConfusion h) s hs
    obtain ⟨b, rest, hb, hbytes⟩ := Json.exists_digit n.val.natAbs
    rw [hbytes, List.cons_append] at hread ⊢
    exact ⟨b, _, rfl, .inr ⟨Json.lead_of_isDigit hb, hread⟩⟩

theorem Json.readValue_integer (depth : Nat) (n : JsonInteger) {s : Bytes}
    (hs : Json.StopsNumber s) :
    Json.readValue depth ((Json.number (.integer n)).bytes ++ s) = .ok (.number (.integer n), s) := by
  obtain ⟨b, t, hbytes, ⟨hlead, hread⟩ | ⟨hlead, hread⟩⟩ := Json.readNumber_integer n hs
  all_goals
    have hblank := (Json.isBlank_of_lead_ne_other (b := b) (by rw [hlead]; decide)).1
    rw [hbytes, readValue, Json.skipBlank_cons hblank]
    simp only [hlead, hread]
    rfl

/-- **The compact text of a value is read as the value with its members in order**, and what
    follows the text is left. -/
theorem Json.readValue_bytes {depth : Nat} {v : Json} (h : v.IsExact depth) {s : Bytes}
    (hs : Json.StopsNumber s) : Json.readValue depth (v.bytes ++ s) = .ok (v.arranged, s) := by
  induction h generalizing s with
  | null =>
    rw [readValue]
    rfl
  | bool b =>
    rw [readValue]
    cases b <;> rfl
  | integer n => exact Json.readValue_integer _ n hs
  | string text =>
    rw [bytes, chars, Json.bytes_quoted, List.cons_append, List.append_assoc, readValue,
      Json.skipBlank_cons (by decide)]
    show (Json.readString _).map _ = _
    rw [List.singleton_append, Json.readString_quoted]
    rfl
  | @array depth items hitems ih =>
    have hlist := @Json.readList_joined _ _ _ id (Json.readValue depth) Json.bytes Json.arranged items
      (fun v hv => Json.startsValue_bytes (hitems v hv)) (fun v hv s => ih v hv) s
    rw [Json.bytes_array, List.cons_append, List.append_assoc, List.singleton_append, readValue,
      Json.skipBlank_cons (by decide)]
    show (Json.readList id _ _).map _ = _
    rw [hlist, arranged, Json.arrangedItems_eq_map]
    rfl
  | @object depth members hmembers ih =>
    -- Each member is put in its place as it is read, whatever has been read before it.
    have hmember : ∀ m ∈ members, ∀ (sorted : List (String × Json)) s, Json.StopsNumber s →
        Json.readMember (Json.readValue depth) sorted (Json.memberBytes m ++ s)
          = .ok (Json.insertMember m.1 m.2.arranged sorted, s) := by
      intro m hm sorted s hs
      have hcolon : Json.expectColon (':'.toUInt8 :: (m.2.bytes ++ s)) = .ok (m.2.bytes ++ s) := rfl
      rw [readMember, Json.readString_memberBytes]
      simp only [hcolon, ih m hm hs]
    have hobject := @Json.readObject_joined _ _ _ id (Json.readMember (Json.readValue depth))
      Json.memberBytes (fun sorted m => Json.insertMember m.1 m.2.arranged sorted) members hmember [] s
    rw [Json.bytes_object, List.cons_append, List.append_assoc, List.singleton_append, readValue,
      Json.skipBlank_cons (by decide)]
    show (Json.readObject id _ [] _).map _ = _
    rw [hobject, arranged, Json.arrangedMembers_eq_map, ofMembers, List.foldl_map]
    rfl

/-! ## No control characters -/

mutual

/-- The compact text has no line breaks and no other control characters. -/
theorem Json.isPrintableText_chars : (v : Json) → IsPrintableText v.chars
  | .null | .bool true | .bool false => by rw [chars]; decide
  | .number (.integer n) => isPrintableText_signedDigits n.val
  | .number (.float x) => FloatNotation.isPrintableText_write (by decide) (by decide) x
  | .string text => Json.isPrintableText_quoted text
  | .array items => by
    rw [chars, isPrintableText_append, isPrintableText_cons]
    exact ⟨⟨by decide, Json.isPrintableText_itemChars items⟩, by decide⟩
  | .object members => by
    rw [chars, isPrintableText_append, isPrintableText_cons]
    exact ⟨⟨by decide, Json.isPrintableText_memberChars members⟩, by decide⟩

theorem Json.isPrintableText_itemChars : (items : List Json) → IsPrintableText (Json.itemChars items)
  | [] => fun _ hc => absurd hc List.not_mem_nil
  | [v] => Json.isPrintableText_chars v
  | v :: w :: rest => by
    rw [itemChars, isPrintableText_append, isPrintableText_cons]
    exact ⟨Json.isPrintableText_chars v, by decide, Json.isPrintableText_itemChars (w :: rest)⟩

theorem Json.isPrintableText_memberChars :
    (members : List (String × Json)) → IsPrintableText (Json.memberChars members)
  | [] => fun _ hc => absurd hc List.not_mem_nil
  | [(k, v)] => by
    rw [memberChars, isPrintableText_append, isPrintableText_cons]
    exact ⟨Json.isPrintableText_quoted k, by decide, Json.isPrintableText_chars v⟩
  | (k, v) :: m :: rest => by
    rw [memberChars, isPrintableText_append, isPrintableText_cons, isPrintableText_append,
      isPrintableText_cons]
    exact ⟨Json.isPrintableText_quoted k, by decide, Json.isPrintableText_chars v, by decide,
      Json.isPrintableText_memberChars (m :: rest)⟩

end

theorem Json.isPrintable_bytes (v : Json) : v.bytes.IsPrintable :=
  isPrintable_utf8Encode v.isPrintableText_chars

/-- The compact text of a value is a single line. -/
theorem Json.newline_not_mem_bytes (v : Json) : newline ∉ v.bytes :=
  fun hb => v.isPrintable_bytes newline hb (by decide)

end JobMonitor
