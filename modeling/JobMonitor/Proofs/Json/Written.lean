import JobMonitor.Proofs.Json.WrittenNumber

set_option autoImplicit false

/-! # JSON as it is written

JSON text by the grammar alone, without a reader: where blanks may stand, how the characters of a string
and the digits of a number may be written, and how values are put together (`Json.Written`). A text that
is written says what its value is, if it has one. Two things can be written that have no value: a number
that is too large, and half of a surrogate pair (`Json.Written.HoldsValueless`). -/

namespace JobMonitor

/-! ## Blanks -/

/-- What may stand between tokens. -/
inductive Json.Blank where
  | space
  | tab
  | lineFeed
  | carriageReturn

def Json.Blank.byte : Json.Blank → UInt8
  | .space => 0x20
  | .tab => 0x09
  | .lineFeed => 0x0A
  | .carriageReturn => 0x0D

def Json.blankBytes (blanks : List Json.Blank) : Bytes := blanks.map Json.Blank.byte

/-! ## Strings -/

/-- A hexadecimal digit in either case. -/
structure Json.HexDigit where
  value : Fin 16
  isUpper : Bool := false

def Json.HexDigit.byte (d : Json.HexDigit) : UInt8 :=
  if d.value.val < 10 then UInt8.ofNat (0x30 + d.value)
  else if d.isUpper then UInt8.ofNat (0x37 + d.value)
  else UInt8.ofNat (0x57 + d.value)

/-- Four hexadecimal digits. -/
structure Json.CodeUnit where
  (a b c d : Json.HexDigit)

def Json.CodeUnit.value (u : Json.CodeUnit) : Nat :=
  u.a.value * 4096 + u.b.value * 256 + u.c.value * 16 + u.d.value

def Json.CodeUnit.bytes (u : Json.CodeUnit) : Bytes := [u.a.byte, u.b.byte, u.c.byte, u.d.byte]

/-- The escapes of one letter. -/
inductive Json.ShortEscape where
  | quote
  | backslash
  | slash
  | backspace
  | formFeed
  | lineFeed
  | carriageReturn
  | tab

/-- The letter behind the backslash. -/
def Json.ShortEscape.letter : Json.ShortEscape → Char
  | .quote => '"'
  | .backslash => '\\'
  | .slash => '/'
  | .backspace => 'b'
  | .formFeed => 'f'
  | .lineFeed => 'n'
  | .carriageReturn => 'r'
  | .tab => 't'

/-- The character that it stands for. -/
def Json.ShortEscape.char : Json.ShortEscape → Char
  | .quote => '"'
  | .backslash => '\\'
  | .slash => '/'
  | .backspace => '\x08'
  | .formFeed => '\x0C'
  | .lineFeed => '\n'
  | .carriageReturn => '\r'
  | .tab => '\t'

/-- What stands between the quotes of a string. -/
inductive Json.StringUnit where
  | plain (c : Char) (hquote : c ≠ '"') (hbackslash : c ≠ '\\') (hcontrol : ¬ c.toNat < 0x20)
  | short (e : Json.ShortEscape)
  | code (u : Json.CodeUnit)

def Json.StringUnit.bytes : Json.StringUnit → Bytes
  | .plain c .. => String.utf8EncodeChar c
  | .short e => ['\\'.toUInt8, e.letter.toUInt8]
  | .code u => '\\'.toUInt8 :: 'u'.toUInt8 :: u.bytes

/-- The characters of a string. Numbers in the range of surrogates must come in pairs. -/
def Json.unitChars? : List Json.StringUnit → Option (List Char)
  | [] => some []
  | .plain c .. :: rest => (Json.unitChars? rest).map (c :: ·)
  | .short e :: rest => (Json.unitChars? rest).map (e.char :: ·)
  | .code u :: rest =>
    if Json.isTrailing u.value then none
    else if Json.isLeading u.value then
      match rest with
      | .code v :: rest =>
        if Json.isTrailing v.value then
          (Json.unitChars? rest).map (Char.ofNat (Json.pairValue u.value v.value) :: ·)
        else none
      | _ => none
    else (Json.unitChars? rest).map (Char.ofNat u.value :: ·)

/-- The text of a string, unless half of a surrogate pair stands in it. -/
def Json.unitText? (units : List Json.StringUnit) : Option String :=
  (Json.unitChars? units).map String.ofList

/-- Each number in the range of surrogates is one half of a pair, of which the one half leads and the other
    trails. -/
inductive Json.ArePaired : List Json.StringUnit → Prop where
  | nil : ArePaired []
  | plain {c : Char} {hquote : c ≠ '"'} {hbackslash : c ≠ '\\'} {hcontrol : ¬ c.toNat < 0x20}
      {rest : List Json.StringUnit} (h : ArePaired rest) :
      ArePaired (.plain c hquote hbackslash hcontrol :: rest)
  | short {e : Json.ShortEscape} {rest : List Json.StringUnit} (h : ArePaired rest) :
      ArePaired (.short e :: rest)
  | code {u : Json.CodeUnit} {rest : List Json.StringUnit} (hleading : ¬ Json.isLeading u.value)
      (htrailing : ¬ Json.isTrailing u.value) (h : ArePaired rest) : ArePaired (.code u :: rest)
  | pair {u v : Json.CodeUnit} {rest : List Json.StringUnit} (hleading : Json.isLeading u.value)
      (htrailing : Json.isTrailing v.value) (h : ArePaired rest) :
      ArePaired (.code u :: .code v :: rest)

theorem Json.not_isTrailing {unit : Nat} (h : Json.isLeading unit) : ¬ Json.isTrailing unit := by
  simp only [isLeading, isTrailing, Bool.and_eq_true, decide_eq_true_eq] at h ⊢
  omega

theorem Json.isSome_unitChars?_iff (units : List Json.StringUnit) :
    (Json.unitChars? units).isSome ↔ Json.ArePaired units := by
  fun_induction Json.unitChars? units with
  | case1 => exact iff_of_true rfl .nil
  | case2 c _ _ _ rest ih =>
    rw [Option.isSome_map, ih]
    refine ⟨.plain, ?_⟩
    rintro (_ | h)
    exact h
  | case3 e rest ih =>
    rw [Option.isSome_map, ih]
    refine ⟨.short, ?_⟩
    rintro (_ | _ | h)
    exact h
  | case4 u rest htrailing =>
    refine iff_of_false (by simp) ?_
    intro h
    cases h with
    | code _ hother => exact hother htrailing
    | pair hleading => exact Json.not_isTrailing hleading htrailing
  | case5 u _ hleading v rest htrailing ih =>
    rw [Option.isSome_map, ih]
    refine ⟨.pair hleading htrailing, ?_⟩
    intro h
    cases h with
    | code hother => exact absurd hleading hother
    | pair _ _ h => exact h
  | case6 u _ hleading v rest htrailing =>
    refine iff_of_false (by simp) ?_
    intro h
    cases h with
    | code hother => exact hother hleading
    | pair _ hother => exact htrailing hother
  | case7 u rest _ hleading hnone =>
    refine iff_of_false (by simp) ?_
    intro h
    cases h with
    | code hother => exact hother hleading
    | pair => exact hnone _ _ rfl
  | case8 u rest htrailing hleading ih =>
    rw [Option.isSome_map, ih]
    refine ⟨.code hleading htrailing, ?_⟩
    intro h
    cases h with
    | code _ _ h => exact h
    | pair hother => exact absurd hother hleading

/-- A string has a text unless half of a surrogate pair stands in it. -/
theorem Json.unitText?_eq_none_iff (units : List Json.StringUnit) :
    Json.unitText? units = none ↔ ¬ Json.ArePaired units := by
  rw [unitText?, Option.map_eq_none_iff, ← Option.not_isSome_iff_eq_none, Json.isSome_unitChars?_iff]

/-- A string behind its opening quote. -/
def Json.unitBytes (units : List Json.StringUnit) : Bytes :=
  units.flatMap Json.StringUnit.bytes ++ ['"'.toUInt8]

/-! ## Values -/

/-- A key, and the blanks around it. -/
structure Json.WrittenKey where
  before : List Json.Blank := []
  units : List Json.StringUnit
  after : List Json.Blank := []

/-- A key, the colon behind it included, behind its opening quote. -/
def Json.WrittenKey.tailBytes (k : Json.WrittenKey) : Bytes :=
  Json.unitBytes k.units ++ (Json.blankBytes k.after ++ [':'.toUInt8])

def Json.WrittenKey.bytes (k : Json.WrittenKey) : Bytes :=
  Json.blankBytes k.before ++ '"'.toUInt8 :: k.tailBytes

/-- A value as it is written. Any value may have blanks around it; those inside the brackets of a list
    or an object stand there also if there is nothing else. -/
inductive Json.Written where
  | null
  | bool (b : Bool)
  | number (n : Json.WrittenNumber)
  | string (units : List Json.StringUnit)
  | array (inner : List Json.Blank) (items : List Json.Written)
  | object (inner : List Json.Blank) (members : List (Json.WrittenKey × Json.Written))
  | padded (before : List Json.Blank) (value : Json.Written) (after : List Json.Blank)

mutual

def Json.Written.bytes : Json.Written → Bytes
  | .null => .ofText "null"
  | .bool b => if b then .ofText "true" else .ofText "false"
  | .number n => n.bytes
  | .string units => '"'.toUInt8 :: Json.unitBytes units
  | .array inner items =>
    '['.toUInt8 :: (Json.blankBytes inner ++ (Json.joined (Json.Written.itemTexts items)
      ++ [']'.toUInt8]))
  | .object inner members =>
    '{'.toUInt8 :: (Json.blankBytes inner ++ (Json.joined (Json.Written.memberTexts members)
      ++ ['}'.toUInt8]))
  | .padded before value after => Json.blankBytes before ++ (value.bytes ++ Json.blankBytes after)

def Json.Written.itemTexts : List Json.Written → List Bytes
  | [] => []
  | v :: rest => v.bytes :: Json.Written.itemTexts rest

def Json.Written.memberTexts : List (Json.WrittenKey × Json.Written) → List Bytes
  | [] => []
  | (k, v) :: rest => (k.bytes ++ v.bytes) :: Json.Written.memberTexts rest

end

mutual

/-- The value that is written, if everything in it has one. -/
def Json.Written.value? : Json.Written → Option Json
  | .null => some .null
  | .bool b => some (.bool b)
  | .number n => n.value?.map .number
  | .string units => (Json.unitText? units).map .string
  | .array _ items => (Json.Written.values? items).map .array
  | .object _ members => (Json.Written.members? members).map .ofMembers
  | .padded _ value _ => value.value?

def Json.Written.values? : List Json.Written → Option (List Json)
  | [] => some []
  | v :: rest =>
    match v.value?, Json.Written.values? rest with
    | some value, some values => some (value :: values)
    | _, _ => none

/-- The members of an object in the order in which they are written. -/
def Json.Written.members? : List (Json.WrittenKey × Json.Written) → Option (List (String × Json))
  | [] => some []
  | (k, v) :: rest =>
    match Json.unitText? k.units, v.value?, Json.Written.members? rest with
    | some key, some value, some members => some ((key, value) :: members)
    | _, _, _ => none

end

/-! ### What has no value -/

/-- Somewhere in a value stands a number that is too large, or a string or a key with half of a surrogate
    pair. -/
inductive Json.Written.HoldsValueless : Json.Written → Prop where
  | number {n : Json.WrittenNumber} (h : n.IsTooLarge) : HoldsValueless (.number n)
  | string {units : List Json.StringUnit} (h : ¬ Json.ArePaired units) :
      HoldsValueless (.string units)
  | item {inner : List Json.Blank} {items : List Json.Written} {v : Json.Written} (hv : v ∈ items)
      (h : HoldsValueless v) : HoldsValueless (.array inner items)
  | key {inner : List Json.Blank} {members : List (Json.WrittenKey × Json.Written)}
      {m : Json.WrittenKey × Json.Written} (hm : m ∈ members) (h : ¬ Json.ArePaired m.1.units) :
      HoldsValueless (.object inner members)
  | member {inner : List Json.Blank} {members : List (Json.WrittenKey × Json.Written)}
      {m : Json.WrittenKey × Json.Written} (hm : m ∈ members) (h : HoldsValueless m.2) :
      HoldsValueless (.object inner members)
  | padded {before after : List Json.Blank} {value : Json.Written} (h : HoldsValueless value) :
      HoldsValueless (.padded before value after)

mutual

/-- A value that is written has one unless something in it has none. -/
theorem Json.Written.value?_eq_none_iff : (v : Json.Written) → (v.value? = none ↔ v.HoldsValueless)
  | .null | .bool _ => by
    refine iff_of_false (Option.some_ne_none _) ?_
    intro h
    cases h
  | .number n => by
    rw [value?, Option.map_eq_none_iff, n.value?_eq_none_iff]
    refine ⟨.number, ?_⟩
    rintro (h | _)
    exact h
  | .string units => by
    rw [value?, Option.map_eq_none_iff, Json.unitText?_eq_none_iff]
    refine ⟨.string, ?_⟩
    rintro (_ | h)
    exact h
  | .array inner items => by
    rw [value?, Option.map_eq_none_iff, Json.Written.values?_eq_none_iff items]
    constructor
    · rintro ⟨v, hv, h⟩
      exact .item hv h
    · intro h
      cases h with
      | item hv h => exact ⟨_, hv, h⟩
  | .object inner members => by
    rw [value?, Option.map_eq_none_iff, Json.Written.members?_eq_none_iff members]
    constructor
    · rintro ⟨m, hm, hkey | h⟩
      · exact .key hm hkey
      · exact .member hm h
    · intro h
      cases h with
      | key hm hkey => exact ⟨_, hm, .inl hkey⟩
      | member hm h => exact ⟨_, hm, .inr h⟩
  | .padded before value after => by
    rw [value?, Json.Written.value?_eq_none_iff value]
    refine ⟨.padded, ?_⟩
    intro h
    cases h with
    | padded h => exact h

theorem Json.Written.values?_eq_none_iff :
    (items : List Json.Written) → (Json.Written.values? items = none ↔ ∃ v ∈ items, v.HoldsValueless)
  | [] => by simp [values?]
  | v :: rest => by
    have hv := Json.Written.value?_eq_none_iff v
    have hrest := Json.Written.values?_eq_none_iff rest
    rw [values?]
    simp only [List.mem_cons, exists_eq_or_imp, ← hv, ← hrest]
    cases v.value? <;> cases values? rest <;> simp

theorem Json.Written.members?_eq_none_iff :
    (members : List (Json.WrittenKey × Json.Written)) → (Json.Written.members? members = none ↔
      ∃ m ∈ members, ¬ Json.ArePaired m.1.units ∨ m.2.HoldsValueless)
  | [] => by simp [members?]
  | (k, v) :: rest => by
    have hkey := Json.unitText?_eq_none_iff k.units
    have hv := Json.Written.value?_eq_none_iff v
    have hrest := Json.Written.members?_eq_none_iff rest
    rw [members?]
    simp only [List.mem_cons, exists_eq_or_imp, ← hkey, ← hv, ← hrest]
    cases Json.unitText? k.units <;> cases v.value? <;> cases members? rest <;> simp

end

/-- A value without the blanks around it. -/
def Json.Written.bare : Json.Written → Json.Written
  | .padded _ value _ => value.bare
  | v => v

/-- At most `depth` lists and objects stand one inside the other. -/
inductive Json.Written.Fits : (depth : Nat) → Json.Written → Prop where
  | null {depth : Nat} : Fits depth .null
  | bool {depth : Nat} (b : Bool) : Fits depth (.bool b)
  | number {depth : Nat} (n : Json.WrittenNumber) : Fits depth (.number n)
  | string {depth : Nat} (units : List Json.StringUnit) : Fits depth (.string units)
  | array {depth : Nat} {inner : List Json.Blank} {items : List Json.Written}
      (h : ∀ v ∈ items, Fits depth v) : Fits (depth + 1) (.array inner items)
  | object {depth : Nat} {inner : List Json.Blank}
      {members : List (Json.WrittenKey × Json.Written)} (h : ∀ m ∈ members, Fits depth m.2) :
      Fits (depth + 1) (.object inner members)
  | padded {depth : Nat} {before after : List Json.Blank} {value : Json.Written}
      (h : Fits depth value) : Fits depth (.padded before value after)

/-- A text that holds an object, with no more lists and objects one inside the other than may be. -/
structure Json.WrittenObject where
  before : List Json.Blank := []
  inner : List Json.Blank := []
  members : List (Json.WrittenKey × Json.Written)
  after : List Json.Blank := []
  fits : ∀ m ∈ members, m.2.Fits (Json.maxDepth - 1)

def Json.WrittenObject.text (o : Json.WrittenObject) : Json.Written :=
  .padded o.before (.object o.inner o.members) o.after

def Json.WrittenObject.bytes (o : Json.WrittenObject) : Bytes := o.text.bytes

/-- The members in the order in which they are written, if everything in them has a value. -/
def Json.WrittenObject.members? (o : Json.WrittenObject) : Option (List (String × Json)) :=
  Json.Written.members? o.members

/-- All members have values unless something in the object has none. -/
theorem Json.WrittenObject.members?_eq_none_iff (o : Json.WrittenObject) :
    o.members? = none ↔ o.text.HoldsValueless := by
  rw [← o.text.value?_eq_none_iff]
  exact Option.map_eq_none_iff.symm

theorem Json.WrittenObject.fits_text (o : Json.WrittenObject) : o.text.Fits Json.maxDepth :=
  .padded (.object o.fits)

end JobMonitor
