import JobMonitor.Proofs.Json.Grammar
import JobMonitor.Proofs.Json.Settled

set_option autoImplicit false

/-! # Skipped values

A value that nobody asks for is skipped without being built, by readers of their own that are less strict: no
nesting is too deep for them, no number too large, and no string has to be text. What can be read as a value
can be skipped, and what is left behind it is the same (`Json.skipValue_of_readValue`).

The readers that skip run on fuel. What is read has taken at least one byte, so the fuel for what is inside a
value is enough; for this the two are shown at once (`Json.Skips`). -/

namespace JobMonitor

/-- Whatever is read in a text of up to `bound` bytes is skipped, and has taken something. -/
def Json.Skips {ε α : Type} (read : Bytes → Except ε (α × Bytes))
    (skip : Bytes → Except Json.TextError Bytes) (bound : Nat) : Prop :=
  ∀ s a left, s.length ≤ bound → read s = .ok (a, left) →
    skip s = .ok left ∧ left.length < s.length

/-! ## What a value is read from -/

/-- What stands behind the first byte of a value. -/
inductive Json.ReadsBehind (b : UInt8) (s left : Bytes) : (depth : Nat) → Json → Prop where
  | null {depth : Nat} (hlead : Json.lead b = .letterN) (h : Json.expectNull s = .ok left) :
      ReadsBehind b s left depth .null
  | true {depth : Nat} (hlead : Json.lead b = .letterT) (h : Json.expectTrue s = .ok left) :
      ReadsBehind b s left depth (.bool true)
  | false {depth : Nat} (hlead : Json.lead b = .letterF) (h : Json.expectFalse s = .ok left) :
      ReadsBehind b s left depth (.bool false)
  | negative {depth : Nat} {n : JsonNumber} (hlead : Json.lead b = .minus)
      (h : Json.readNumber Bool.true s = .ok (n, left)) : ReadsBehind b s left depth (.number n)
  | number {depth : Nat} {n : JsonNumber} (hlead : Json.lead b = .digit)
      (h : Json.readNumber Bool.false (b :: s) = .ok (n, left)) :
      ReadsBehind b s left depth (.number n)
  | string {depth : Nat} {text : String} (hlead : Json.lead b = .quote)
      (h : Json.readString s = .ok (text, left)) : ReadsBehind b s left depth (.string text)
  | array {depth : Nat} {items : List Json} (hlead : Json.lead b = .bracket)
      (h : Json.readList id (Json.readValue depth) s = .ok (items, left)) :
      ReadsBehind b s left (depth + 1) (.array items)
  | object {depth : Nat} {members : List (String × Json)} (hlead : Json.lead b = .brace)
      (h : Json.readObject id (Json.readMember (Json.readValue depth)) [] s = .ok (members, left)) :
      ReadsBehind b s left (depth + 1) (.object members)

theorem Json.of_readValue {depth : Nat} {s left : Bytes} {v : Json}
    (h : Json.readValue depth s = .ok (v, left)) :
    ∃ b rest, Json.skipBlank s = b :: rest ∧ Json.ReadsBehind b rest left depth v := by
  rw [readValue.eq_def] at h
  split at h
  · cases h
  · next b rest hskip =>
    refine ⟨b, rest, hskip, ?_⟩
    split at h
    · next hlead =>
      obtain ⟨_, hword, ⟨⟩⟩ := exists_of_map_eq_ok h
      exact .null hlead hword
    · next hlead =>
      obtain ⟨_, hword, ⟨⟩⟩ := exists_of_map_eq_ok h
      exact .true hlead hword
    · next hlead =>
      obtain ⟨_, hword, ⟨⟩⟩ := exists_of_map_eq_ok h
      exact .false hlead hword
    · next hlead =>
      obtain ⟨⟨n, _⟩, hnumber, ⟨⟩⟩ := exists_of_map_eq_ok h
      exact .negative hlead hnumber
    · next hlead =>
      obtain ⟨⟨n, _⟩, hnumber, ⟨⟩⟩ := exists_of_map_eq_ok h
      exact .number hlead hnumber
    · next hlead =>
      obtain ⟨⟨text, _⟩, hstring, ⟨⟩⟩ := exists_of_map_eq_ok h
      exact .string hlead hstring
    · next hlead =>
      cases depth with
      | zero => cases h
      | succ depth =>
        obtain ⟨⟨items, _⟩, hitems, ⟨⟩⟩ := exists_of_map_eq_ok h
        exact .array hlead hitems
    · next hlead =>
      cases depth with
      | zero => cases h
      | succ depth =>
        obtain ⟨⟨members, _⟩, hmembers, ⟨⟩⟩ := exists_of_map_eq_ok h
        exact .object hlead hmembers
    · cases h

/-! ## Blanks and literals -/

theorem Json.length_lt_of_skipBlank {s rest : Bytes} {b : UInt8}
    (h : Json.skipBlank s = b :: rest) : rest.length < s.length := by
  have hle : (Json.skipBlank s).length ≤ s.length := (List.dropWhile_suffix _).length_le
  rw [h, List.length_cons] at hle
  exact hle

theorem Json.eq_append_of_expectWord {word s left : Bytes}
    (h : Json.expectWord word s = .ok left) : s = word ++ left := by
  induction word generalizing s with
  | nil => exact Except.ok.inj h
  | cons c word ih =>
    cases s with
    | nil => cases h
    | cons b s =>
      rw [expectWord] at h
      split at h
      · next hc => rw [hc, ih h, List.cons_append]
      · cases h

theorem Json.length_le_of_expectWord {word s left : Bytes}
    (h : Json.expectWord word s = .ok left) : left.length ≤ s.length := by
  rw [Json.eq_append_of_expectWord h, List.length_append]
  exact Nat.le_add_left _ _

/-! ## Strings -/

theorem Json.length_lt_of_readEscape {s left bytes : Bytes}
    (h : Json.readEscape s = .ok (bytes, left)) : left.length < s.length := by
  rcases Json.skipEscape_of_readEscape h with ⟨hlt, -⟩ | ⟨t, hlt, hlt', -⟩
  · exact hlt
  · omega

theorem Json.length_lt_of_readStringBytes {fuel : Nat} {s left bytes : Bytes}
    (h : Json.readStringBytes fuel s = .ok (bytes, left)) : left.length < s.length := by
  induction fuel generalizing s bytes with
  | zero => cases h
  | succ fuel ih =>
    cases s with
    | nil => cases h
    | cons b s =>
      rw [List.length_cons]
      rcases Json.of_readStringBytes h with ⟨-, rfl⟩ | ⟨-, decoded, s', more, hescape, hread⟩ |
        ⟨-, -, -, more, hread⟩
      · exact Nat.lt_succ_self _
      · have hlt := Json.length_lt_of_readEscape hescape
        have hlt' := ih hread
        omega
      · exact Nat.lt_succ_of_lt (ih hread)

theorem Json.skips_string (bound : Nat) : Json.Skips Json.readString Json.skipString bound := by
  intro s text left _ h
  refine ⟨Json.skipString_of_readString h, ?_⟩
  rw [readString] at h
  split at h
  · cases h
  · next hbytes =>
    split at h
    · obtain ⟨-, rfl⟩ := Prod.mk.inj (Except.ok.inj h)
      exact Json.length_lt_of_readStringBytes hbytes
    · cases h

/-! ## Numbers -/

theorem Json.length_spanDigits_le (s : Bytes) : (Json.spanDigits s).2.length ≤ s.length :=
  (List.dropWhile_suffix _).length_le

theorem Json.length_lt_of_readWholeDigits {s digits left : Bytes}
    (h : Json.readWholeDigits s = .ok (digits, left)) : left.length < s.length := by
  cases s with
  | nil => cases h
  | cons b s =>
    rw [readWholeDigits.eq_def] at h
    dsimp only at h
    split at h
    · cases s with
      | nil =>
        obtain ⟨-, rfl⟩ := Prod.mk.inj (Except.ok.inj h)
        exact Nat.lt_succ_self _
      | cons d rest =>
        dsimp only at h
        split at h
        · cases h
        · obtain ⟨-, rfl⟩ := Prod.mk.inj (Except.ok.inj h)
          exact Nat.lt_succ_self _
    · split at h
      · obtain ⟨-, rfl⟩ := Prod.mk.inj (Except.ok.inj h)
        exact Nat.lt_succ_of_le (Json.length_spanDigits_le s)
      · cases h

theorem Json.length_le_of_readFraction {s left : Bytes} {fraction : Option Bytes}
    (h : Json.readFraction s = .ok (fraction, left)) : left.length ≤ s.length := by
  cases s with
  | nil =>
    obtain ⟨-, rfl⟩ := Prod.mk.inj (Except.ok.inj h)
    exact Nat.le_refl _
  | cons b s =>
    rw [readFraction] at h
    split at h
    · have hspan := Json.length_spanDigits_le s
      split at h
      · cases h
      · cases h
      · next heq =>
        obtain ⟨-, rfl⟩ := Prod.mk.inj (Except.ok.inj h)
        rw [heq] at hspan
        exact Nat.le_succ_of_le hspan
    · obtain ⟨-, rfl⟩ := Prod.mk.inj (Except.ok.inj h)
      exact Nat.le_refl _

theorem Json.length_readExponentSign_le (s : Bytes) :
    (Json.readExponentSign s).2.length ≤ s.length := by
  cases s with
  | nil => exact Nat.le_refl _
  | cons b s =>
    rw [readExponentSign]
    split
    · exact Nat.le_succ _
    · split
      · exact Nat.le_succ _
      · exact Nat.le_refl _

theorem Json.length_le_of_readExponent {s left : Bytes} {exponent : Option (Bool × Bytes)}
    (h : Json.readExponent s = .ok (exponent, left)) : left.length ≤ s.length := by
  cases s with
  | nil =>
    obtain ⟨-, rfl⟩ := Prod.mk.inj (Except.ok.inj h)
    exact Nat.le_refl _
  | cons b s =>
    rw [readExponent] at h
    split at h
    · have hsign := Json.length_readExponentSign_le s
      have hspan := Json.length_spanDigits_le (Json.readExponentSign s).2
      dsimp only at h
      split at h
      · cases h
      · cases h
      · next heq =>
        obtain ⟨-, rfl⟩ := Prod.mk.inj (Except.ok.inj h)
        rw [heq] at hspan
        exact Nat.le_succ_of_le (Nat.le_trans hspan hsign)
    · obtain ⟨-, rfl⟩ := Prod.mk.inj (Except.ok.inj h)
      exact Nat.le_refl _

/-- A numeral has the same parts with and without a minus sign in front. -/
theorem Json.of_readNumeral {isNegative : Bool} {s left : Bytes} {n : Json.Numeral}
    (h : Json.readNumeral isNegative s = .ok (n, left)) :
    (∃ n', Json.readNumeral false s = .ok (n', left)) ∧ left.length < s.length := by
  simp only [readNumeral, bind, Except.bind, pure, Except.pure] at h ⊢
  split at h
  · cases h
  · next whole hwhole =>
    split at h
    · cases h
    · next fraction hfraction =>
      split at h
      · cases h
      · next exponent hexponent =>
        obtain ⟨-, rfl⟩ := Prod.mk.inj (Except.ok.inj h)
        have hlt := Json.length_lt_of_readWholeDigits hwhole
        have hle := Json.length_le_of_readFraction hfraction
        have hle' := Json.length_le_of_readExponent hexponent
        exact ⟨⟨_, rfl⟩, by omega⟩

theorem Json.skips_number (isNegative : Bool) (bound : Nat) :
    Json.Skips (Json.readNumber isNegative) Json.skipNumber bound := by
  intro s n left _ h
  simp only [readNumber, bind, Except.bind, pure, Except.pure] at h
  split at h
  · cases h
  · next numeral hnumeral =>
    obtain ⟨numeral, behind⟩ := numeral
    obtain ⟨⟨numeral', hread⟩, hlt⟩ := Json.of_readNumeral hnumeral
    have heq : behind = left := by
      dsimp only at h
      split at h
      · cases h
      · exact (Prod.mk.inj (Except.ok.inj h)).2
    subst heq
    exact ⟨by rw [skipNumber, hread], hlt⟩

/-! ## Lists -/

section

variable {ε α σ : Type} {lift : Json.TextError → ε} {isFirst : Bool} {s t left : Bytes}

/-- No item follows where the closing bracket stands. -/
theorem Json.skipBlank_of_nextItem?_none (h : Json.nextItem? isFirst s = .ok none) :
    ∃ rest, Json.skipBlank s = ']'.toUInt8 :: rest := by
  rw [nextItem?] at h
  split at h
  · cases h
  · next b rest hskip =>
    split at h
    · next hb => exact ⟨rest, hb ▸ hskip⟩
    · split at h
      · cases h
      · split at h
        · split at h
          · cases h
          · split at h <;> cases h
        · cases h

/-- The first item stands behind the blanks, and another one behind a comma and blanks. -/
theorem Json.skipBlank_of_nextItem?_some (h : Json.nextItem? isFirst s = .ok (some t)) :
    ∃ b rest, Json.skipBlank s = b :: rest ∧ b ≠ ']'.toUInt8 ∧
      (isFirst = true ∧ t = b :: rest ∨
        isFirst = false ∧ b = ','.toUInt8 ∧ t = Json.skipBlank rest) := by
  rw [nextItem?] at h
  split at h
  · cases h
  · next b rest hskip =>
    refine ⟨b, rest, hskip, ?_⟩
    split at h
    · cases h
    · next hb =>
      refine ⟨hb, ?_⟩
      split at h
      · next hfirst => exact .inl ⟨hfirst, (Option.some.inj (Except.ok.inj h)).symm⟩
      · next hfirst =>
        split at h
        · next hcomma =>
          refine .inr ⟨Bool.eq_false_iff.2 hfirst, hcomma, ?_⟩
          split at h
          · cases h
          · next hrest =>
            split at h
            · cases h
            · rw [hrest]
              exact (Option.some.inj (Except.ok.inj h)).symm
        · cases h

theorem Json.endList_of_skipBlank {rest : Bytes} (hskip : Json.skipBlank s = ']'.toUInt8 :: rest)
    (h : Json.endList s = .ok left) : left = rest := by
  rw [endList, hskip] at h
  exact (Except.ok.inj h).symm

/-- An item and all that follow it. The induction is on the fuel for skipping, which each item uses up by
    what it takes. -/
theorem Json.skipItems_of_readItems {read : Bytes → Except ε (α × Bytes)}
    {skip : Bytes → Except Json.TextError Bytes} {bound : Nat} (hskips : Json.Skips read skip bound)
    (hblank : ∀ s, read (Json.skipBlank s) = read s) {fuel more : Nat} {item : α} {items : List α}
    {behind : Bytes} (hitem : read s = .ok (item, behind))
    (hitems : Json.readItems lift read more false behind = .ok (items, left))
    (hfuel : s.length ≤ fuel) (hbound : s.length ≤ bound) :
    Json.skipItems skip fuel s = .ok left ∧ left.length < s.length := by
  induction fuel generalizing s item items behind more with
  | zero =>
    have hlt := (hskips _ _ _ hbound hitem).2
    omega
  | succ fuel ih =>
    obtain ⟨hskip, hlt⟩ := hskips _ _ _ hbound hitem
    rw [skipItems, hskip]
    dsimp only
    cases more with
    | zero => cases hitems
    | succ more =>
      rw [readItems] at hitems
      split at hitems
      · cases hitems
      · next hnext =>
        obtain ⟨rest, hrest⟩ := Json.skipBlank_of_nextItem?_none hnext
        obtain ⟨_, hend, heq⟩ := exists_of_map_eq_ok (eq_ok_of_mapError hitems)
        obtain rfl := (Prod.mk.inj heq).2
        obtain rfl := Json.endList_of_skipBlank hrest hend
        have hshorter := Json.length_lt_of_skipBlank hrest
        rw [hrest]
        exact ⟨if_pos rfl, by omega⟩
      · next hnext =>
        obtain ⟨b, rest, hrest, hb, ⟨hfirst, -⟩ | ⟨-, rfl, rfl⟩⟩ :=
          Json.skipBlank_of_nextItem?_some hnext
        · cases hfirst
        · have hshorter := Json.length_lt_of_skipBlank hrest
          split at hitems
          · cases hitems
          · next hnextItem =>
            rw [hblank] at hnextItem
            obtain ⟨⟨_, _⟩, hmore, heq⟩ := exists_of_map_eq_ok hitems
            obtain ⟨-, rfl⟩ := Prod.mk.inj heq
            obtain ⟨hskipped, hlast⟩ := ih hnextItem hmore (by omega) (by omega)
            rw [hrest]
            exact ⟨hskipped, by omega⟩

theorem Json.skips_list {read : Bytes → Except ε (α × Bytes)}
    {skip : Bytes → Except Json.TextError Bytes} {bound : Nat} (hskips : Json.Skips read skip bound)
    (hblank : ∀ s, read (Json.skipBlank s) = read s) :
    Json.Skips (Json.readList lift read) (Json.skipList skip) bound := by
  intro s items left hbound h
  rw [readList] at h
  cases hlength : s.length with
  | zero =>
    rw [hlength] at h
    cases h
  | succ fuel =>
    rw [hlength, readItems] at h
    split at h
    · cases h
    · next hnext =>
      obtain ⟨rest, hrest⟩ := Json.skipBlank_of_nextItem?_none hnext
      obtain ⟨_, hend, heq⟩ := exists_of_map_eq_ok (eq_ok_of_mapError h)
      obtain rfl := (Prod.mk.inj heq).2
      obtain rfl := Json.endList_of_skipBlank hrest hend
      rw [skipList, hrest, ← hlength]
      exact ⟨if_pos rfl, Json.length_lt_of_skipBlank hrest⟩
    · next hnext =>
      obtain ⟨b, rest, hrest, hb, ⟨-, rfl⟩ | ⟨hfirst, -⟩⟩ := Json.skipBlank_of_nextItem?_some hnext
      · have hshorter := Json.length_lt_of_skipBlank hrest
        split at h
        · cases h
        · next hitem =>
          obtain ⟨⟨_, _⟩, hmore, heq⟩ := exists_of_map_eq_ok h
          obtain ⟨-, rfl⟩ := Prod.mk.inj heq
          have hfits : (b :: rest).length ≤ rest.length + 1 := Nat.le_refl _
          obtain ⟨hskipped, hlast⟩ := Json.skipItems_of_readItems hskips hblank hitem hmore hfits
            (by rw [List.length_cons]; omega)
          rw [List.length_cons] at hlast
          rw [skipList, hrest]
          exact ⟨(if_neg hb).trans hskipped, by omega⟩
      · cases hfirst

/-! ## Objects -/

/-- No member follows where the closing brace stands. -/
theorem Json.skipBlank_of_nextKey?_none (h : Json.nextKey? isFirst s = .ok none) :
    ∃ rest, Json.skipBlank s = '\x7d'.toUInt8 :: rest := by
  rw [nextKey?] at h
  split at h
  · cases h
  · next b rest hskip =>
    split at h
    · next hb => exact ⟨rest, hb ▸ hskip⟩
    · split at h
      · split at h <;> cases h
      · split at h
        · split at h
          · cases h
          · split at h
            · cases h
            · split at h <;> cases h
        · cases h

/-- The first key stands behind the blanks, and another one behind a comma and blanks. -/
theorem Json.skipBlank_of_nextKey?_some (h : Json.nextKey? isFirst s = .ok (some t)) :
    isFirst = true ∧ Json.skipBlank s = '"'.toUInt8 :: t ∨
      isFirst = false ∧ ∃ rest, Json.skipBlank s = ','.toUInt8 :: rest ∧
        Json.skipBlank rest = '"'.toUInt8 :: t := by
  rw [nextKey?] at h
  split at h
  · cases h
  · next b rest hskip =>
    split at h
    · cases h
    · split at h
      · next hfirst =>
        split at h
        · next hb =>
          obtain rfl := Option.some.inj (Except.ok.inj h)
          exact .inl ⟨hfirst, hb ▸ hskip⟩
        · cases h
      · next hfirst =>
        split at h
        · next hcomma =>
          refine .inr ⟨Bool.eq_false_iff.2 hfirst, rest, hcomma ▸ hskip, ?_⟩
          split at h
          · cases h
          · next c behind hrest =>
            split at h
            · next hc =>
              obtain rfl := Option.some.inj (Except.ok.inj h)
              exact hc ▸ hrest
            · split at h <;> cases h
        · cases h

theorem Json.endObject_of_skipBlank {rest : Bytes}
    (hskip : Json.skipBlank s = '\x7d'.toUInt8 :: rest) (h : Json.endObject s = .ok left) :
    left = rest := by
  rw [endObject, hskip] at h
  exact (Except.ok.inj h).symm

/-- Skips a member behind the opening quote of its key. -/
def Json.skipMember (skip : Bytes → Except Json.TextError Bytes) (s : Bytes) :
    Except Json.TextError Bytes :=
  ((Json.skipString s).bind Json.expectColon).bind skip

theorem Json.of_skipMember {skip : Bytes → Except Json.TextError Bytes} {behind : Bytes}
    (h : Json.skipMember skip t = .ok behind) :
    ∃ start, (Json.skipString t).bind Json.expectColon = .ok start ∧ skip start = .ok behind := by
  rw [skipMember] at h
  cases hstart : (Json.skipString t).bind Json.expectColon with
  | error e =>
    rw [hstart] at h
    cases h
  | ok start =>
    rw [hstart] at h
    exact ⟨start, rfl, h⟩

theorem Json.skipMembers_of_brace {skip : Bytes → Except Json.TextError Bytes} {behind rest : Bytes}
    (hkey : Json.skipBlank s = '"'.toUInt8 :: t) (h : Json.skipMember skip t = .ok behind)
    (hrest : Json.skipBlank behind = '\x7d'.toUInt8 :: rest) (fuel : Nat) :
    Json.skipMembers skip (fuel + 1) s = .ok rest := by
  obtain ⟨start, hstart, hskip⟩ := Json.of_skipMember h
  rw [skipMembers, hkey]
  dsimp only
  rw [if_neg (not_not_intro rfl), hstart]
  dsimp only
  rw [hskip]
  dsimp only
  rw [hrest]
  exact if_pos rfl

theorem Json.skipMembers_of_comma {skip : Bytes → Except Json.TextError Bytes} {behind rest : Bytes}
    (hkey : Json.skipBlank s = '"'.toUInt8 :: t) (h : Json.skipMember skip t = .ok behind)
    (hrest : Json.skipBlank behind = ','.toUInt8 :: rest) (fuel : Nat) :
    Json.skipMembers skip (fuel + 1) s = Json.skipMembers skip fuel rest := by
  obtain ⟨start, hstart, hskip⟩ := Json.of_skipMember h
  rw [skipMembers, hkey]
  dsimp only
  rw [if_neg (not_not_intro rfl), hstart]
  dsimp only
  rw [hskip]
  dsimp only
  rw [hrest]
  exact (if_neg (by decide)).trans (if_pos rfl)

/-- A member and all that follow it, as for the items of a list. -/
theorem Json.skipMembers_of_readMembers {member : σ → Bytes → Except ε (σ × Bytes)}
    {skip : Bytes → Except Json.TextError Bytes} {bound : Nat}
    (hskips : ∀ state, Json.Skips (member state) (Json.skipMember skip) bound) {fuel more : Nat}
    {state state' last : σ} {behind : Bytes} (hkey : Json.skipBlank s = '"'.toUInt8 :: t)
    (hmember : member state t = .ok (state', behind))
    (hmembers : Json.readMembers lift member more false state' behind = .ok (last, left))
    (hfuel : s.length ≤ fuel) (hbound : s.length ≤ bound) :
    Json.skipMembers skip fuel s = .ok left ∧ left.length < s.length := by
  induction fuel generalizing s t state state' behind more with
  | zero =>
    have hlt := Json.length_lt_of_skipBlank hkey
    omega
  | succ fuel ih =>
    have hquote := Json.length_lt_of_skipBlank hkey
    obtain ⟨hskip, hlt⟩ := hskips state _ _ _ (by omega) hmember
    cases more with
    | zero => cases hmembers
    | succ more =>
      rw [readMembers] at hmembers
      split at hmembers
      · cases hmembers
      · next hnext =>
        obtain ⟨rest, hrest⟩ := Json.skipBlank_of_nextKey?_none hnext
        obtain ⟨_, hend, heq⟩ := exists_of_map_eq_ok (eq_ok_of_mapError hmembers)
        obtain rfl := (Prod.mk.inj heq).2
        obtain rfl := Json.endObject_of_skipBlank hrest hend
        have hshorter := Json.length_lt_of_skipBlank hrest
        exact ⟨Json.skipMembers_of_brace hkey hskip hrest fuel, by omega⟩
      · next hnext =>
        obtain ⟨hfirst, -⟩ | ⟨-, rest, hrest, hkey'⟩ := Json.skipBlank_of_nextKey?_some hnext
        · cases hfirst
        · have hshorter := Json.length_lt_of_skipBlank hrest
          split at hmembers
          · cases hmembers
          · next hnextMember =>
            obtain ⟨hskipped, hlast⟩ := ih hkey' hnextMember hmembers (by omega) (by omega)
            exact ⟨(Json.skipMembers_of_comma hkey hskip hrest fuel).trans hskipped, by omega⟩

theorem Json.skips_object {member : σ → Bytes → Except ε (σ × Bytes)}
    {skip : Bytes → Except Json.TextError Bytes} {bound : Nat}
    (hskips : ∀ state, Json.Skips (member state) (Json.skipMember skip) bound) (start : σ) :
    Json.Skips (Json.readObject lift member start) (Json.skipObject skip) bound := by
  intro s last left hbound h
  rw [readObject] at h
  cases hlength : s.length with
  | zero =>
    rw [hlength] at h
    cases h
  | succ fuel =>
    rw [hlength, readMembers] at h
    split at h
    · cases h
    · next hnext =>
      obtain ⟨rest, hrest⟩ := Json.skipBlank_of_nextKey?_none hnext
      obtain ⟨_, hend, heq⟩ := exists_of_map_eq_ok (eq_ok_of_mapError h)
      obtain rfl := (Prod.mk.inj heq).2
      obtain rfl := Json.endObject_of_skipBlank hrest hend
      rw [skipObject, hrest, ← hlength]
      exact ⟨if_pos rfl, Json.length_lt_of_skipBlank hrest⟩
    · next key hnext =>
      obtain ⟨-, hkey⟩ | ⟨hfirst, -⟩ := Json.skipBlank_of_nextKey?_some hnext
      · have hshorter := Json.length_lt_of_skipBlank hkey
        split at h
        · cases h
        · next hmember =>
          have hfirst : Json.skipBlank ('"'.toUInt8 :: key) = '"'.toUInt8 :: key :=
            Json.skipBlank_cons (by decide) key
          have hfits : ('"'.toUInt8 :: key).length ≤ key.length + 1 := Nat.le_refl _
          obtain ⟨hskipped, hlast⟩ := Json.skipMembers_of_readMembers hskips hfirst hmember h hfits
            (by rw [List.length_cons]; omega)
          rw [List.length_cons] at hlast
          rw [skipObject, hkey]
          exact ⟨(if_neg (by decide)).trans hskipped, by omega⟩
      · cases hfirst

end

/-! ## Values -/

theorem Json.length_lt_of_expectColon {s left : Bytes} (h : Json.expectColon s = .ok left) :
    left.length < s.length := by
  rw [expectColon] at h
  split at h
  · cases h
  · next hskip =>
    split at h
    · obtain rfl := Except.ok.inj h
      exact Json.length_lt_of_skipBlank hskip
    · cases h

/-- What stands under a key is read behind the colon. -/
theorem Json.of_readMember {read : Bytes → Json.Scan Json} {members members' : List (String × Json)}
    {s left : Bytes} (h : Json.readMember read members s = .ok (members', left)) :
    ∃ key behind start value, Json.readString s = .ok (key, behind) ∧
      Json.expectColon behind = .ok start ∧ read start = .ok (value, left) ∧
      members' = Json.insertMember key value members := by
  rw [readMember] at h
  split at h
  · cases h
  · next hkey =>
    split at h
    · cases h
    · next hcolon =>
      split at h
      · cases h
      · next hvalue =>
        obtain ⟨rfl, rfl⟩ := Prod.mk.inj (Except.ok.inj h)
        exact ⟨_, _, _, _, hkey, hcolon, hvalue, rfl⟩

theorem Json.skips_member {read : Bytes → Json.Scan Json}
    {skip : Bytes → Except Json.TextError Bytes} {bound : Nat} (hskips : Json.Skips read skip bound)
    (members : List (String × Json)) :
    Json.Skips (Json.readMember read members) (Json.skipMember skip) bound := by
  intro s members' left hbound h
  obtain ⟨key, behind, start, value, hkey, hcolon, hvalue, -⟩ := Json.of_readMember h
  obtain ⟨hskip, hlt⟩ := Json.skips_string bound _ _ _ hbound hkey
  have hlt' := Json.length_lt_of_expectColon hcolon
  obtain ⟨hskip', hlt''⟩ := hskips _ _ _ (by omega) hvalue
  have hstart : (Json.skipString s).bind Json.expectColon = .ok start := by
    rw [hskip]
    exact hcolon
  refine ⟨?_, by omega⟩
  rw [skipMember, hstart]
  exact hskip'

/-- A value stands behind at least one byte of the value around it, so it is skipped with one less fuel. -/
theorem Json.skips_value (depth fuel : Nat) :
    Json.Skips (Json.readValue depth) (Json.skipNested fuel) fuel := by
  induction fuel generalizing depth with
  | zero =>
    intro s v left hbound h
    obtain ⟨b, rest, hskip, -⟩ := Json.of_readValue h
    have hlt := Json.length_lt_of_skipBlank hskip
    omega
  | succ fuel ih =>
    intro s v left hbound h
    obtain ⟨b, rest, hskip, hbehind⟩ := Json.of_readValue h
    have hlt := Json.length_lt_of_skipBlank hskip
    rw [skipNested, hskip]
    cases hbehind with
    | null hlead hword | true hlead hword | false hlead hword =>
      have hle := Json.length_le_of_expectWord hword
      simp only [hlead]
      exact ⟨hword, by omega⟩
    | negative hlead hnumber =>
      obtain ⟨hskipped, hlast⟩ := Json.skips_number _ _ _ _ _ (Nat.le_refl _) hnumber
      simp only [hlead]
      exact ⟨hskipped, by omega⟩
    | number hlead hnumber =>
      obtain ⟨hskipped, hlast⟩ := Json.skips_number _ _ _ _ _ (Nat.le_refl _) hnumber
      rw [List.length_cons] at hlast
      simp only [hlead]
      exact ⟨hskipped, by omega⟩
    | string hlead hstring =>
      obtain ⟨hskipped, hlast⟩ := Json.skips_string _ _ _ _ (Nat.le_refl _) hstring
      simp only [hlead]
      exact ⟨hskipped, by omega⟩
    | @array depth items hlead hitems =>
      obtain ⟨hskipped, hlast⟩ := Json.skips_list (ih depth) (Json.readValue_skipBlank depth) _ _ _
        (by omega) hitems
      simp only [hlead]
      exact ⟨hskipped, by omega⟩
    | @object depth members hlead hmembers =>
      obtain ⟨hskipped, hlast⟩ := Json.skips_object (Json.skips_member (ih depth)) [] _ _ _
        (by omega) hmembers
      simp only [hlead]
      exact ⟨hskipped, by omega⟩

/-- **What can be read can be skipped**, and the same is left. -/
theorem Json.skipValue_of_readValue {depth : Nat} {s left : Bytes} {v : Json}
    (h : Json.readValue depth s = .ok (v, left)) : Json.skipValue s = .ok left :=
  (Json.skips_value depth s.length s v left (Nat.le_refl _) h).1

end JobMonitor
