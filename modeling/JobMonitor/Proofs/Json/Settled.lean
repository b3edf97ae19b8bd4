import JobMonitor.Proofs.Json.Order
import JobMonitor.Proofs.Json.Typed

set_option autoImplicit false

/-! # What was read stays read

A reader that has come to an end does not look at what follows: the same is read if more bytes are put
behind the text, and these are left over (`Settles`). A number has no end of its own and could go on, so
of values this holds only if something was left already (`SettlesInside`), as it always is inside a list
or an object, or if the value is no number (`Json.readValue_append`). -/

namespace JobMonitor

/-! ## Readers that come to an end -/

section

variable {ε α β : Type}

/-- What is read does not depend on what follows. -/
def Settles (read : Bytes → Except ε (α × Bytes)) : Prop :=
  ∀ s a left t, read s = .ok (a, left) → read (s ++ t) = .ok (a, left ++ t)

/-- What is read does not depend on what follows behind the first byte that is left. -/
def SettlesInside (read : Bytes → Except ε (α × Bytes)) : Prop :=
  ∀ s a left t, read s = .ok (a, left) → left ≠ [] → read (s ++ t) = .ok (a, left ++ t)

theorem settlesInside_pure (a : α) : SettlesInside fun s => (pure (a, s) : Except ε (α × Bytes)) := by
  intro s b left t h _
  obtain ⟨rfl, rfl⟩ := Prod.mk.inj (Except.ok.inj h)
  rfl

/-- Of two readers in a row nothing is left behind the first one only if nothing is in the end. -/
theorem SettlesInside.bind {read : Bytes → Except ε (α × Bytes)}
    {next : α × Bytes → Except ε (β × Bytes)} (hread : SettlesInside read)
    (hnext : ∀ a, SettlesInside fun s => next (a, s))
    (hend : ∀ a b left, next (a, []) = .ok (b, left) → left = []) :
    SettlesInside fun s => read s >>= next := by
  intro s b left t h hleft
  cases hfirst : read s with
  | error e =>
    simp only [hfirst] at h
    cases h
  | ok found =>
    obtain ⟨a, behind⟩ := found
    simp only [hfirst] at h
    have hbehind : behind ≠ [] := by
      rintro rfl
      exact hleft (hend a b left h)
    simp only [hread _ _ _ t hfirst hbehind]
    exact hnext a _ _ _ t h hleft

end

/-- What is left behind the blanks is left there also if more follows. -/
theorem Json.skipBlank_append {s rest : Bytes} {b : UInt8} (h : Json.skipBlank s = b :: rest)
    (t : Bytes) : Json.skipBlank (s ++ t) = b :: (rest ++ t) := by
  have hsome : (s.dropWhile Json.isBlank).isEmpty = false := by
    rw [show s.dropWhile Json.isBlank = b :: rest from h]
    rfl
  rw [skipBlank, List.dropWhile_append, hsome]
  exact congrArg (· ++ t) h

/-! ## Literals -/

theorem Json.expectWord_append {word s left : Bytes} (h : Json.expectWord word s = .ok left)
    (t : Bytes) : Json.expectWord word (s ++ t) = .ok (left ++ t) := by
  induction word generalizing s with
  | nil =>
    obtain rfl : s = left := Except.ok.inj h
    rfl
  | cons c word ih =>
    cases s with
    | nil => cases h
    | cons b s =>
      rw [expectWord] at h
      rw [List.cons_append, expectWord]
      split at h
      · next hc =>
        rw [if_pos hc]
        exact ih h
      · cases h

/-! ## Strings -/

theorem Json.settles_readHex : Settles Json.readHex := by
  intro s n left t h
  rw [readHex.eq_def] at h
  split at h
  · split at h
    · next ha hb hc hd =>
      obtain ⟨rfl, rfl⟩ := Prod.mk.inj (Except.ok.inj h)
      simp only [List.cons_append, readHex, ha, hb, hc, hd]
    · cases h
  · cases h

theorem Json.settles_readTrailing (leading : Nat) : Settles (Json.readTrailing leading) := by
  intro s n left t h
  obtain ⟨u, unit, rfl, hhex⟩ := Json.of_readTrailing h
  have hmore := Json.settles_readHex _ _ _ t hhex
  simp only [readTrailing, ne_eq, not_true_eq_false, if_false, hhex] at h
  simp only [List.cons_append, readTrailing, ne_eq, not_true_eq_false, if_false, hmore]
  split at h
  · next htrailing =>
    obtain ⟨rfl, -⟩ := Prod.mk.inj (Except.ok.inj h)
    rw [if_pos htrailing]
  · cases h

theorem Json.settles_readCodePoint : Settles Json.readCodePoint := by
  intro s n left t h
  obtain ⟨unit, behind, hhex, -⟩ := Json.of_readCodePoint h
  have hmore := Json.settles_readHex _ _ _ t hhex
  rw [readCodePoint, hhex] at h
  rw [readCodePoint, hmore]
  dsimp only at h ⊢
  split at h
  · cases h
  · next htrailing =>
    rw [if_neg htrailing]
    split at h
    · next hleading =>
      rw [if_pos hleading]
      exact Json.settles_readTrailing _ _ _ _ t h
    · next hleading =>
      obtain ⟨rfl, rfl⟩ := Prod.mk.inj (Except.ok.inj h)
      rw [if_neg hleading]

theorem Json.settles_readEscape : Settles Json.readEscape := by
  intro s bytes left t h
  cases s with
  | nil => cases h
  | cons b s =>
    rw [readEscape] at h
    rw [List.cons_append, readEscape]
    split at h
    · obtain ⟨rfl, rfl⟩ := Prod.mk.inj (Except.ok.inj h)
      rfl
    · split at h
      · next hu =>
        rw [if_pos hu]
        split at h
        · cases h
        · next n behind hcode =>
          obtain ⟨rfl, rfl⟩ := Prod.mk.inj (Except.ok.inj h)
          rw [Json.settles_readCodePoint _ _ _ t hcode]
      · cases h

/-- The closing quote is found again, whatever the fuel beyond what was needed. -/
theorem Json.readStringBytes_append {fuel more : Nat} {s bytes left : Bytes}
    (h : Json.readStringBytes fuel s = .ok (bytes, left)) (hfuel : fuel ≤ more) (t : Bytes) :
    Json.readStringBytes more (s ++ t) = .ok (bytes, left ++ t) := by
  induction fuel generalizing more s bytes with
  | zero => cases h
  | succ fuel ih =>
    obtain ⟨more, rfl⟩ : ∃ k, more = k + 1 := ⟨more - 1, by omega⟩
    have hfuel := Nat.le_of_succ_le_succ hfuel
    cases s with
    | nil => cases h
    | cons b s =>
      rw [readStringBytes] at h
      rw [List.cons_append, readStringBytes]
      split at h
      · next hquote =>
        obtain ⟨rfl, rfl⟩ := Prod.mk.inj (Except.ok.inj h)
        rw [if_pos hquote]
      · next hquote =>
        rw [if_neg hquote]
        split at h
        · next hbackslash =>
          rw [if_pos hbackslash]
          split at h
          · cases h
          · next decoded behind hescape =>
            obtain ⟨⟨rest, after⟩, hrest, heq⟩ := exists_of_map_eq_ok h
            obtain ⟨rfl, rfl⟩ := Prod.mk.inj heq
            rw [Json.settles_readEscape _ _ _ t hescape]
            dsimp only
            rw [ih hrest hfuel]
            rfl
        · next hbackslash =>
          rw [if_neg hbackslash]
          split at h
          · cases h
          · next hcontrol =>
            obtain ⟨⟨rest, after⟩, hrest, heq⟩ := exists_of_map_eq_ok h
            obtain ⟨rfl, rfl⟩ := Prod.mk.inj heq
            rw [if_neg hcontrol, ih hrest hfuel]
            rfl

theorem Json.settles_readString : Settles Json.readString := by
  intro s text left t h
  rw [readString] at h
  rw [readString]
  split at h
  · cases h
  · next bytes behind hbytes =>
    have hlength : s.length ≤ (s ++ t).length := by
      rw [List.length_append]
      exact Nat.le_add_right _ _
    rw [Json.readStringBytes_append hbytes hlength]
    dsimp only
    split at h
    · obtain ⟨rfl, rfl⟩ := Prod.mk.inj (Except.ok.inj h)
      rfl
    · cases h

/-! ## Numbers -/

/-- Digits end at the first byte that is none. -/
theorem Json.spanDigits_append_of_left {s : Bytes} (h : (Json.spanDigits s).2 ≠ []) (t : Bytes) :
    Json.spanDigits (s ++ t) = ((Json.spanDigits s).1, (Json.spanDigits s).2 ++ t) := by
  have hdrop : (s.dropWhile Json.isDigit).isEmpty = false := by
    rw [List.isEmpty_eq_false_iff]
    exact h
  have htake : (s.takeWhile Json.isDigit).length ≠ s.length := by
    intro hlength
    have hsplit := congrArg List.length (@List.takeWhile_append_dropWhile _ Json.isDigit s)
    rw [List.length_append, hlength] at hsplit
    exact h (List.eq_nil_of_length_eq_zero (by simpa [spanDigits] using hsplit))
  rw [spanDigits, List.takeWhile_append, List.dropWhile_append, hdrop, if_neg htake]
  rfl

theorem Json.settlesInside_readWholeDigits : SettlesInside Json.readWholeDigits := by
  intro s digits left t h hleft
  cases s with
  | nil => cases h
  | cons b s =>
    rw [readWholeDigits.eq_def] at h
    rw [List.cons_append, readWholeDigits.eq_def]
    dsimp only at h ⊢
    split at h
    · next hzero =>
      rw [if_pos hzero]
      cases s with
      | nil =>
        obtain ⟨-, rfl⟩ := Prod.mk.inj (Except.ok.inj h)
        exact absurd rfl hleft
      | cons d rest =>
        dsimp only [List.cons_append] at h ⊢
        split at h
        · cases h
        · next hd =>
          obtain ⟨rfl, rfl⟩ := Prod.mk.inj (Except.ok.inj h)
          rw [if_neg hd]
          rfl
    · next hzero =>
      rw [if_neg hzero]
      split at h
      · next hb =>
        obtain ⟨rfl, rfl⟩ := Prod.mk.inj (Except.ok.inj h)
        rw [if_pos hb, Json.spanDigits_append_of_left hleft]
      · cases h

theorem Json.settlesInside_readFraction : SettlesInside Json.readFraction := by
  intro s digits left t h hleft
  cases s with
  | nil =>
    obtain ⟨-, rfl⟩ := Prod.mk.inj (Except.ok.inj h)
    exact absurd rfl hleft
  | cons b s =>
    rw [readFraction] at h
    rw [List.cons_append, readFraction]
    split at h
    · next hpoint =>
      rw [if_pos hpoint]
      split at h
      · cases h
      · cases h
      · next d digits rest hspan =>
        obtain ⟨rfl, rfl⟩ := Prod.mk.inj (Except.ok.inj h)
        rw [Json.spanDigits_append_of_left (by rw [hspan]; exact hleft), hspan]
    · next hpoint =>
      obtain ⟨rfl, rfl⟩ := Prod.mk.inj (Except.ok.inj h)
      rw [if_neg hpoint]
      rfl

theorem Json.readExponentSign_append {s : Bytes} (h : s ≠ []) (t : Bytes) :
    Json.readExponentSign (s ++ t)
      = ((Json.readExponentSign s).1, (Json.readExponentSign s).2 ++ t) := by
  cases s with
  | nil => exact absurd rfl h
  | cons b s =>
    rw [List.cons_append, readExponentSign, readExponentSign]
    split
    · rfl
    · split <;> rfl

theorem Json.settlesInside_readExponent : SettlesInside Json.readExponent := by
  intro s exponent left t h hleft
  cases s with
  | nil =>
    obtain ⟨-, rfl⟩ := Prod.mk.inj (Except.ok.inj h)
    exact absurd rfl hleft
  | cons b s =>
    rw [readExponent] at h
    rw [List.cons_append, readExponent]
    split at h
    · next hmark =>
      rw [if_pos hmark]
      dsimp only at h ⊢
      split at h
      · cases h
      · cases h
      · next d digits rest hspan =>
        obtain ⟨rfl, rfl⟩ := Prod.mk.inj (Except.ok.inj h)
        have hs : s ≠ [] := by
          rintro rfl
          cases hspan
        rw [Json.readExponentSign_append hs,
          Json.spanDigits_append_of_left (by rw [hspan]; exact hleft), hspan]
    · next hmark =>
      obtain ⟨rfl, rfl⟩ := Prod.mk.inj (Except.ok.inj h)
      rw [if_neg hmark]
      rfl

theorem Json.settlesInside_readNumeral (isNegative : Bool) :
    SettlesInside (Json.readNumeral isNegative) := by
  refine Json.settlesInside_readWholeDigits.bind (fun whole => ?_) ?_
  · refine Json.settlesInside_readFraction.bind (fun fraction => ?_) ?_
    · refine Json.settlesInside_readExponent.bind (fun exponent => settlesInside_pure _) ?_
      intro exponent numeral left h
      exact (Prod.mk.inj (Except.ok.inj h)).2.symm
    · intro fraction numeral left h
      exact (Prod.mk.inj (Except.ok.inj h)).2.symm
  · intro whole numeral left h
    exact (Prod.mk.inj (Except.ok.inj h)).2.symm

theorem Json.settlesInside_readNumber (isNegative : Bool) :
    SettlesInside (Json.readNumber isNegative) := by
  refine (Json.settlesInside_readNumeral isNegative).bind (fun numeral => ?_) ?_
  · intro s n left t h _
    cases hvalue : numeral.value with
    | error e =>
      simp only [hvalue] at h
      cases h
    | ok value =>
      simp only [hvalue] at h ⊢
      obtain ⟨rfl, rfl⟩ := Prod.mk.inj (Except.ok.inj h)
      rfl
  · intro numeral n left h
    cases hvalue : numeral.value with
    | error e =>
      simp only [hvalue] at h
      cases h
    | ok value =>
      simp only [hvalue] at h
      exact (Prod.mk.inj (Except.ok.inj h)).2.symm

/-! ## Lists -/

section

variable {ε α σ : Type} {lift : Json.TextError → ε} {fuel more : Nat} {isFirst : Bool} {s left : Bytes}

theorem Json.nextItem?_append {item : Option Bytes} (h : Json.nextItem? isFirst s = .ok item)
    (t : Bytes) : Json.nextItem? isFirst (s ++ t) = .ok (item.map (· ++ t)) := by
  rw [nextItem?] at h
  split at h
  · cases h
  · next b rest hskip =>
    rw [nextItem?, Json.skipBlank_append hskip]
    dsimp only
    split at h
    · next hbracket =>
      obtain rfl := Except.ok.inj h
      exact if_pos hbracket
    · next hbracket =>
      rw [if_neg hbracket]
      split at h
      · next hfirst =>
        obtain rfl := Except.ok.inj h
        exact if_pos hfirst
      · next hfirst =>
        rw [if_neg hfirst]
        split at h
        · next hcomma =>
          rw [if_pos hcomma]
          split at h
          · cases h
          · next c behind hmore =>
            rw [Json.skipBlank_append hmore]
            dsimp only
            split at h
            · cases h
            · next hc =>
              obtain rfl := Except.ok.inj h
              exact if_neg hc
        · cases h

theorem Json.endList_append (h : Json.endList s = .ok left) (t : Bytes) :
    Json.endList (s ++ t) = .ok (left ++ t) := by
  rw [endList] at h
  split at h
  · cases h
  · next b rest hskip =>
    rw [endList, Json.skipBlank_append hskip]
    dsimp only
    split at h
    · next hbracket =>
      obtain rfl := Except.ok.inj h
      exact if_pos hbracket
    · split at h
      · cases h
      · cases h

/-- No list ends where the text ends. -/
theorem Json.readItems_nil (read : Bytes → Except ε (α × Bytes)) :
    Json.readItems lift read fuel isFirst [] = .error (lift .endInList) := by
  cases fuel <;> rfl

theorem Json.readItems_append {read : Bytes → Except ε (α × Bytes)} (hread : SettlesInside read)
    {items : List α} (h : Json.readItems lift read fuel isFirst s = .ok (items, left))
    (hfuel : fuel ≤ more) (t : Bytes) :
    Json.readItems lift read more isFirst (s ++ t) = .ok (items, left ++ t) := by
  induction fuel generalizing more isFirst s items with
  | zero => cases h
  | succ fuel ih =>
    obtain ⟨more, rfl⟩ : ∃ k, more = k + 1 := ⟨more - 1, by omega⟩
    have hfuel := Nat.le_of_succ_le_succ hfuel
    rw [readItems] at h
    rw [readItems]
    split at h
    · cases h
    · next hnext =>
      obtain ⟨behind, hend, heq⟩ := exists_of_map_eq_ok (eq_ok_of_mapError h)
      obtain ⟨rfl, rfl⟩ := Prod.mk.inj heq
      rw [Json.nextItem?_append hnext]
      dsimp only [Option.map]
      rw [Json.endList_append hend]
      rfl
    · next hnext =>
      rw [Json.nextItem?_append hnext]
      dsimp only [Option.map]
      split at h
      · cases h
      · next item behind hitem =>
        obtain ⟨⟨rest, after⟩, hrest, heq⟩ := exists_of_map_eq_ok h
        obtain ⟨rfl, rfl⟩ := Prod.mk.inj heq
        have hbehind : behind ≠ [] := by
          rintro rfl
          rw [Json.readItems_nil] at hrest
          cases hrest
        rw [hread _ _ _ t hitem hbehind]
        dsimp only
        rw [ih hrest hfuel]
        rfl

theorem Json.settles_readList {read : Bytes → Except ε (α × Bytes)} (hread : SettlesInside read) :
    Settles (Json.readList lift read) := by
  intro s items left t h
  refine Json.readItems_append hread h ?_ t
  rw [List.length_append]
  exact Nat.le_add_right _ _

/-! ## Objects -/

theorem Json.nextKey?_append {key : Option Bytes} (h : Json.nextKey? isFirst s = .ok key)
    (t : Bytes) : Json.nextKey? isFirst (s ++ t) = .ok (key.map (· ++ t)) := by
  rw [nextKey?] at h
  split at h
  · cases h
  · next b rest hskip =>
    rw [nextKey?, Json.skipBlank_append hskip]
    dsimp only
    split at h
    · next hbrace =>
      obtain rfl := Except.ok.inj h
      exact if_pos hbrace
    · next hbrace =>
      rw [if_neg hbrace]
      split at h
      · next hfirst =>
        rw [if_pos hfirst]
        split at h
        · next hquote =>
          obtain rfl := Except.ok.inj h
          exact if_pos hquote
        · cases h
      · next hfirst =>
        rw [if_neg hfirst]
        split at h
        · next hcomma =>
          rw [if_pos hcomma]
          split at h
          · cases h
          · next c behind hmore =>
            rw [Json.skipBlank_append hmore]
            dsimp only
            split at h
            · next hquote =>
              obtain rfl := Except.ok.inj h
              exact if_pos hquote
            · split at h
              · cases h
              · cases h
        · cases h

theorem Json.endObject_append (h : Json.endObject s = .ok left) (t : Bytes) :
    Json.endObject (s ++ t) = .ok (left ++ t) := by
  rw [endObject] at h
  split at h
  · cases h
  · next b rest hskip =>
    rw [endObject, Json.skipBlank_append hskip]
    dsimp only
    split at h
    · next hbrace =>
      obtain rfl := Except.ok.inj h
      exact if_pos hbrace
    · split at h
      · cases h
      · cases h

theorem Json.expectColon_append (h : Json.expectColon s = .ok left) (t : Bytes) :
    Json.expectColon (s ++ t) = .ok (left ++ t) := by
  rw [expectColon] at h
  split at h
  · cases h
  · next b rest hskip =>
    rw [expectColon, Json.skipBlank_append hskip]
    dsimp only
    split at h
    · next hcolon =>
      obtain rfl := Except.ok.inj h
      exact if_pos hcolon
    · cases h

/-- No object ends where the text ends. -/
theorem Json.readMembers_nil (member : σ → Bytes → Except ε (σ × Bytes)) (state : σ) :
    Json.readMembers lift member fuel isFirst state [] = .error (lift .endInObject) := by
  cases fuel <;> rfl

theorem Json.readMembers_append {member : σ → Bytes → Except ε (σ × Bytes)}
    (hmember : ∀ state, SettlesInside (member state)) {state last : σ}
    (h : Json.readMembers lift member fuel isFirst state s = .ok (last, left)) (hfuel : fuel ≤ more)
    (t : Bytes) : Json.readMembers lift member more isFirst state (s ++ t) = .ok (last, left ++ t) := by
  induction fuel generalizing more isFirst state s with
  | zero => cases h
  | succ fuel ih =>
    obtain ⟨more, rfl⟩ : ∃ k, more = k + 1 := ⟨more - 1, by omega⟩
    have hfuel := Nat.le_of_succ_le_succ hfuel
    rw [readMembers] at h
    rw [readMembers]
    split at h
    · cases h
    · next hnext =>
      obtain ⟨behind, hend, heq⟩ := exists_of_map_eq_ok (eq_ok_of_mapError h)
      obtain ⟨rfl, rfl⟩ := Prod.mk.inj heq
      rw [Json.nextKey?_append hnext]
      dsimp only [Option.map]
      rw [Json.endObject_append hend]
      rfl
    · next hnext =>
      rw [Json.nextKey?_append hnext]
      dsimp only [Option.map]
      split at h
      · cases h
      · next state' behind hstate =>
        have hbehind : behind ≠ [] := by
          rintro rfl
          rw [Json.readMembers_nil] at h
          cases h
        rw [hmember _ _ _ _ t hstate hbehind]
        exact ih h hfuel

theorem Json.settles_readObject {member : σ → Bytes → Except ε (σ × Bytes)}
    (hmember : ∀ state, SettlesInside (member state)) (start : σ) :
    Settles (Json.readObject lift member start) := by
  intro s last left t h
  refine Json.readMembers_append hmember h ?_ t
  rw [List.length_append]
  exact Nat.le_add_right _ _

end

theorem Json.settlesInside_readMember {read : Bytes → Json.Scan Json} (hread : SettlesInside read)
    (members : List (String × Json)) : SettlesInside (Json.readMember read members) := by
  intro s members' left t h hleft
  rw [readMember] at h
  rw [readMember]
  split at h
  · cases h
  · next key behind hkey =>
    rw [Json.settles_readString _ _ _ t hkey]
    dsimp only
    split at h
    · cases h
    · next behind' hcolon =>
      rw [Json.expectColon_append hcolon]
      dsimp only
      split at h
      · cases h
      · next value after hvalue =>
        obtain ⟨rfl, rfl⟩ := Prod.mk.inj (Except.ok.inj h)
        rw [hread _ _ _ t hvalue hleft]

/-! ## Values -/

/-- **A value that was read is read also if more follows**, unless it is a number that could go on. -/
theorem Json.readValue_append {depth : Nat} {s left : Bytes} {v : Json}
    (h : Json.readValue depth s = .ok (v, left)) (hv : left = [] → ∀ n, v ≠ .number n) (t : Bytes) :
    Json.readValue depth (s ++ t) = .ok (v, left ++ t) := by
  induction depth using Nat.strongRecOn generalizing s left v t with
  | ind depth ih =>
    -- Inside a list or an object something is left behind every value.
    have hinside : ∀ inner < depth, SettlesInside (Json.readValue inner) :=
      fun inner hinner _ _ _ t hvalue hleft => ih inner hinner hvalue (fun hnil => absurd hnil hleft) t
    rw [readValue.eq_def] at h
    split at h
    · cases h
    · next b rest hskip =>
      rw [readValue.eq_def, Json.skipBlank_append hskip]
      dsimp only
      split at h
      · obtain ⟨_, hword, ⟨⟩⟩ := exists_of_map_eq_ok h
        rw [expectNull, Json.expectWord_append hword]
        rfl
      · obtain ⟨_, hword, ⟨⟩⟩ := exists_of_map_eq_ok h
        rw [expectTrue, Json.expectWord_append hword]
        rfl
      · obtain ⟨_, hword, ⟨⟩⟩ := exists_of_map_eq_ok h
        rw [expectFalse, Json.expectWord_append hword]
        rfl
      · obtain ⟨⟨n, _⟩, hnumber, ⟨⟩⟩ := exists_of_map_eq_ok h
        rw [Json.settlesInside_readNumber _ _ _ _ t hnumber fun hleft => hv hleft n rfl]
        rfl
      · obtain ⟨⟨n, _⟩, hnumber, ⟨⟩⟩ := exists_of_map_eq_ok h
        have hmore := Json.settlesInside_readNumber _ _ _ _ t hnumber fun hleft => hv hleft n rfl
        rw [List.cons_append] at hmore
        rw [hmore]
        rfl
      · obtain ⟨⟨text, _⟩, hstring, ⟨⟩⟩ := exists_of_map_eq_ok h
        rw [Json.settles_readString _ _ _ t hstring]
        rfl
      · cases depth with
        | zero => cases h
        | succ depth =>
          obtain ⟨⟨items, _⟩, hitems, ⟨⟩⟩ := exists_of_map_eq_ok h
          dsimp only
          rw [Json.settles_readList (hinside depth (Nat.lt_succ_self depth)) _ _ _ t hitems]
          rfl
      · cases depth with
        | zero => cases h
        | succ depth =>
          obtain ⟨⟨members, _⟩, hmembers, ⟨⟩⟩ := exists_of_map_eq_ok h
          dsimp only
          have hmember := Json.settlesInside_readMember (hinside depth (Nat.lt_succ_self depth))
          rw [Json.settles_readObject hmember [] _ _ _ t hmembers]
          rfl
      · cases h

end JobMonitor
