import JobMonitor.Proofs.Json.NumberReading
import JobMonitor.Proofs.Json.Values

set_option autoImplicit false

/-! # Written values are read

A text that is written by the grammar, with no more lists and objects one inside the other than the
reader allows, is read as the value that is written, and refused if it has none (`Json.read_written`).
The reader stops behind a value and leaves the blanks that follow it, so that what it leaves is known up
to the blanks in front. -/

namespace JobMonitor

/-! ## Up to blanks -/

/-- The reader gives the value and leaves what follows, up to blanks in front. If there is no value it
    fails. -/
def Json.ReadsUpToBlanks {α : Type} (result : Json.Scan α) (value : Option α) (s : Bytes) : Prop :=
  match value with
  | some a => ∃ left, result = .ok (a, left) ∧ Json.skipBlank left = Json.skipBlank s
  | none => ∃ e, result = .error e

theorem ReadsExactly.upToBlanks {α : Type} {result : Json.Scan α} {value : Option α} {s : Bytes}
    (h : ReadsExactly result value s) : Json.ReadsUpToBlanks result value s := by
  cases value with
  | some a => exact ⟨s, h, rfl⟩
  | none => exact h

theorem Json.skipBlank_skipBlank (s : Bytes) :
    Json.skipBlank (Json.skipBlank s) = Json.skipBlank s := by
  induction s with
  | nil => rfl
  | cons b rest ih =>
    cases hb : Json.isBlank b with
    | true =>
      have hskip : Json.skipBlank (b :: rest) = Json.skipBlank rest := List.dropWhile_cons_of_pos hb
      rw [hskip, ih]
    | false => rw [Json.skipBlank_cons hb, Json.skipBlank_cons hb]

theorem Json.readValue_skipBlank (depth : Nat) (s : Bytes) :
    Json.readValue depth (Json.skipBlank s) = Json.readValue depth s := by
  rw [readValue.eq_def depth (Json.skipBlank s), Json.skipBlank_skipBlank, readValue.eq_def depth s]

/-- Blanks in front of a value are passed over. -/
theorem Json.readValue_blankBytes (depth : Nat) (blanks : List Json.Blank) (s : Bytes) :
    Json.readValue depth (Json.blankBytes blanks ++ s) = Json.readValue depth s := by
  rw [← Json.readValue_skipBlank, Json.skipBlank_blankBytes, Json.readValue_skipBlank]

/-! ## How texts begin -/

theorem Json.Written.itemTexts_eq_map (items : List Json.Written) :
    Json.Written.itemTexts items = items.map Json.Written.bytes := by
  induction items with
  | nil => rfl
  | cons v rest ih => rw [itemTexts, ih, List.map_cons]

theorem Json.Written.memberTexts_eq_map (members : List (Json.WrittenKey × Json.Written)) :
    Json.Written.memberTexts members = members.map fun m => m.1.bytes ++ m.2.bytes := by
  induction members with
  | nil => rfl
  | cons m rest ih =>
    obtain ⟨k, v⟩ := m
    rw [memberTexts, ih, List.map_cons]

/-- The first digit of a number. -/
theorem Json.WrittenNumber.exists_digit (n : Json.WrittenNumber) :
    ∃ b rest, n.unsignedBytes = b :: rest ∧ Json.isDigit b = true := by
  obtain ⟨isNegative, _ | ⟨predFirst, rest⟩, fraction, exponent⟩ := n
  · exact ⟨_, _, rfl, Json.isDigit_digitByte _⟩
  · exact ⟨_, _, rfl, Json.isDigit_digitByte _⟩

/-- Behind blanks every value begins with a byte that begins a value. -/
theorem Json.Written.exists_lead (v : Json.Written) (s : Bytes) :
    ∃ b rest, Json.skipBlank (v.bytes ++ s) = b :: rest ∧ Json.lead b ≠ .other := by
  cases v with
  | null => exact ⟨_, _, rfl, by decide⟩
  | bool b => cases b <;> exact ⟨_, _, rfl, by decide⟩
  | number n =>
    obtain ⟨b, rest, hbytes, hdigit⟩ := n.exists_digit
    have hlead : Json.lead b ≠ .other := by
      rw [Json.lead_of_isDigit hdigit]
      exact Json.Lead.noConfusion
    rw [bytes, WrittenNumber.bytes, hbytes]
    cases n.isNegative with
    | true => exact ⟨_, _, rfl, by decide⟩
    | false =>
      exact ⟨b, rest ++ s, Json.skipBlank_cons (Json.isBlank_of_lead_ne_other hlead).1 _, hlead⟩
  | string units => exact ⟨_, _, rfl, by decide⟩
  | array inner items => exact ⟨_, _, rfl, by decide⟩
  | object inner members => exact ⟨_, _, rfl, by decide⟩
  | padded before value after =>
    rw [bytes, List.append_assoc, Json.skipBlank_blankBytes, List.append_assoc]
    exact Json.Written.exists_lead value _

theorem Json.Written.length_pos (v : Json.Written) : 0 < v.bytes.length := by
  obtain ⟨b, rest, hskip, -⟩ := v.exists_lead []
  rw [List.append_nil] at hskip
  refine List.length_pos_iff.2 fun hnil => ?_
  rw [hnil] at hskip
  cases hskip

/-! ## Lists -/

section

variable {read : Bytes → Json.Scan Json} {fuel : Nat} {isFirst : Bool} {x s more : Bytes}

/-- The closing bracket. -/
theorem Json.readItems_of_bracket (hx : Json.skipBlank x = ']'.toUInt8 :: s) :
    Json.readItems id read (fuel + 1) isFirst x = .ok ([], s) := by
  rw [readItems, nextItem?, hx]
  dsimp only
  rw [if_pos rfl]
  dsimp only
  rw [endList, hx]
  dsimp only
  rw [if_pos rfl]
  rfl

/-- The next item of a list: it is found, and read, and then the others. -/
theorem Json.readItems_of_next {v : Json.Written} {rest : List Json.Written}
    (hskip : ∀ s, read (Json.skipBlank s) = read s)
    (hnext : Json.nextItem? isFirst x = .ok (some (Json.skipBlank (v.bytes ++ more))))
    (hread : Json.ReadsUpToBlanks (read (v.bytes ++ more)) v.value? more)
    (hrest : ∀ left, Json.skipBlank left = Json.skipBlank more →
      ReadsExactly (Json.readItems id read fuel false left) (Json.Written.values? rest) s) :
    ReadsExactly (Json.readItems id read (fuel + 1) isFirst x) (Json.Written.values? (v :: rest)) s := by
  rw [readItems, hnext]
  dsimp only
  rw [hskip, Written.values?]
  cases hvalue : v.value? with
  | none =>
    rw [hvalue] at hread
    obtain ⟨e, he⟩ := hread
    rw [he]
    exact ⟨e, rfl⟩
  | some value =>
    rw [hvalue] at hread
    obtain ⟨left, hleft, hblank⟩ := hread
    have hmore := hrest left hblank
    rw [hleft]
    dsimp only
    cases hvalues : Json.Written.values? rest with
    | none =>
      rw [hvalues] at hmore
      obtain ⟨e, he⟩ := hmore
      rw [he]
      exact ⟨e, rfl⟩
    | some values =>
      rw [hvalues] at hmore
      have hread : Json.readItems id read fuel false left = .ok (values, s) := hmore
      rw [hread]
      rfl

/-- Where an item is found. -/
theorem Json.nextItem?_written_first (v : Json.Written)
    (hx : Json.skipBlank x = Json.skipBlank (v.bytes ++ more)) :
    Json.nextItem? true x = .ok (some (Json.skipBlank (v.bytes ++ more))) := by
  obtain ⟨b, t, hskip, hlead⟩ := v.exists_lead more
  rw [nextItem?, hx, hskip]
  dsimp only
  rw [if_neg (Json.isBlank_of_lead_ne_other hlead).2, if_pos rfl]

theorem Json.nextItem?_written_comma (v : Json.Written)
    (hx : Json.skipBlank x = ','.toUInt8 :: (v.bytes ++ more)) :
    Json.nextItem? false x = .ok (some (Json.skipBlank (v.bytes ++ more))) := by
  obtain ⟨b, t, hskip, hlead⟩ := v.exists_lead more
  rw [nextItem?, hx]
  dsimp only
  rw [if_neg (by decide), if_neg Bool.false_ne_true, if_pos rfl, hskip]
  dsimp only
  rw [if_neg (Json.isBlank_of_lead_ne_other hlead).2]

/-- The items behind the first one. -/
theorem Json.readItems_written {items : List Json.Written}
    (hskip : ∀ s, read (Json.skipBlank s) = read s)
    (hread : ∀ v ∈ items, ∀ s, Json.StopsNumber s →
      Json.ReadsUpToBlanks (read (v.bytes ++ s)) v.value? s)
    (hfuel : items.length < fuel)
    (hx : Json.skipBlank x = Json.skipBlank
      ((items.map Json.Written.bytes).flatMap (','.toUInt8 :: ·) ++ ']'.toUInt8 :: s)) :
    ReadsExactly (Json.readItems id read fuel false x) (Json.Written.values? items) s := by
  induction items generalizing fuel x with
  | nil =>
    obtain ⟨fuel, rfl⟩ : ∃ k, fuel = k + 1 := ⟨fuel - 1, by omega⟩
    exact Json.readItems_of_bracket hx
  | cons v rest ih =>
    obtain ⟨fuel, rfl⟩ : ∃ k, fuel = k + 1 := ⟨fuel - 1, by omega⟩
    rw [List.map_cons, List.flatMap_cons, List.cons_append, List.cons_append, List.append_assoc,
      Json.skipBlank_cons (by decide)] at hx
    refine Json.readItems_of_next hskip (Json.nextItem?_written_comma v hx)
      (hread v List.mem_cons_self _ (Json.stopsNumber_items _ s)) fun left hleft => ?_
    exact ih (fun w hw => hread w (List.mem_cons_of_mem _ hw)) (Nat.lt_of_succ_lt_succ hfuel) hleft

theorem length_le_flatMap_cons (texts : List Bytes) (b : UInt8) :
    texts.length ≤ (texts.flatMap (b :: ·)).length := by
  induction texts with
  | nil => exact Nat.le_refl 0
  | cons text rest ih =>
    rw [List.flatMap_cons, List.length_append, List.length_cons, List.length_cons]
    omega

/-- A list is read behind its opening bracket. -/
theorem Json.readList_written (inner : List Json.Blank) {items : List Json.Written}
    (hskip : ∀ s, read (Json.skipBlank s) = read s)
    (hread : ∀ v ∈ items, ∀ s, Json.StopsNumber s →
      Json.ReadsUpToBlanks (read (v.bytes ++ s)) v.value? s) (s : Bytes) :
    ReadsExactly (Json.readList id read (Json.blankBytes inner
      ++ (Json.joined (items.map Json.Written.bytes) ++ ']'.toUInt8 :: s)))
      (Json.Written.values? items) s := by
  rw [readList]
  generalize hlength : (Json.blankBytes inner
    ++ (Json.joined (items.map Json.Written.bytes) ++ ']'.toUInt8 :: s)).length = fuel
  rw [List.length_append, List.length_append, List.length_cons] at hlength
  obtain ⟨fuel, rfl⟩ : ∃ k, fuel = k + 1 := ⟨fuel - 1, by omega⟩
  have hx := Json.skipBlank_blankBytes inner
    (Json.joined (items.map Json.Written.bytes) ++ ']'.toUInt8 :: s)
  cases items with
  | nil => exact Json.readItems_of_bracket hx
  | cons v rest =>
    rw [List.map_cons, joined, List.append_assoc] at hx ⊢
    rw [List.map_cons, joined, List.length_append] at hlength
    have hpos := v.length_pos
    have hcommas := length_le_flatMap_cons (rest.map Json.Written.bytes) ','.toUInt8
    rw [List.length_map] at hcommas
    refine Json.readItems_of_next hskip (Json.nextItem?_written_first v hx)
      (hread v List.mem_cons_self _ (Json.stopsNumber_items _ s)) fun left hleft => ?_
    exact Json.readItems_written hskip (fun w hw => hread w (List.mem_cons_of_mem _ hw))
      (by omega) hleft

/-! ## Objects -/

/-- A member is read behind the opening quote of its key. -/
theorem Json.readMember_written (k : Json.WrittenKey) {v : Json.Written}
    (sorted : List (String × Json))
    (hread : Json.ReadsUpToBlanks (read (v.bytes ++ more)) v.value? more) :
    Json.ReadsUpToBlanks
      (Json.readMember read sorted (k.tailBytes ++ (v.bytes ++ more)))
      (match Json.unitText? k.units, v.value? with
        | some key, some value => some (Json.insertMember key value sorted)
        | _, _ => none) more := by
  have hkey := Json.readString_units k.units
    (Json.blankBytes k.after ++ ':'.toUInt8 :: (v.bytes ++ more))
  have hcolon : Json.expectColon (Json.blankBytes k.after ++ ':'.toUInt8 :: (v.bytes ++ more))
      = .ok (v.bytes ++ more) := by
    rw [expectColon, Json.skipBlank_blankBytes]
    rfl
  rw [WrittenKey.tailBytes, List.append_assoc, List.append_assoc, List.singleton_append, readMember]
  cases hunits : Json.unitText? k.units with
  | none =>
    rw [hunits] at hkey
    obtain ⟨e, he⟩ := hkey
    rw [he]
    exact ⟨e, rfl⟩
  | some key =>
    rw [hunits] at hkey
    have hkey : Json.readString _ = .ok (key, _) := hkey
    rw [hkey]
    dsimp only
    rw [hcolon]
    dsimp only
    cases hvalue : v.value? with
    | none =>
      rw [hvalue] at hread
      obtain ⟨e, he⟩ := hread
      rw [he]
      exact ⟨e, rfl⟩
    | some value =>
      rw [hvalue] at hread
      obtain ⟨left, hleft, hblank⟩ := hread
      rw [hleft]
      exact ⟨left, rfl, hblank⟩

/-- The closing brace. -/
theorem Json.readMembers_of_brace {sorted : List (String × Json)}
    (hx : Json.skipBlank x = '}'.toUInt8 :: s) :
    Json.readMembers id (Json.readMember read) (fuel + 1) isFirst sorted x = .ok (sorted, s) := by
  rw [readMembers, nextKey?, hx]
  dsimp only
  rw [if_pos rfl]
  dsimp only
  rw [endObject, hx]
  dsimp only
  rw [if_pos rfl]
  rfl

/-- The next member of an object: it is found, and read, and then the others. -/
theorem Json.readMembers_of_next {k : Json.WrittenKey} {v : Json.Written}
    {rest : List (Json.WrittenKey × Json.Written)} {sorted : List (String × Json)}
    (hnext : Json.nextKey? isFirst x = .ok (some (k.tailBytes ++ (v.bytes ++ more))))
    (hread : Json.ReadsUpToBlanks (read (v.bytes ++ more)) v.value? more)
    (hrest : ∀ left sorted, Json.skipBlank left = Json.skipBlank more →
      ReadsExactly (Json.readMembers id (Json.readMember read) fuel false sorted left)
        ((Json.Written.members? rest).map fun members =>
          members.foldl (fun sorted m => Json.insertMember m.1 m.2 sorted) sorted) s) :
    ReadsExactly (Json.readMembers id (Json.readMember read) (fuel + 1) isFirst sorted x)
      ((Json.Written.members? ((k, v) :: rest)).map fun members =>
        members.foldl (fun sorted m => Json.insertMember m.1 m.2 sorted) sorted) s := by
  have hmember := Json.readMember_written k sorted hread
  rw [readMembers, hnext, Written.members?]
  dsimp only
  cases hunits : Json.unitText? k.units with
  | none =>
    rw [hunits] at hmember
    obtain ⟨e, he⟩ := hmember
    rw [he]
    exact ⟨e, rfl⟩
  | some key =>
    cases hvalue : v.value? with
    | none =>
      rw [hunits, hvalue] at hmember
      obtain ⟨e, he⟩ := hmember
      rw [he]
      exact ⟨e, rfl⟩
    | some value =>
      rw [hunits, hvalue] at hmember
      obtain ⟨left, hleft, hblank⟩ := hmember
      have hmore := hrest left (Json.insertMember key value sorted) hblank
      rw [hleft]
      dsimp only
      cases hmembers : Json.Written.members? rest with
      | none =>
        rw [hmembers] at hmore
        exact hmore
      | some members =>
        rw [hmembers] at hmore
        exact hmore

/-- Where a key is found. -/
theorem Json.nextKey?_written_first (k : Json.WrittenKey)
    (hx : Json.skipBlank x = Json.skipBlank (k.bytes ++ more)) :
    Json.nextKey? true x = .ok (some (k.tailBytes ++ more)) := by
  rw [WrittenKey.bytes, List.append_assoc, Json.skipBlank_blankBytes, List.cons_append,
    Json.skipBlank_cons (by decide)] at hx
  rw [nextKey?, hx]
  rfl

theorem Json.nextKey?_written_comma (k : Json.WrittenKey)
    (hx : Json.skipBlank x = ','.toUInt8 :: (k.bytes ++ more)) :
    Json.nextKey? false x = .ok (some (k.tailBytes ++ more)) := by
  have hkey : Json.skipBlank (k.bytes ++ more) = '"'.toUInt8 :: (k.tailBytes ++ more) := by
    rw [WrittenKey.bytes, List.append_assoc, Json.skipBlank_blankBytes, List.cons_append,
      Json.skipBlank_cons (by decide)]
  rw [nextKey?, hx]
  dsimp only
  rw [if_neg (by decide), if_neg Bool.false_ne_true, if_pos rfl, hkey]
  rfl

/-- The members behind the first one. -/
theorem Json.readMembers_written {members : List (Json.WrittenKey × Json.Written)}
    (hread : ∀ m ∈ members, ∀ s, Json.StopsNumber s →
      Json.ReadsUpToBlanks (read (m.2.bytes ++ s)) m.2.value? s)
    (hfuel : members.length < fuel) (sorted : List (String × Json))
    (hx : Json.skipBlank x = Json.skipBlank
      ((members.map fun m => m.1.bytes ++ m.2.bytes).flatMap (','.toUInt8 :: ·) ++ '}'.toUInt8 :: s)) :
    ReadsExactly (Json.readMembers id (Json.readMember read) fuel false sorted x)
      ((Json.Written.members? members).map fun members =>
        members.foldl (fun sorted m => Json.insertMember m.1 m.2 sorted) sorted) s := by
  induction members generalizing fuel x sorted with
  | nil =>
    obtain ⟨fuel, rfl⟩ : ∃ k, fuel = k + 1 := ⟨fuel - 1, by omega⟩
    exact Json.readMembers_of_brace hx
  | cons m rest ih =>
    obtain ⟨k, v⟩ := m
    obtain ⟨fuel, rfl⟩ : ∃ k, fuel = k + 1 := ⟨fuel - 1, by omega⟩
    rw [List.map_cons, List.flatMap_cons, List.cons_append, List.cons_append, List.append_assoc,
      List.append_assoc, Json.skipBlank_cons (by decide)] at hx
    refine Json.readMembers_of_next (Json.nextKey?_written_comma k hx)
      (hread (k, v) List.mem_cons_self _ (Json.stopsNumber_members _ s)) fun left sorted hleft => ?_
    exact ih (fun w hw => hread w (List.mem_cons_of_mem _ hw)) (Nat.lt_of_succ_lt_succ hfuel) sorted
      hleft

/-- An object is read behind its opening brace. -/
theorem Json.readObject_written (inner : List Json.Blank)
    {members : List (Json.WrittenKey × Json.Written)}
    (hread : ∀ m ∈ members, ∀ s, Json.StopsNumber s →
      Json.ReadsUpToBlanks (read (m.2.bytes ++ s)) m.2.value? s) (s : Bytes) :
    ReadsExactly (Json.readObject id (Json.readMember read) [] (Json.blankBytes inner
      ++ (Json.joined (members.map fun m => m.1.bytes ++ m.2.bytes) ++ '}'.toUInt8 :: s)))
      ((Json.Written.members? members).map fun members =>
        members.foldl (fun sorted m => Json.insertMember m.1 m.2 sorted) []) s := by
  rw [readObject]
  generalize hlength : (Json.blankBytes inner ++ (Json.joined (members.map fun m =>
    m.1.bytes ++ m.2.bytes) ++ '}'.toUInt8 :: s)).length = fuel
  rw [List.length_append, List.length_append, List.length_cons] at hlength
  obtain ⟨fuel, rfl⟩ : ∃ k, fuel = k + 1 := ⟨fuel - 1, by omega⟩
  have hx := Json.skipBlank_blankBytes inner
    (Json.joined (members.map fun m => m.1.bytes ++ m.2.bytes) ++ '}'.toUInt8 :: s)
  cases members with
  | nil => exact Json.readMembers_of_brace hx
  | cons m rest =>
    obtain ⟨k, v⟩ := m
    rw [List.map_cons, joined, List.append_assoc, List.append_assoc] at hx ⊢
    rw [List.map_cons, joined, List.length_append, List.length_append] at hlength
    have hpos : 0 < (k, v).2.bytes.length := v.length_pos
    have hcommas := length_le_flatMap_cons
      (rest.map fun m : Json.WrittenKey × Json.Written => m.1.bytes ++ m.2.bytes) ','.toUInt8
    rw [List.length_map] at hcommas
    refine Json.readMembers_of_next (Json.nextKey?_written_first k hx)
      (hread (k, v) List.mem_cons_self _ (Json.stopsNumber_members _ s)) fun left sorted hleft => ?_
    exact Json.readMembers_written (fun w hw => hread w (List.mem_cons_of_mem _ hw)) (by omega) sorted
      hleft

end

/-! ## Values -/

/-- A number is found behind its minus sign, or from its first digit on. -/
theorem Json.readValue_number (depth : Nat) (n : Json.WrittenNumber) {s : Bytes}
    (hs : Json.StopsNumber s) :
    ReadsExactly (Json.readValue depth ((Json.Written.number n).bytes ++ s))
      (Json.Written.number n).value? s := by
  have hread := n.readNumber_bytes hs
  have hnumber := hread.map Json.number
  rw [Written.bytes, WrittenNumber.bytes, Written.value?]
  cases hsign : n.isNegative with
  | true =>
    rw [hsign] at hnumber
    rw [if_pos rfl, List.append_assoc, List.singleton_append, readValue,
      Json.skipBlank_cons (by decide)]
    exact hnumber
  | false =>
    obtain ⟨b, rest, hbytes, hdigit⟩ := n.exists_digit
    have hlead := Json.lead_of_isDigit hdigit
    have hblank := (Json.isBlank_of_lead_ne_other (b := b) (by rw [hlead]; decide)).1
    rw [hsign, hbytes] at hnumber
    rw [if_neg Bool.false_ne_true, List.nil_append, hbytes, List.cons_append, readValue,
      Json.skipBlank_cons hblank]
    simp only [hlead]
    exact hnumber

theorem Json.readValue_written {depth : Nat} {v : Json.Written} (h : v.Fits depth) {s : Bytes}
    (hs : Json.StopsNumber s) :
    Json.ReadsUpToBlanks (Json.readValue depth (v.bytes ++ s)) v.value? s := by
  induction h generalizing s with
  | null =>
    rw [readValue]
    exact ⟨s, rfl, rfl⟩
  | bool b =>
    rw [readValue]
    cases b <;> exact ⟨s, rfl, rfl⟩
  | @number depth n => exact (Json.readValue_number depth n hs).upToBlanks
  | string units =>
    have htext := (Json.readString_units units s).map Json.string
    rw [Written.bytes, List.cons_append, readValue, Json.skipBlank_cons (by decide)]
    exact htext.upToBlanks
  | @array depth inner items hitems ih =>
    have hlist := (Json.readList_written inner (Json.readValue_skipBlank depth)
      (fun v hv s hs => ih v hv hs) s).map Json.array
    rw [Written.bytes, Written.itemTexts_eq_map, List.cons_append, List.append_assoc,
      List.append_assoc, List.singleton_append, readValue, Json.skipBlank_cons (by decide)]
    exact hlist.upToBlanks
  | @object depth inner members hmembers ih =>
    have hobject := (Json.readObject_written inner
      (fun m hm s hs => ih m hm hs) s).map Json.object
    rw [Written.bytes, Written.memberTexts_eq_map, List.cons_append, List.append_assoc,
      List.append_assoc, List.singleton_append, readValue, Json.skipBlank_cons (by decide)]
    rw [Option.map_map] at hobject
    exact hobject.upToBlanks
  | @padded depth before after v hfits ih =>
    have hvalue := ih (Json.stopsNumber_blankBytes hs after)
    rw [Written.bytes, List.append_assoc, Json.readValue_blankBytes, List.append_assoc, Written.value?]
    cases hv : v.value? with
    | none =>
      rw [hv] at hvalue
      exact hvalue
    | some value =>
      rw [hv] at hvalue
      obtain ⟨left, hleft, hblank⟩ := hvalue
      exact ⟨left, hleft, hblank.trans (Json.skipBlank_blankBytes after s)⟩

/-- **A text that is written is read as its value**, and refused if it has none. -/
theorem Json.read_written {v : Json.Written} (h : v.Fits Json.maxDepth) :
    match v.value? with
    | some value => Json.read v.bytes = .ok value
    | none => ∃ e, Json.read v.bytes = .error e := by
  have hvalue := Json.readValue_written h Json.stopsNumber_nil
  rw [List.append_nil] at hvalue
  cases hv : v.value? with
  | none =>
    rw [hv] at hvalue
    obtain ⟨e, he⟩ := hvalue
    rw [read, he]
    exact ⟨e, rfl⟩
  | some value =>
    rw [hv] at hvalue
    obtain ⟨left, hleft, hblank⟩ := hvalue
    have hend : Json.expectEnd left = .ok () := by
      rw [expectEnd, hblank]
      rfl
    rw [read, hleft]
    dsimp only
    rw [hend]
    rfl

end JobMonitor
