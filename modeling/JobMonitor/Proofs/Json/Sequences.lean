import JobMonitor.Proofs.Json.Numbers

set_option autoImplicit false

/-! # Lists and objects are read back

The readers of lists and objects are given the reader of an item or of a member. If it reads back
each of the texts that stand between the commas, the whole list or object is read back. -/

namespace JobMonitor

variable {ε α β σ : Type}

/-! ## Texts with commas between them -/

/-- Texts with commas between them. -/
def Json.joined : List Bytes → Bytes
  | [] => []
  | text :: rest => text ++ rest.flatMap (','.toUInt8 :: ·)

/-- What stands behind a value in a list is no part of a number. -/
theorem Json.stopsNumber_items (texts : List Bytes) (s : Bytes) :
    Json.StopsNumber (texts.flatMap (','.toUInt8 :: ·) ++ ']'.toUInt8 :: s) := by
  cases texts with
  | nil => exact Json.stopsNumber_bracket s
  | cons text rest =>
    rw [List.flatMap_cons, List.cons_append, List.cons_append]
    exact Json.stopsNumber_comma _

@[inherit_doc Json.stopsNumber_items]
theorem Json.stopsNumber_members (texts : List Bytes) (s : Bytes) :
    Json.StopsNumber (texts.flatMap (','.toUInt8 :: ·) ++ '}'.toUInt8 :: s) := by
  cases texts with
  | nil => exact Json.stopsNumber_brace s
  | cons text rest =>
    rw [List.flatMap_cons, List.cons_append, List.cons_append]
    exact Json.stopsNumber_comma _

/-! ## Lists -/

/-- The text begins with a byte that begins a value. -/
def Json.StartsValue (text : Bytes) : Prop := ∃ b rest, text = b :: rest ∧ Json.lead b ≠ .other

/-- A byte that begins a value is neither a blank nor a closing bracket. -/
theorem Json.isBlank_of_lead_ne_other {b : UInt8} (h : Json.lead b ≠ .other) :
    Json.isBlank b = false ∧ b ≠ ']'.toUInt8 := by
  constructor
  · rw [← Bool.not_eq_true]
    intro hblank
    simp only [isBlank, Bool.or_eq_true, beq_iff_eq] at hblank
    rcases hblank with ((rfl | rfl) | rfl) | rfl <;> exact h (by decide)
  · rintro rfl
    exact h (by decide)

theorem Json.skipBlank_cons {b : UInt8} (h : Json.isBlank b = false) (s : Bytes) :
    Json.skipBlank (b :: s) = b :: s :=
  List.dropWhile_cons_of_neg (by simp [h])

theorem Json.nextItem?_first {text : Bytes} (h : Json.StartsValue text) (s : Bytes) :
    Json.nextItem? true (text ++ s) = .ok (some (text ++ s)) := by
  obtain ⟨b, rest, rfl, hb⟩ := h
  obtain ⟨hblank, hbracket⟩ := Json.isBlank_of_lead_ne_other hb
  rw [List.cons_append, nextItem?, Json.skipBlank_cons hblank]
  simp only [hbracket, if_false, if_true]

theorem Json.nextItem?_comma {text : Bytes} (h : Json.StartsValue text) (s : Bytes) :
    Json.nextItem? false (','.toUInt8 :: (text ++ s)) = .ok (some (text ++ s)) := by
  obtain ⟨b, rest, rfl, hb⟩ := h
  obtain ⟨hblank, hbracket⟩ := Json.isBlank_of_lead_ne_other hb
  rw [List.cons_append, nextItem?, Json.skipBlank_cons (by decide)]
  simp only [Json.skipBlank_cons hblank, hbracket, if_false]
  rfl

/-- The items of a list behind its first one, each with the comma in front of it. -/
theorem Json.readItems_of_forall {lift : Json.TextError → ε} {read : Bytes → Except ε (β × Bytes)}
    {text : α → Bytes} {value : α → β} {items : List α}
    (hstart : ∀ a ∈ items, Json.StartsValue (text a))
    (hread : ∀ a ∈ items, ∀ s, Json.StopsNumber s → read (text a ++ s) = .ok (value a, s))
    {fuel : Nat} {s : Bytes}
    (hfuel : ((items.map text).flatMap (','.toUInt8 :: ·) ++ ']'.toUInt8 :: s).length ≤ fuel) :
    Json.readItems lift read fuel false
        ((items.map text).flatMap (','.toUInt8 :: ·) ++ ']'.toUInt8 :: s)
      = .ok (items.map value, s) := by
  -- An item uses up one of the fuel, and the text becomes shorter by its comma at least.
  induction items generalizing fuel with
  | nil =>
    cases fuel with
    | zero => exact absurd hfuel (Nat.not_succ_le_zero _)
    | succ fuel => rfl
  | cons a rest ih =>
    rw [List.map_cons, List.flatMap_cons, List.append_assoc, List.cons_append] at hfuel ⊢
    rw [List.length_cons, List.length_append] at hfuel
    cases fuel with
    | zero => exact absurd hfuel (Nat.not_succ_le_zero _)
    | succ fuel =>
      rw [readItems, Json.nextItem?_comma (hstart a List.mem_cons_self)]
      simp only [hread a List.mem_cons_self _ (Json.stopsNumber_items _ s)]
      rw [ih (fun b hb => hstart b (List.mem_cons_of_mem _ hb))
        (fun b hb => hread b (List.mem_cons_of_mem _ hb)) (by omega)]
      rfl

/-- A list is read behind its opening bracket. -/
theorem Json.readList_joined {lift : Json.TextError → ε} {read : Bytes → Except ε (β × Bytes)}
    {text : α → Bytes} {value : α → β} {items : List α}
    (hstart : ∀ a ∈ items, Json.StartsValue (text a))
    (hread : ∀ a ∈ items, ∀ s, Json.StopsNumber s → read (text a ++ s) = .ok (value a, s))
    (s : Bytes) :
    Json.readList lift read (Json.joined (items.map text) ++ ']'.toUInt8 :: s)
      = .ok (items.map value, s) := by
  cases items with
  | nil => rfl
  | cons a rest =>
    rw [List.map_cons, joined, List.append_assoc]
    have hlength : (text a ++ ((rest.map text).flatMap (','.toUInt8 :: ·) ++ ']'.toUInt8 :: s)).length
        = ((rest.map text).flatMap (','.toUInt8 :: ·) ++ ']'.toUInt8 :: s).length
          + ((text a).length - 1) + 1 := by
      obtain ⟨b, t, htext, -⟩ := hstart a List.mem_cons_self
      rw [List.length_append, htext, List.length_cons]
      omega
    rw [readList, hlength, readItems, Json.nextItem?_first (hstart a List.mem_cons_self)]
    simp only [hread a List.mem_cons_self _ (Json.stopsNumber_items _ s)]
    rw [Json.readItems_of_forall (fun b hb => hstart b (List.mem_cons_of_mem _ hb))
      (fun b hb => hread b (List.mem_cons_of_mem _ hb)) (Nat.le_add_right _ _)]
    rfl

/-! ## Objects -/

/-- Members, each of them behind the opening quote of its key, take the reader of a member from one
    state to another. -/
inductive Json.ReadsTo (member : σ → Bytes → Except ε (σ × Bytes)) : σ → List Bytes → σ → Prop
  | nil {state : σ} : ReadsTo member state [] state
  | cons {state last : σ} {text : Bytes} {rest : List Bytes} (next : σ)
      (hread : ∀ s, Json.StopsNumber s → member state (text ++ s) = .ok (next, s))
      (hrest : ReadsTo member next rest last) : ReadsTo member state (text :: rest) last

/-- A reader that reads each member back whatever it has read before. -/
theorem Json.readsTo_of_forall {member : σ → Bytes → Except ε (σ × Bytes)} {text : α → Bytes}
    {update : σ → α → σ} {members : List α}
    (hread : ∀ a ∈ members, ∀ state s, Json.StopsNumber s →
      member state (text a ++ s) = .ok (update state a, s))
    (state : σ) : Json.ReadsTo member state (members.map text) (members.foldl update state) := by
  induction members generalizing state with
  | nil => exact .nil
  | cons a rest ih =>
    exact .cons _ (hread a List.mem_cons_self state)
      (ih (fun b hb => hread b (List.mem_cons_of_mem _ hb)) _)

/-- The members of an object behind its first one, each with the comma in front of it. -/
theorem Json.ReadsTo.readMembers {lift : Json.TextError → ε}
    {member : σ → Bytes → Except ε (σ × Bytes)} {state last : σ} {texts : List Bytes}
    (h : Json.ReadsTo member state texts last) {fuel : Nat} {s : Bytes}
    (hfuel : ((texts.map ('"'.toUInt8 :: ·)).flatMap (','.toUInt8 :: ·)
      ++ '}'.toUInt8 :: s).length ≤ fuel) :
    Json.readMembers lift member fuel false state
        ((texts.map ('"'.toUInt8 :: ·)).flatMap (','.toUInt8 :: ·) ++ '}'.toUInt8 :: s)
      = .ok (last, s) := by
  induction h generalizing fuel with
  | nil =>
    cases fuel with
    | zero => exact absurd hfuel (Nat.not_succ_le_zero _)
    | succ fuel => rfl
  | cons next hread hrest ih =>
    rw [List.map_cons, List.flatMap_cons, List.append_assoc, List.cons_append,
      List.cons_append] at hfuel ⊢
    rw [List.length_cons, List.length_cons, List.length_append] at hfuel
    cases fuel with
    | zero => exact absurd hfuel (Nat.not_succ_le_zero _)
    | succ fuel =>
      have hnext : ∀ t, Json.nextKey? false (','.toUInt8 :: '"'.toUInt8 :: t) = .ok (some t) :=
        fun _ => rfl
      rw [Json.readMembers, hnext]
      simp only [hread _ (Json.stopsNumber_members _ s)]
      exact ih (by omega)

/-- The first member is read, and then the others, which may be told apart by what it was. -/
theorem Json.readObject_cons {lift : Json.TextError → ε} {member : σ → Bytes → Except ε (σ × Bytes)}
    {start next last : σ} {text : Bytes} {rest : List Bytes} {s : Bytes}
    (hread : member start (text ++ ((rest.map ('"'.toUInt8 :: ·)).flatMap (','.toUInt8 :: ·)
        ++ '}'.toUInt8 :: s))
      = .ok (next, (rest.map ('"'.toUInt8 :: ·)).flatMap (','.toUInt8 :: ·) ++ '}'.toUInt8 :: s))
    (hrest : Json.ReadsTo member next rest last) :
    Json.readObject lift member start
        (Json.joined ((text :: rest).map ('"'.toUInt8 :: ·)) ++ '}'.toUInt8 :: s) = .ok (last, s) := by
  have hfirst : ∀ t, Json.nextKey? true ('"'.toUInt8 :: t) = .ok (some t) := fun _ => rfl
  rw [List.map_cons, joined, List.append_assoc, List.cons_append, Json.readObject,
    List.length_cons, Json.readMembers, hfirst]
  simp only [hread]
  exact hrest.readMembers (by rw [@List.length_append _ text]; exact Nat.le_add_left _ _)

/-- An object is read behind its opening brace. -/
theorem Json.ReadsTo.readObject {lift : Json.TextError → ε}
    {member : σ → Bytes → Except ε (σ × Bytes)} {start last : σ} {texts : List Bytes}
    (h : Json.ReadsTo member start texts last) (s : Bytes) :
    Json.readObject lift member start
        (Json.joined (texts.map ('"'.toUInt8 :: ·)) ++ '}'.toUInt8 :: s) = .ok (last, s) := by
  cases h with
  | nil => rfl
  | cons next hread hrest =>
    exact Json.readObject_cons (hread _ (Json.stopsNumber_members _ s)) hrest

@[inherit_doc Json.ReadsTo.readObject]
theorem Json.readObject_joined {lift : Json.TextError → ε}
    {member : σ → Bytes → Except ε (σ × Bytes)} {text : α → Bytes} {update : σ → α → σ}
    {members : List α}
    (hread : ∀ a ∈ members, ∀ state s, Json.StopsNumber s →
      member state (text a ++ s) = .ok (update state a, s))
    (start : σ) (s : Bytes) :
    Json.readObject lift member start
        (Json.joined (members.map fun a => '"'.toUInt8 :: text a) ++ '}'.toUInt8 :: s)
      = .ok (members.foldl update start, s) := by
  have := @Json.ReadsTo.readObject _ _ lift _ _ _ _ (Json.readsTo_of_forall hread start) s
  rwa [List.map_map] at this

end JobMonitor
