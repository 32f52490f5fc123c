import BoundaryLog.Proofs.Rows

/-! # What the readers of fields accept

For each way to read a field, the values that it accepts and what it makes of them; the same for the
member of an object and the element of an array. -/
set_option autoImplicit false
namespace BoundaryLog.Json

/-! ## Values -/

theorem asText_eq_ok_iff (v : Json) (s : String) : asText v = .ok s ↔ v = .string s := by
  cases v <;> simp [asText]

theorem textItems_eq_ok_iff (items : List Json) (texts : List String) :
    textItems items = .ok texts ↔ items = texts.map .string := by
  constructor
  · intro h
    induction items generalizing texts with
    | nil =>
        cases h
        rfl
    | cons v items ih =>
        rw [textItems] at h
        obtain ⟨s, hFirst, h⟩ := bind_eq_ok_iff.1 h
        obtain ⟨rest, hRest, h⟩ := bind_eq_ok_iff.1 h
        cases h
        rw [(asText_eq_ok_iff v s).1 hFirst, ih rest hRest]
        rfl
  · intro h
    rw [h]
    exact textItems_map texts

theorem asTexts_eq_ok_iff (v : Json) (texts : List String) :
    asTexts v = .ok texts ↔ v = .ofStrings texts := by
  cases v with
  | array items => simp [asTexts, ofStrings, textItems_eq_ok_iff]
  | null | bool _ | number _ | string _ | object _ => simp [asTexts, ofStrings]

theorem nullable_anything (v : Json) : nullable anything v = .ok ((some v).filter (· ≠ .null)) :=
  Row.nullable_metadata (some v)

theorem read_some_eq_ok_iff {α : Type} (value : Except ShapeFault α) (x : Option α) :
    (do let y ← value; return some y) = .ok x ↔ ∃ y, value = .ok y ∧ x = some y := by
  cases value <;> simp [bind, Except.bind, pure, Except.pure, eq_comm]

theorem nullable_eq_ok_iff {α : Type} (read : Field α) (v : Json) (x : Option α) :
    nullable read v = .ok x ↔
      (v = .null ∧ x = none) ∨ (v ≠ .null ∧ ∃ y, read v = .ok y ∧ x = some y) := by
  cases v with
  | null => simp [nullable, eq_comm]
  | bool _ | number _ | string _ | array _ | object _ =>
      simpa [nullable] using read_some_eq_ok_iff _ x

/-! ## Members and elements -/

section
variable {α : Type} (read : Field α)

theorem member_eq_ok_iff (members : List (String × Json)) (name : String) (x : Option α) :
    member members name read = .ok x ↔
      (lookup members name = none ∧ x = none) ∨
        ∃ v y, lookup members name = some v ∧ read v = .ok y ∧ x = some y := by
  unfold member
  cases lookup members name with
  | none => simp [eq_comm]
  | some v => simpa using read_some_eq_ok_iff (read v) x

theorem required_eq_ok_iff (name : String) (x : Option α) (y : α) :
    required name x = .ok y ↔ x = some y := by
  cases x <;> simp [required]

theorem element_eq_ok_iff (items : List Json) (index : Nat) (fallback : Except ShapeFault α) (x : α) :
    element items index fallback read = .ok x ↔
      (items[index]? = none ∧ fallback = .ok x) ∨ ∃ v, items[index]? = some v ∧ read v = .ok x := by
  unfold element
  cases items[index]? <;> simp

end

section
variable {α : Type} (read : Field α) (members : List (String × Json)) (name : String)

/-- A member that must be there is found and read. -/
theorem required_member_iff (x : α) :
    (∃ found, member members name read = .ok found ∧ required name found = .ok x) ↔
      ∃ v, lookup members name = some v ∧ read v = .ok x := by
  simp only [member_eq_ok_iff, required_eq_ok_iff]
  constructor
  · rintro ⟨_, ⟨-, rfl⟩ | ⟨v, y, hFound, hRead, rfl⟩, hSome⟩
    · cases hSome
    · cases hSome
      exact ⟨v, hFound, hRead⟩
  · rintro ⟨v, hFound, hRead⟩
    exact ⟨some x, Or.inr ⟨v, x, hFound, hRead, rfl⟩, rfl⟩

theorem required_asText_iff (s : String) :
    (∃ found, member members name asText = .ok found ∧ required name found = .ok s) ↔
      lookup members name = some (.string s) := by
  simp only [required_member_iff, asText_eq_ok_iff, exists_eq_right]

theorem member_anything : member members name anything = .ok (lookup members name) := by
  unfold member
  cases lookup members name <;> rfl

theorem member_nullable_anything :
    member members name (nullable anything) =
      .ok ((lookup members name).map fun v => (some v).filter (· ≠ .null)) := by
  unfold member
  cases lookup members name with
  | none => rfl
  | some v =>
      simp only [nullable_anything]
      rfl

theorem getD_map_filter (found : Option Json) :
    (found.map fun v => (some v).filter (· ≠ .null)).getD none = found.filter (· ≠ .null) := by
  cases found <;> rfl

variable (items : List Json) (index : Nat)

/-- An element that must be there is found and read. -/
theorem required_element_iff (fault : ShapeFault) (x : α) :
    element items index (.error fault) read = .ok x ↔
      ∃ v, items[index]? = some v ∧ read v = .ok x := by
  simp [element_eq_ok_iff]

theorem element_asText_iff (fault : ShapeFault) (s : String) :
    element items index (.error fault) asText = .ok s ↔ items[index]? = some (.string s) := by
  simp only [required_element_iff, asText_eq_ok_iff, exists_eq_right]

theorem element_nullable_anything :
    element items index (.ok none) (nullable anything) =
      .ok (items[index]?.filter (· ≠ .null)) := by
  unfold element
  cases items[index]? with
  | none => rfl
  | some v => exact nullable_anything v

end

theorem noFurther_eq_ok_iff (items : List Json) (fields : Nat) :
    noFurther items fields = .ok () ↔ items.length ≤ fields := by
  unfold noFurther
  split <;> simp_all

end BoundaryLog.Json
