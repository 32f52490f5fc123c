import BoundaryLog.Count

/-! # Positions

The events of a log are numbered from 1 in the order in which they were written. -/
set_option autoImplicit false
namespace BoundaryLog

/-- A place in the log; the first event has position 1. -/
structure Position where
  value : Nat
  positive : 0 < value
  bounded : value < countBound

namespace Position

theorem eq_of_value : ∀ {p q : Position}, p.value = q.value → p = q
  | ⟨_, _, _⟩, ⟨_, _, _⟩, rfl => rfl

instance : DecidableEq Position := fun p q =>
  decidable_of_iff (p.value = q.value) ⟨eq_of_value, fun h => h ▸ rfl⟩

def first : Position := ⟨1, Nat.one_pos, Count.one.bounded⟩

/-- The position of the given value; there is none for 0. -/
def ofNat? (n : Nat) : Option Position :=
  if h : 0 < n ∧ n < countBound then some ⟨n, h.1, h.2⟩ else none

def count (p : Position) : Count := ⟨p.value, p.bounded⟩

def text (p : Position) : String := toString p.value

instance : Ord Position := ⟨fun p q => compare p.value q.value⟩

theorem ofNat?_value (p : Position) : ofNat? p.value = some p := by
  simp [ofNat?, p.positive, p.bounded]

theorem ofNat?_eq_some_iff (n : Nat) (p : Position) : ofNat? n = some p ↔ p.value = n := by
  constructor
  · intro h
    by_cases inRange : 0 < n ∧ n < countBound
    · rw [ofNat?, dif_pos inRange] at h
      cases h
      rfl
    · rw [ofNat?, dif_neg inRange] at h
      cases h
  · rintro rfl
    exact p.ofNat?_value

end Position
end BoundaryLog
