/-! # Counts

Positions, limits and the numbers of a clause are counts: whole numbers that fit 64 bits. -/
set_option autoImplicit false
namespace BoundaryLog

/-- Every count is below this bound. -/
def countBound : Nat := 0x10000000000000000

/-- A whole number of 64 bits. -/
structure Count where
  value : Nat
  bounded : value < countBound
  deriving DecidableEq

namespace Count

/-- The count of the given value, if there is one. -/
def ofNat? (n : Nat) : Option Count :=
  if h : n < countBound then some ⟨n, h⟩ else none

def zero : Count := ⟨0, by decide⟩

def one : Count := ⟨1, by decide⟩

def text (n : Count) : String := toString n.value

theorem ofNat?_value (n : Count) : ofNat? n.value = some n := by
  simp [ofNat?, n.bounded]

end Count
end BoundaryLog
