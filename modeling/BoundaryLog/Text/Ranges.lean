/-! # Sets of code points given by their borders

A set of code points is written as the ascending list of its borders: the first member, the
first code point after its run, the next member, and so on.  `within_nil` and
`within_cons_cons` are all that a user of a table needs. -/
set_option autoImplicit false
namespace BoundaryLog.Text

/-- Whether a code point lies in one of the runs that the borders describe. -/
def within : List Nat → Nat → Bool
  | start :: stop :: rest, n => decide (start ≤ n) && (decide (n < stop) || within rest n)
  | _, _ => false

theorem within_nil (n : Nat) : within [] n = false := rfl

theorem within_cons_cons (start stop : Nat) (rest : List Nat) (n : Nat) :
    within (start :: stop :: rest) n =
      (decide (start ≤ n) && (decide (n < stop) || within rest n)) := rfl

end BoundaryLog.Text
