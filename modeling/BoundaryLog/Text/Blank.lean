/-! # Blanks

The characters of the White_Space property, and removing them from the ends of a text. -/
set_option autoImplicit false
namespace BoundaryLog.Text

/-- Whether a character has the White_Space property. -/
def isBlank (c : Char) : Bool :=
  let n := c.toNat
  (0x09 ≤ n && n ≤ 0x0D) || n == 0x20 || n == 0x85 || n == 0xA0 || n == 0x1680 ||
    (0x2000 ≤ n && n ≤ 0x200A) || n == 0x2028 || n == 0x2029 || n == 0x202F || n == 0x205F ||
    n == 0x3000

/-- Drop the blanks at the front. -/
def trimStart (cs : List Char) : List Char := cs.dropWhile isBlank

/-- Drop the blanks at the back. -/
def trimEnd (cs : List Char) : List Char := (trimStart cs.reverse).reverse

/-- Drop the blanks at both ends. -/
def trim (cs : List Char) : List Char := trimEnd (trimStart cs)

theorem trimStart_of_head (c : Char) (cs : List Char) (h : isBlank c = false) :
    trimStart (c :: cs) = c :: cs := by
  simp [trimStart, h]

end BoundaryLog.Text
