import BoundaryLog.Decimal.Shortest

/-! # Writing numbers with a fraction

The digits are the shortest ones.  A middling magnitude is written with its point in place, any
other with one digit before the point and an exponent.  What is written never looks like a whole
number: it has a point or an exponent. -/
set_option autoImplicit false
namespace BoundaryLog.Decimal

namespace Digits

/-- The exponent of the leading digit. -/
def leading (d : Digits) : Int := d.point - 1

/-- Whether the point is written in place: from `10 ^ -5` up to, but not at, `10 ^ 16`. -/
def isPositional (d : Digits) : Bool := -5 ≤ d.leading && d.leading < 16

/-- The point in place, with zeros up to it and at least one digit on either side. -/
def positional (d : Digits) : List Char :=
  if d.point ≤ 0 then ['0', '.'] ++ List.replicate (-d.point).toNat '0' ++ d.digits
  else
    let whole := d.point.toNat
    if d.digits.length ≤ whole then
      d.digits ++ List.replicate (whole - d.digits.length) '0' ++ ['.', '0']
    else d.digits.take whole ++ ['.'] ++ d.digits.drop whole

/-- One digit, the others after a point if there are any, and the exponent with its sign. -/
def scientific (d : Digits) : List Char :=
  d.digits.take 1 ++ (if d.digits.length ≤ 1 then [] else '.' :: d.digits.drop 1) ++
    ['e', if d.leading < 0 then '-' else '+'] ++ Nat.toDigits 10 d.leading.natAbs

/-- The digits in the form that their magnitude calls for. -/
def text (d : Digits) : List Char :=
  if d.isPositional then d.positional else d.scientific

end Digits

/-- The text of a number; the sign of `-0` is kept. -/
def Binary64.text (x : Binary64) : String :=
  String.ofList (if x.negative then '-' :: x.shortest.text else x.shortest.text)

end BoundaryLog.Decimal
