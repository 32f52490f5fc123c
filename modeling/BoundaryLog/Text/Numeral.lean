import BoundaryLog.Count

/-! # Reading counts

A count is written in ASCII digits, possibly after a plus sign.  Reading goes from left to right,
so the first thing wrong decides what is reported. -/
set_option autoImplicit false
namespace BoundaryLog.Text

/-- Why a text is not a count. -/
inductive NumeralFault where
  | empty
  | badDigit
  | tooLarge
  deriving DecidableEq

def NumeralFault.message : NumeralFault → String
  | .empty => "cannot parse integer from empty string"
  | .badDigit => "invalid digit found in string"
  | .tooLarge => "number too large to fit in target type"

def digitValue (c : Char) : Nat := c.toNat - '0'.toNat

/-- Read digits onto the count read so far. -/
def readDigits (n : Count) : List Char → Except NumeralFault Count
  | [] => .ok n
  | c :: cs =>
      if c.isDigit then
        if h : 10 * n.value + digitValue c < countBound then
          readDigits ⟨10 * n.value + digitValue c, h⟩ cs
        else .error .tooLarge
      else .error .badDigit

def readCount : List Char → Except NumeralFault Count
  | [] => .error .empty
  | '+' :: [] => .error .badDigit
  | '+' :: cs => readDigits .zero cs
  | cs => readDigits .zero cs

end BoundaryLog.Text
