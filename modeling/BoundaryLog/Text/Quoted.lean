import BoundaryLog.Text.Visible

/-! # Quoted text

Messages show a text or a character between marks, on one line and unambiguously: the mark and
the backslash follow a backslash, the usual blanks have letters, and whatever has no visible form
of its own is shown by its code point. -/
set_option autoImplicit false
namespace BoundaryLog.Text

/-- One character as it stands between two marks. -/
def escape (mark c : Char) : List Char :=
  if c = '\x00' then ['\\', '0']
  else if c = '\t' then ['\\', 't']
  else if c = '\n' then ['\\', 'n']
  else if c = '\r' then ['\\', 'r']
  else if c = '\\' ∨ c = mark then ['\\', c]
  else if isHidden c then ['\\', 'u', '\x7b'] ++ Nat.toDigits 16 c.toNat ++ ['\x7d']
  else [c]

/-- A text between double quotes. -/
def quoted (s : String) : String :=
  String.ofList (['"'] ++ s.toList.flatMap (escape '"') ++ ['"'])

/-- A character between single quotes. -/
def quotedChar (c : Char) : String :=
  String.ofList (['\''] ++ escape '\'' c ++ ['\''])

end BoundaryLog.Text
