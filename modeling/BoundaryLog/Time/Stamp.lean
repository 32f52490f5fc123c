import BoundaryLog.Time.Instant
import BoundaryLog.Text.Blank
import BoundaryLog.Text.Numeral

/-! # Time stamps

An instant is written `YYYY-MM-DD HH:MM:SS`, in UTC and to the second.  Years beyond 0 to 9999 have
a sign and at least four digits.  Reading is more lenient than writing: blanks before a number and
one-digit fields are accepted, and the first thing wrong, from left to right, is reported. -/
set_option autoImplicit false
namespace BoundaryLog.Stamp

/-! ## Writing -/

/-- The digits of a number, zeros put before them up to the given width. -/
def padded (width n : Nat) : List Char :=
  let ds := Nat.toDigits 10 n
  List.replicate (width - ds.length) '0' ++ ds

def yearText (year : Int) : List Char :=
  if 0 ≤ year ∧ year ≤ 9999 then padded 4 year.toNat
  else (if year < 0 then '-' else '+') :: padded 4 year.natAbs

def write (t : Instant) : String :=
  let d := t.date
  String.ofList (yearText d.year ++ ['-'] ++ padded 2 d.month ++ ['-'] ++ padded 2 d.day ++ [' '] ++
    padded 2 t.hour ++ [':'] ++ padded 2 t.minute ++ [':'] ++ padded 2 t.second)

/-! ## Reading -/

/-- Why a text is not a stamp. -/
inductive Fault where
  | tooShort
  | invalid
  | outOfRange
  | tooLong
  deriving DecidableEq

def Fault.message : Fault → String
  | .tooShort => "premature end of input"
  | .invalid => "input contains invalid characters"
  | .outOfRange => "input is out of range"
  | .tooLong => "trailing input"

/-- The fault of a text that does not go on as it must. -/
def faultAt : List Char → Fault
  | [] => .tooShort
  | _ :: _ => .invalid

/-- A number whose digits have been found at the front of the text, at least one of them. -/
def number (digits rest : List Char) : Except Fault (Nat × List Char) :=
  if digits.isEmpty then .error (faultAt rest)
  else
    let n := Nat.ofDigitChars 10 digits 0
    if n < 0x8000000000000000 then .ok (n, rest) else .error .outOfRange

def longNumber (cs : List Char) : Except Fault (Nat × List Char) :=
  number (cs.takeWhile Char.isDigit) (cs.dropWhile Char.isDigit)

/-- A number of at most the given number of digits. -/
def shortNumber (width : Nat) (cs : List Char) : Except Fault (Nat × List Char) :=
  let digits := (cs.take width).takeWhile Char.isDigit
  number digits (cs.drop digits.length)

/-- A year after any blanks: with a sign of any length, without one of up to four digits. -/
def year (cs : List Char) : Except Fault (Int × List Char) := do
  let (y, rest) ← match Text.trimStart cs with
    | '-' :: cs => do
        let (n, rest) ← longNumber cs
        pure (-(n : Int), rest)
    | '+' :: cs => do
        let (n, rest) ← longNumber cs
        pure ((n : Int), rest)
    | cs => do
        let (n, rest) ← shortNumber 4 cs
        pure ((n : Int), rest)
  if -0x80000000 ≤ y ∧ y < 0x80000000 then .ok (y, rest) else .error .outOfRange

/-- A field of one or two digits after any blanks, within its range. -/
def field (low high : Nat) (cs : List Char) : Except Fault (Nat × List Char) := do
  let (n, rest) ← shortNumber 2 (Text.trimStart cs)
  if low ≤ n ∧ n ≤ high then .ok (n, rest) else .error .outOfRange

def separator (c : Char) : List Char → Except Fault (List Char)
  | [] => .error .tooShort
  | d :: rest => if d = c then .ok rest else .error .invalid

/-- The instant that a stamp denotes.  The blank between date and time of day is taken with the
blanks before the hour. -/
def read (cs : List Char) : Except Fault Instant := do
  let (y, cs) ← year cs
  let cs ← separator '-' cs
  let (month, cs) ← field 1 12 cs
  let cs ← separator '-' cs
  let (day, cs) ← field 1 31 cs
  let (hour, cs) ← field 0 23 cs
  let cs ← separator ':' cs
  let (minute, cs) ← field 0 59 cs
  let cs ← separator ':' cs
  let (second, cs) ← field 0 60 cs
  if cs.isEmpty then
    match Instant.ofDate? ⟨y, month, day⟩ hour minute second with
    | some t => .ok t
    | none => .error .outOfRange
  else .error .tooLong

end BoundaryLog.Stamp
