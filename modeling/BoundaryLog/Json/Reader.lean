import BoundaryLog.Json.Basic
import BoundaryLog.Text.Numeral

/-! # Reading JSON

A reader for whole documents.  Every step takes at least one character, so the length of the text
bounds the number of steps; the bound is handed down as the first argument of the functions below
and never runs out when it starts at the length. -/
set_option autoImplicit false
namespace BoundaryLog.Json

def isSpace (c : Char) : Bool := c = ' ' || c = '\t' || c = '\n' || c = '\r'

def skipSpace (cs : List Char) : List Char := cs.dropWhile isSpace

/-! ## Numbers -/

/-- Digits taken into a 64-bit coefficient while they fit, and how many were left out. -/
def takeDigits (coefficient : Nat) : List Char → Nat × Nat
  | [] => (coefficient, 0)
  | c :: cs =>
      let next := 10 * coefficient + Text.digitValue c
      if next < countBound then takeDigits next cs else (coefficient, cs.length + 1)

/-- A coefficient scaled once by a rounded power of ten. -/
def scaled (coefficient : Nat) (e : Int) : Float :=
  let m := Float.ofNat coefficient
  let power (n : Int) := Float.ofScientific 1 false n.toNat
  if 0 ≤ e then (if coefficient = 0 then m else m * power (min e 400))
  else if -308 ≤ e then m / power (-e)
  else if -616 ≤ e then m / power 308 / power (-e - 308)
  else 0

/-- A number given by its sign, its whole digits, its digits after the point, and its exponent
(`none` for those not written).  Whole numbers of 64 bits are kept as such. -/
def numberOf? (negative : Bool) (whole : List Char) (fraction : Option (List Char))
    (exponent : Option Int) : Option Number :=
  let n := Nat.ofDigitChars 10 whole 0
  let isInteger := fraction.isNone && exponent.isNone
  if isInteger && !negative && n < countBound then some (.integer n)
  else if isInteger && negative && 0 < n && n ≤ 0x8000000000000000 then some (.integer (-n))
  else
    let (m, dropped) := takeDigits 0 whole
    let digits := fraction.getD []
    let (m, unread) := takeDigits m digits
    let x := scaled m (exponent.getD 0 + dropped - (digits.length - unread))
    (Decimal.Binary64.ofBits? (if negative then -x else x).toBits).map .real

/-- At least one digit, and the rest. -/
def digits? (cs : List Char) : Option (List Char × List Char) :=
  let ds := cs.takeWhile Char.isDigit
  if ds.isEmpty then none else some (ds, cs.dropWhile Char.isDigit)

/-- The digits before the point: a zero, or digits that do not start with one. -/
def whole? : List Char → Option (List Char × List Char)
  | '0' :: rest => some (['0'], rest)
  | cs => digits? cs

def fraction? : List Char → Option (Option (List Char) × List Char)
  | '.' :: cs => (digits? cs).map fun (ds, rest) => (some ds, rest)
  | cs => some (none, cs)

def exponent? : List Char → Option (Option Int × List Char)
  | c :: cs =>
      if c = 'e' || c = 'E' then
        let (negative, cs) := match cs with
          | '-' :: cs => (true, cs)
          | '+' :: cs => (false, cs)
          | cs => (false, cs)
        (digits? cs).map fun (ds, rest) =>
          let n : Int := Nat.ofDigitChars 10 ds 0
          (some (if negative then -n else n), rest)
      else some (none, c :: cs)
  | [] => some (none, [])

def readNumber (cs : List Char) : Option (Json × List Char) := do
  let (negative, cs) := match cs with
    | '-' :: cs => (true, cs)
    | cs => (false, cs)
  let (whole, cs) ← whole? cs
  let (fraction, cs) ← fraction? cs
  let (exponent, cs) ← exponent? cs
  let n ← numberOf? negative whole fraction exponent
  return (.number n, cs)

/-! ## Texts -/

def hexDigit? (c : Char) : Option Nat :=
  if c.isDigit then some (c.toNat - 48)
  else if 'a' ≤ c && c ≤ 'f' then some (c.toNat - 87)
  else if 'A' ≤ c && c ≤ 'F' then some (c.toNat - 55)
  else none

def hex4? : List Char → Option (Nat × List Char)
  | a :: b :: c :: d :: rest => do
      let n := 16 * (16 * (16 * (← hexDigit? a) + (← hexDigit? b)) + (← hexDigit? c))
      return (n + (← hexDigit? d), rest)
  | _ => none

/-- The character of a `\u` escape; two halves of a pair make one. -/
def unit? (cs : List Char) : Option (Char × List Char) := do
  let (n, rest) ← hex4? cs
  if 0xD800 ≤ n && n < 0xDC00 then
    match rest with
    | '\\' :: 'u' :: more =>
        let (low, rest) ← hex4? more
        if 0xDC00 ≤ low && low < 0xE000 then
          return (Char.ofNat (0x10000 + (n - 0xD800) * 0x400 + (low - 0xDC00)), rest)
        else none
    | _ => none
  else if 0xDC00 ≤ n && n < 0xE000 then none
  else return (Char.ofNat n, rest)

/-- The characters up to the closing mark. -/
def readChars : Nat → List Char → Option (List Char × List Char)
  | 0, _ => none
  | _ + 1, [] => none
  | _ + 1, '"' :: rest => some ([], rest)
  | fuel + 1, '\\' :: e :: rest => do
      let (c, rest) ← match e with
        | '"' | '\\' | '/' => some (e, rest)
        | 'b' => some ('\x08', rest)
        | 'f' => some ('\x0c', rest)
        | 'n' => some ('\n', rest)
        | 'r' => some ('\r', rest)
        | 't' => some ('\t', rest)
        | 'u' => unit? rest
        | _ => none
      let (cs, rest) ← readChars fuel rest
      return (c :: cs, rest)
  | fuel + 1, c :: rest =>
      if c.toNat < 0x20 || c = '\\' then none
      else (readChars fuel rest).map fun (cs, rest) => (c :: cs, rest)

def readText (cs : List Char) : Option (String × List Char) :=
  (readChars (cs.length + 1) cs).map fun (cs, rest) => (String.ofList cs, rest)

/-! ## Documents -/

/-- A fixed word and the rest. -/
def readWord (word : List Char) (value : Json) (cs : List Char) : Option (Json × List Char) :=
  if cs.take word.length = word then some (value, cs.drop word.length) else none

mutual

def readValue : Nat → List Char → Option (Json × List Char)
  | 0, _ => none
  | fuel + 1, cs =>
      match skipSpace cs with
      | [] => none
      | '"' :: rest => (readText rest).map fun (s, rest) => (.string s, rest)
      | '[' :: rest =>
          match skipSpace rest with
          | ']' :: rest => some (.array [], rest)
          | rest => (readItems fuel rest).map fun (items, rest) => (.array items, rest)
      | '\x7b' :: rest =>
          match skipSpace rest with
          | '\x7d' :: rest => some (.object [], rest)
          | rest => (readMembers fuel rest).map fun (ms, rest) => (ofMembers ms, rest)
      | 't' :: rest => readWord ['r', 'u', 'e'] (.bool true) rest
      | 'f' :: rest => readWord ['a', 'l', 's', 'e'] (.bool false) rest
      | 'n' :: rest => readWord ['u', 'l', 'l'] .null rest
      | cs => readNumber cs

/-- The values of a list up to its closing bracket. -/
def readItems : Nat → List Char → Option (List Json × List Char)
  | 0, _ => none
  | fuel + 1, cs => do
      let (x, rest) ← readValue fuel cs
      match skipSpace rest with
      | ',' :: rest => (readItems fuel rest).map fun (xs, rest) => (x :: xs, rest)
      | ']' :: rest => some ([x], rest)
      | _ => none

/-- The members of an object up to its closing brace. -/
def readMembers : Nat → List Char → Option (List (String × Json) × List Char)
  | 0, _ => none
  | fuel + 1, cs => do
      let .cons '"' rest := skipSpace cs | none
      let (name, rest) ← readText rest
      let .cons ':' rest := skipSpace rest | none
      let (x, rest) ← readValue fuel rest
      match skipSpace rest with
      | ',' :: rest => (readMembers fuel rest).map fun (ms, rest) => ((name, x) :: ms, rest)
      | '\x7d' :: rest => some ([(name, x)], rest)
      | _ => none

end

/-- The value that a whole text denotes. -/
def ofText? (s : String) : Option Json := do
  let cs := s.toList
  let (v, rest) ← readValue (2 * cs.length + 1) cs
  if (skipSpace rest).isEmpty then some v else none

end BoundaryLog.Json
