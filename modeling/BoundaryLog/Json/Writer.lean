import BoundaryLog.Json.Basic
import BoundaryLog.Decimal.Text

/-! # Writing JSON

The compact form: no blanks, members in their order, line breaks of all kinds escaped. -/
set_option autoImplicit false
namespace BoundaryLog

def Number.text : Number → String
  | .integer n => toString n
  | .real x => x.text

namespace Json

/-- One character inside a JSON text. -/
def escapeChar (c : Char) : List Char :=
  if c = '"' then ['\\', '"']
  else if c = '\\' then ['\\', '\\']
  else if c = '\x08' then ['\\', 'b']
  else if c = '\x0c' then ['\\', 'f']
  else if c = '\n' then ['\\', 'n']
  else if c = '\r' then ['\\', 'r']
  else if c = '\t' then ['\\', 't']
  else if c.toNat < 0x20 ∨ c.toNat = 0x85 ∨ c.toNat = 0x2028 ∨ c.toNat = 0x2029 then
    let hex := Nat.toDigits 16 c.toNat
    ['\\', 'u'] ++ List.replicate (4 - hex.length) '0' ++ hex
  else [c]

def stringText (s : String) : String :=
  String.ofList (['"'] ++ s.toList.flatMap escapeChar ++ ['"'])

mutual

def text : Json → String
  | .null => "null"
  | .bool true => "true"
  | .bool false => "false"
  | .number n => n.text
  | .string s => stringText s
  | .array items => "[" ++ itemsText items ++ "]"
  | .object members => "\x7b" ++ membersText members ++ "\x7d"

def itemsText : List Json → String
  | [] => ""
  | [x] => text x
  | x :: y :: rest => text x ++ "," ++ itemsText (y :: rest)

def membersText : List (String × Json) → String
  | [] => ""
  | [(k, x)] => stringText k ++ ":" ++ text x
  | (k, x) :: y :: rest => stringText k ++ ":" ++ text x ++ "," ++ membersText (y :: rest)

end

end Json
end BoundaryLog
