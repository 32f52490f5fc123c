import BoundaryLog.Text.Letter
import BoundaryLog.Text.Numeral
import BoundaryLog.Text.Quoted

/-! # Tokens of a clause

A clause is read as a list of tokens.  Blanks between them are plain spaces; a quoted text ends at
the next quote, whatever it holds; a word starts with a letter and goes on with letters, numbers,
points and low lines. -/
set_option autoImplicit false
namespace BoundaryLog

inductive Operator where
  | less
  | atMost
  | greater
  | atLeast
  | equal
  | doubleEqual
  deriving DecidableEq

namespace Operator

def symbol : Operator → String
  | .less => "<"
  | .atMost => "<="
  | .greater => ">"
  | .atLeast => ">="
  | .equal => "="
  | .doubleEqual => "=="

def holds : Operator → Nat → Nat → Bool
  | .less, a, b => decide (a < b)
  | .atMost, a, b => decide (a ≤ b)
  | .greater, a, b => decide (b < a)
  | .atLeast, a, b => decide (b ≤ a)
  | .equal, a, b | .doubleEqual, a, b => decide (a = b)

end Operator

inductive Token where
  | openParen
  | closeParen
  | openBracket
  | closeBracket
  | comma
  | plus
  | op (operator : Operator)
  | text (s : String)
  | number (n : Count)
  | word (w : String)
  deriving DecidableEq

namespace Token

/-- A token as messages name it. -/
def listing : Token → String
  | .openParen => "Open"
  | .closeParen => "Close"
  | .openBracket => "OpenBracket"
  | .closeBracket => "CloseBracket"
  | .comma => "Comma"
  | .plus => "Plus"
  | .op operator => "Op(" ++ Text.quoted operator.symbol ++ ")"
  | .text s => "Str(" ++ Text.quoted s ++ ")"
  | .number n => "Num(" ++ n.text ++ ")"
  | .word w => "Word(" ++ Text.quoted w ++ ")"

/-- Why a clause is not a list of tokens. -/
inductive Fault where
  | unterminatedText
  | badNumber (fault : Text.NumeralFault)
  | unexpectedCharacter (c : Char)
  deriving DecidableEq

def Fault.message : Fault → String
  | .unterminatedText => "unterminated string"
  | .badNumber fault => fault.message
  | .unexpectedCharacter c => "unexpected character " ++ Text.quotedChar c

/-- A token with the text after it, no longer than the bound. -/
structure Scanned (bound : Nat) where
  token : Token
  rest : List Char
  shorter : rest.length ≤ bound

theorem length_dropWhile_le {α : Type} (p : α → Bool) (xs : List α) :
    (xs.dropWhile p).length ≤ xs.length := (List.dropWhile_sublist p).length_le

/-- Whether a word goes on with a character. -/
def isWordChar (c : Char) : Bool := Text.isAlphanumeric c || c == '.' || c == '_'

/-- The comparison sign that starts with the given character, alone and before an equals sign. -/
def operators? : Char → Option (Operator × Operator)
  | '<' => some (.less, .atMost)
  | '>' => some (.greater, .atLeast)
  | '=' => some (.equal, .doubleEqual)
  | _ => none

def single? : Char → Option Token
  | '(' => some .openParen
  | ')' => some .closeParen
  | '[' => some .openBracket
  | ']' => some .closeBracket
  | ',' => some .comma
  | '+' => some .plus
  | _ => none

/-- A comparison sign whose first character has been read. -/
def scanOperator (operators : Operator × Operator) : (cs : List Char) → Scanned cs.length
  | [] => ⟨.op operators.1, [], Nat.le_refl _⟩
  | c :: cs =>
      if c = '=' then ⟨.op operators.2, cs, Nat.le_succ _⟩
      else ⟨.op operators.1, c :: cs, Nat.le_refl _⟩

/-- A quoted text whose opening quote has been read. -/
def scanText (cs : List Char) : Except Fault (Scanned cs.length) :=
  match h : cs.dropWhile (· != '"') with
  | [] => .error .unterminatedText
  | _ :: rest =>
      .ok ⟨.text (String.ofList (cs.takeWhile (· != '"'))), rest, by
        have := length_dropWhile_le (· != '"') cs
        rw [h] at this
        exact Nat.le_of_succ_le this⟩

/-- A number whose first digit has been read. -/
def scanNumber (c : Char) (cs : List Char) : Except Fault (Scanned cs.length) :=
  match Text.readDigits .zero (c :: cs.takeWhile Char.isDigit) with
  | .error fault => .error (.badNumber fault)
  | .ok n => .ok ⟨.number n, cs.dropWhile Char.isDigit, length_dropWhile_le _ cs⟩

/-- A word whose first letter has been read. -/
def scanWord (c : Char) (cs : List Char) : Scanned cs.length :=
  ⟨.word (String.ofList (c :: cs.takeWhile isWordChar)), cs.dropWhile isWordChar,
    length_dropWhile_le _ cs⟩

/-- The token that starts with a character, which is no space. -/
def scan (c : Char) (cs : List Char) : Except Fault (Scanned cs.length) :=
  match single? c with
  | some token => .ok ⟨token, cs, Nat.le_refl _⟩
  | none =>
      match operators? c with
      | some operators => .ok (scanOperator operators cs)
      | none =>
          if c = '"' then scanText cs
          else if c.isDigit then scanNumber c cs
          else if Text.isAlphabetic c then .ok (scanWord c cs)
          else .error (.unexpectedCharacter c)

def listOf : List Char → Except Fault (List Token)
  | [] => .ok []
  | c :: cs =>
      if c = ' ' then listOf cs
      else do
        let first ← scan c cs
        let others ← listOf first.rest
        return first.token :: others
termination_by cs => cs.length
decreasing_by
  · exact Nat.lt_succ_self _
  · exact Nat.lt_succ_of_le first.shorter

end Token
end BoundaryLog
