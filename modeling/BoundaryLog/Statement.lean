import BoundaryLog.Clause.Reading
import BoundaryLog.Program
import BoundaryLog.Row
import BoundaryLog.Text.Blank
import BoundaryLog.Text.Cut

/-! # Statements

A statement is a program as the database understands its text.  The text is taken apart from its
ends: source, projection, number of events, order; what is left is the clause of a filter. -/
set_option autoImplicit false
namespace BoundaryLog

structure Statement where
  filter : Option Formula
  descending : Bool
  top : Option Count
  projection : Projection
  deriving DecidableEq

namespace Statement

/-- Why a text is not a statement. -/
inductive Fault where
  | unsupportedSource (text : String)
  | missingProjection
  | unsupportedProjection (text : String)
  | badTop (fault : Text.NumeralFault)
  | badToken (fault : Token.Fault)
  | badExpression (fault : Clause.Fault)
  | trailingTokens (clause : String)
  | unsupportedClause (text : String)
  deriving DecidableEq

def Fault.message : Fault → String
  | .unsupportedSource text => "unsupported source in " ++ Text.quoted text
  | .missingProjection => "missing projection"
  | .unsupportedProjection text => "unsupported projection " ++ Text.quoted text
  | .badTop fault => fault.message
  | .badToken fault => fault.message
  | .badExpression fault => fault.message
  | .trailingTokens clause => "trailing tokens in " ++ Text.quoted clause
  | .unsupportedClause text => "unsupported clause " ++ Text.quoted text

/-! ## Reading -/

def readProjection (cs : List Char) : Except Fault Projection :=
  if cs = Projection.isEmpty.text.toList then .ok .isEmpty
  else if cs = Projection.envelope.text.toList then .ok .envelope
  else .error (.unsupportedProjection (String.ofList cs))

/-- Take the number of events off the end.  A number that is none is left where it is, unless
nothing else could stand there. -/
def readTop (head : List Char) : Except Fault (List Char × Option Count) :=
  match Text.cutLast? " TOP ".toList head with
  | some (before, digits) =>
      match Text.readCount digits with
      | .ok n => .ok (Text.trim before, some n)
      | .error _ => .ok (head, none)
  | none =>
      match Text.after? "TOP ".toList head with
      | some digits => do
          let n ← (Text.readCount digits).mapError .badTop
          return ([], some n)
      | none => .ok (head, none)

/-- Take the order off the end. -/
def readOrder (head : List Char) : List Char × Bool :=
  match Text.before? "ORDER BY e.id AS INT DESC".toList head with
  | some before => (Text.trim before, true)
  | none => (head, false)

/-- The expression that a whole clause denotes. -/
def readClause (clause : List Char) : Except Fault Formula := do
  let tokens ← (Token.listOf clause).mapError .badToken
  let parsed ← (Clause.parse tokens).mapError .badExpression
  if parsed.rest.isEmpty then return parsed.value
  else throw (.trailingTokens (String.ofList clause))

/-- What is left is a filter or nothing. -/
def readFilter (head : List Char) : Except Fault (Option Formula) :=
  match Text.after? "WHERE ".toList head with
  | some clause => do
      let e ← readClause clause
      return some e
  | none => if head.isEmpty then .ok none else .error (.unsupportedClause (String.ofList head))

def ofText (text : String) : Except Fault Statement :=
  match Text.after? "FROM e IN events".toList text.toList with
  | none => .error (.unsupportedSource text)
  | some body =>
      match Text.cutLast? " PROJECT INTO ".toList body with
      | none => .error .missingProjection
      | some (head, projection) => do
          let projection ← readProjection projection
          let (head, top) ← readTop (Text.trim head)
          let (head, descending) := readOrder head
          let filter ← readFilter head
          return ⟨filter, descending, top, projection⟩

/-! ## Running -/

/-- Whether a record at a position passes the filter. -/
def selects (s : Statement) (r : Record) (place : Nat) : Bool :=
  match s.filter with
  | none => true
  | some e => e.eval r.type r.data.tags place

/-- The records that a statement finds, with their positions. -/
def matching (s : Statement) (records : List Record) : List (Record × Nat) :=
  let found := (records.zipIdx 1).filter fun (r, place) => s.selects r place
  let ordered := if s.descending then found.reverse else found
  match s.top with
  | none => ordered
  | some n => ordered.take n.value

def run (s : Statement) (records : List Record) : List Json :=
  match s.projection with
  | .isEmpty => [.bool (s.matching records).isEmpty]
  | .envelope => (s.matching records).map fun (r, place) => r.envelope place

end Statement
end BoundaryLog
