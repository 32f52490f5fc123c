import BoundaryLog.Position
import BoundaryLog.Text.Quoted

/-! # Failures

What can go wrong, as causes; the wording is in one function for each kind. -/
set_option autoImplicit false
namespace BoundaryLog

inductive TransportFailure where
  | connectionFailed (reason : String)
  | rejected (status : Nat) (reason : String)
  | malformedResponse (reason : String)
  | io (reason : String)
  deriving DecidableEq

def TransportFailure.message : TransportFailure → String
  | .connectionFailed reason => "connection failed: " ++ reason
  | .rejected status reason => "request rejected with status " ++ toString status ++ ": " ++ reason
  | .malformedResponse reason => "malformed response: " ++ reason
  | .io reason => "I/O error: " ++ reason

/-- How the events within the boundary of an append differ from what was expected. -/
inductive Conflict where
  | matchingEventsExist
  | matchingEventsExistAfter (expected : Position)
  deriving DecidableEq

def Conflict.message : Conflict → String
  | .matchingEventsExist => "events matching the boundary query already exist"
  | .matchingEventsExistAfter expected =>
      "events matching the boundary query exist after expected position " ++ expected.text

/-- A failure of an operation.  The first three are found before anything is sent. -/
inductive Failure where
  | unsupportedQuery (reason : String)
  | invalidLiteral (literal reason : String)
  | invalidArgument (reason : String)
  | decode (reason : String)
  | conflict (reason : Conflict)
  | unexpectedConflict
  | transport (cause : TransportFailure)
  deriving DecidableEq

namespace Failure

def message : Failure → String
  | .unsupportedQuery reason => "unsupported query: " ++ reason
  | .invalidLiteral literal reason =>
      "invalid literal " ++ Text.quoted literal ++ ": " ++ reason
  | .invalidArgument reason => "invalid argument: " ++ reason
  | .decode reason => "failed to decode store record: " ++ reason
  | .conflict reason => "conditional append failed: " ++ reason.message
  | .unexpectedConflict => "store reported a conflict for an unconditional append"
  | .transport cause => "transport error: " ++ cause.message

/-- Whether the events within the boundary were not as expected. -/
def isConflict : Failure → Bool
  | .conflict _ => true
  | _ => false

end Failure
end BoundaryLog
