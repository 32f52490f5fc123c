import BoundaryLog.Json.Basic
import BoundaryLog.LabelSet
import BoundaryLog.Position
import BoundaryLog.Time.Instant

/-! # Events

An event has a type, a payload, tags by which it can be selected, and possibly metadata.  Payload
and metadata are opaque.  Once recorded it also has a position and a recording time. -/
set_option autoImplicit false
namespace BoundaryLog

/-- An event as its author knows it: its type carries no namespace. -/
structure Event where
  type : String
  data : Json
  tags : LabelSet
  metadata : Option Json
  deriving DecidableEq

namespace Event

def new (type : String) (data : Json) : Event := ⟨type, data, .empty, none⟩

/-- The event with the given tags instead of its own. -/
def setTags (tags : List String) (e : Event) : Event := { e with tags := .ofList tags }

def setMetadata (metadata : Json) (e : Event) : Event := { e with metadata := some metadata }

end Event

/-- An event as it is read from the log. -/
structure RecordedEvent where
  position : Position
  recordedAt : Instant
  event : Event
  deriving DecidableEq

end BoundaryLog
