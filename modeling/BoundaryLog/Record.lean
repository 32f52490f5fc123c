import BoundaryLog.Event
import BoundaryLog.Guard
import BoundaryLog.Json.Shape
import BoundaryLog.Time.Stamp

/-! # Records

A record is an event as the database keeps it: the type carries a namespace, and payload, tags,
recording time and metadata are nested.  Records and guards travel as JSON; metadata that is absent
is not written, and metadata that is null is read as absent. -/
set_option autoImplicit false
namespace BoundaryLog

structure RecordData where
  payload : Json
  tags : List String
  recordedAt : String
  metadata : Option Json
  deriving DecidableEq

/-- An event as the database keeps it. -/
structure Record where
  source : String
  subject : String
  type : String
  data : RecordData
  deriving DecidableEq

/-- The subject of every record: boundaries are drawn by tags alone. -/
def Record.rootSubject : String := "/"

/-- The record of an event, stamped with an instant. -/
def Event.record (source typePrefix : String) (t : Instant) (e : Event) : Record where
  source := source
  subject := Record.rootSubject
  type := typePrefix ++ e.type
  data := {
    payload := e.data
    tags := e.tags.toList
    recordedAt := Stamp.write t
    metadata := e.metadata }

/-! ## Writing -/

namespace RecordData

def metadataMember : Option Json → List (String × Json)
  | none => []
  | some v => [("metadata", v)]

def toJson (d : RecordData) : Json :=
  .object (metadataMember d.metadata ++
    [("payload", d.payload), ("recorded_at", .string d.recordedAt), ("tags", .ofStrings d.tags)])

end RecordData

def Record.toJson (r : Record) : Json :=
  .object [("data", r.data.toJson), ("source", .string r.source), ("subject", .string r.subject),
    ("type", .string r.type)]

def Guard.toJson (g : Guard) : Json :=
  .object [("payload", .object [("query", .string g.program)]), ("type", .string g.kind)]

/-! ## Reading -/

namespace RecordData

def recordName : String := "WireEventData"

def ofMembers (members : List (String × Json)) : Except Json.ShapeFault RecordData := do
  let metadata ← Json.member members "metadata" (Json.nullable Json.anything)
  let payload ← Json.member members "payload" Json.anything
  let recordedAt ← Json.member members "recorded_at" Json.asText
  let tags ← Json.member members "tags" Json.asTexts
  let payload ← Json.required "payload" payload
  let tags ← Json.required "tags" tags
  let recordedAt ← Json.required "recorded_at" recordedAt
  return ⟨payload, tags, recordedAt, metadata.getD none⟩

def ofItems (items : List Json) : Except Json.ShapeFault RecordData := do
  let payload ← Json.element items 0 (Json.endsEarly recordName 4 0) Json.anything
  let tags ← Json.element items 1 (Json.endsEarly recordName 4 1) Json.asTexts
  let recordedAt ← Json.element items 2 (Json.endsEarly recordName 4 2) Json.asText
  let metadata ← Json.element items 3 (.ok none) (Json.nullable Json.anything)
  Json.noFurther items 4
  return ⟨payload, tags, recordedAt, metadata⟩

def ofJson : Json.Field RecordData
  | .object members => ofMembers members
  | .array items => ofItems items
  | v => .error (.wrongKind v ("struct " ++ recordName))

end RecordData

namespace Record

def recordName : String := "WireEvent"

def ofMembers (members : List (String × Json)) : Except Json.ShapeFault Record := do
  let data ← Json.member members "data" RecordData.ofJson
  let source ← Json.member members "source" Json.asText
  let subject ← Json.member members "subject" Json.asText
  let type ← Json.member members "type" Json.asText
  let source ← Json.required "source" source
  let subject ← Json.required "subject" subject
  let type ← Json.required "type" type
  let data ← Json.required "data" data
  return ⟨source, subject, type, data⟩

def ofItems (items : List Json) : Except Json.ShapeFault Record := do
  let source ← Json.element items 0 (Json.endsEarly recordName 4 0) Json.asText
  let subject ← Json.element items 1 (Json.endsEarly recordName 4 1) Json.asText
  let type ← Json.element items 2 (Json.endsEarly recordName 4 2) Json.asText
  let data ← Json.element items 3 (Json.endsEarly recordName 4 3) RecordData.ofJson
  Json.noFurther items 4
  return ⟨source, subject, type, data⟩

def ofJson : Json.Field Record
  | .object members => ofMembers members
  | .array items => ofItems items
  | v => .error (.wrongKind v ("struct " ++ recordName))

end Record

namespace Guard

def payloadName : String := "PreconditionPayload"

def recordName : String := "Precondition"

/-- The program in the payload of a guard. -/
def programOfJson : Json.Field String
  | .object members => do
      let query ← Json.member members "query" Json.asText
      Json.required "query" query
  | .array items => do
      let query ← Json.element items 0 (Json.endsEarly payloadName 1 0) Json.asText
      Json.noFurther items 1
      return query
  | v => .error (.wrongKind v ("struct " ++ payloadName))

def ofMembers (members : List (String × Json)) : Except Json.ShapeFault Guard := do
  let program ← Json.member members "payload" programOfJson
  let kind ← Json.member members "type" Json.asText
  let kind ← Json.required "type" kind
  let program ← Json.required "payload" program
  return ⟨kind, program⟩

def ofItems (items : List Json) : Except Json.ShapeFault Guard := do
  let kind ← Json.element items 0 (Json.endsEarly recordName 2 0) Json.asText
  let program ← Json.element items 1 (Json.endsEarly recordName 2 1) programOfJson
  Json.noFurther items 2
  return ⟨kind, program⟩

def ofJson : Json.Field Guard
  | .object members => ofMembers members
  | .array items => ofItems items
  | v => .error (.wrongKind v ("struct " ++ recordName))

end Guard
end BoundaryLog
