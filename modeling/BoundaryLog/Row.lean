import BoundaryLog.Record

/-! # Rows

A read returns a row for each event.  Decoding a row looks at its shape first, then at the
position, then at the recording time.  The namespace is taken off the type by its length alone, so
that rows of other namespaces decode too. -/
set_option autoImplicit false
namespace BoundaryLog

structure Row where
  type : String
  tags : Option (List String)
  data : Json
  metadata : Option Json
  recordedAt : String
  position : Option Json
  deriving DecidableEq

/-- The row of a record at a position, as a projection writes it. -/
def Record.envelope (r : Record) (place : Nat) : Json :=
  .object [("data", r.data.payload), ("metadata", r.data.metadata.getD .null),
    ("position", .ofNat place), ("recorded_at", .string r.data.recordedAt),
    ("tags", .ofStrings r.data.tags), ("type", .string r.type)]

namespace Row

/-- Why a row does not decode. -/
inductive Fault where
  | shape (fault : Json.ShapeFault)
  | positionNotNumeric (raw : Option Json)
  | positionZero
  | badStamp (raw : String) (fault : Stamp.Fault)
  deriving DecidableEq

def Fault.message : Fault → String
  | .shape fault => "unexpected record shape: " ++ fault.message
  | .positionNotNumeric raw => "position is not numeric: " ++ Json.optionalListing raw
  | .positionZero => "position must be at least 1"
  | .badStamp raw fault =>
      "invalid recorded_at " ++ Text.quoted raw ++ ": " ++ fault.message

def recordName : String := "ProjectedRecord"

def ofMembers (members : List (String × Json)) : Except Json.ShapeFault Row := do
  let data ← Json.member members "data" Json.anything
  let metadata ← Json.member members "metadata" (Json.nullable Json.anything)
  let position ← Json.member members "position" (Json.nullable Json.anything)
  let recordedAt ← Json.member members "recorded_at" Json.asText
  let tags ← Json.member members "tags" (Json.nullable Json.asTexts)
  let type ← Json.member members "type" Json.asText
  let type ← Json.required "type" type
  let recordedAt ← Json.required "recorded_at" recordedAt
  return ⟨type, tags.getD none, data.getD .null, metadata.getD none, recordedAt,
    position.getD none⟩

def ofItems (items : List Json) : Except Json.ShapeFault Row := do
  let type ← Json.element items 0 (Json.endsEarly recordName 6 0) Json.asText
  let tags ← Json.element items 1 (.ok none) (Json.nullable Json.asTexts)
  let data ← Json.element items 2 (.ok .null) Json.anything
  let metadata ← Json.element items 3 (.ok none) (Json.nullable Json.anything)
  let recordedAt ← Json.element items 4 (Json.endsEarly recordName 6 4) Json.asText
  let position ← Json.element items 5 (.ok none) (Json.nullable Json.anything)
  Json.noFurther items 6
  return ⟨type, tags, data, metadata, recordedAt, position⟩

def ofJson : Json.Field Row
  | .object members => ofMembers members
  | .array items => ofItems items
  | v => .error (.wrongKind v ("struct " ++ recordName))

/-- The count that a position is given by, as a number or as a text. -/
def countOf : Option Json → Option Nat
  | some (.number (.integer n)) =>
      if 0 ≤ n ∧ n.toNat < countBound then some n.toNat else none
  | some (.string s) => (Text.readCount (Text.trim s.toList)).toOption.map Count.value
  | _ => none

def readPosition (raw : Option Json) : Except Fault Position :=
  match countOf raw with
  | none => .error (.positionNotNumeric raw)
  | some n =>
      match Position.ofNat? n with
      | none => .error .positionZero
      | some p => .ok p

/-- The instant that a recording time denotes. -/
def readStamp (raw : String) : Except Fault Instant :=
  (Stamp.read raw.toList).mapError (.badStamp raw)

/-- What is left of a text after as many bytes of its UTF-8 form; nothing when it is shorter, or
when a character would be split. -/
def dropBytes : Nat → List Char → List Char
  | 0, cs => cs
  | _ + 1, [] => []
  | n + 1, c :: cs => if c.utf8Size ≤ n + 1 then dropBytes (n + 1 - c.utf8Size) cs else []

/-- A stored type without its namespace. -/
def dropNamespace (typePrefix stored : String) : String :=
  String.ofList (dropBytes typePrefix.utf8ByteSize stored.toList)

/-- The event of a row whose fields have been read. -/
def event (typePrefix : String) (row : Row) : Event where
  type := dropNamespace typePrefix row.type
  data := row.data
  tags := .ofList (row.tags.getD [])
  metadata := row.metadata.filter (· ≠ .null)

def decode (typePrefix : String) (row : Json) : Except Fault RecordedEvent := do
  let row ← (ofJson row).mapError .shape
  let position ← readPosition row.position
  let recordedAt ← readStamp row.recordedAt
  return ⟨position, recordedAt, row.event typePrefix⟩

end Row

/-- A row that does not decode is an error of the operation that reads it. -/
def Row.Fault.toFailure (fault : Row.Fault) : Failure := .decode fault.message

end BoundaryLog
