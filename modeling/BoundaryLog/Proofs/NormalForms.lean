import BoundaryLog.Proofs.RoundTrips

/-! # Normal forms of recorded events

Rows of many forms decode to one event.  What decodes is in normal form: its recording time is the
beginning of a second, which may be the leap second of a minute, and its metadata is not null.
Nothing else is asked, since tags are a set and a type is whatever is left of the stored one.  An
event in normal form is what its own row decodes to, so a second pass through the log changes
nothing. -/
set_option autoImplicit false
namespace BoundaryLog

/-- Whether nothing of a recorded event is lost in its row. -/
structure RecordedEvent.IsNormal (e : RecordedEvent) : Prop where
  shownSecond_eq : e.recordedAt.shownSecond = e.recordedAt
  metadata_ne : e.event.metadata ≠ some .null

/-- The record of a recorded event as if it was written anew, while a timepiece stands still at its
recording time. -/
def RecordedEvent.record (e : RecordedEvent) (source typePrefix : String) : Record :=
  e.event.record source typePrefix (Timepiece.fixed e.recordedAt).read.1

/-- The row of a recorded event at its own position. -/
def RecordedEvent.envelope (e : RecordedEvent) (source typePrefix : String) : Json :=
  (e.record source typePrefix).envelope e.position.value

namespace Row
variable (typePrefix : String) (row : Json) (e : RecordedEvent)

theorem metadata_event_ne (fields : Row) : (fields.event typePrefix).metadata ≠ some .null :=
  Json.filtered_ne_null fields.metadata

/-- Whatever decodes is in normal form. -/
theorem isNormal_of_decode (h : decode typePrefix row = .ok e) : e.IsNormal := by
  obtain ⟨fields, -, -, hTime, hEvent⟩ := (decode_eq_ok_iff typePrefix row e).1 h
  constructor
  · exact Stamp.shownSecond_of_read _ _ ((readStamp_eq_ok_iff fields.recordedAt _).1 hTime)
  · rw [← hEvent]
    exact metadata_event_ne typePrefix fields

/-- The row of a recorded event decodes to it in the namespace in which it was written, exactly if
it is in normal form. -/
theorem decode_envelope_iff (source : String) :
    decode typePrefix (e.envelope source typePrefix) = .ok e ↔ e.IsNormal := by
  constructor
  · exact isNormal_of_decode typePrefix _ e
  · intro normal
    let x : Deposit := ⟨⟨source, typePrefix⟩, e.event, e.recordedAt⟩
    obtain ⟨found, decoded, position, seen⟩ := x.decode_record typePrefix e.position
    have recordedAt : found.recordedAt = e.recordedAt :=
      seen.recordedAt_eq.trans normal.shownSecond_eq
    have event : found.event = e.event := seen.event_eq_iff.2 normal.metadata_ne
    have same : found = e := by
      cases found
      cases e
      cases position
      cases recordedAt
      cases event
      rfl
    rw [same] at decoded
    exact decoded

/-- The recorded events that some row decodes to are those in normal form. -/
theorem exists_row_iff_isNormal : (∃ row, decode typePrefix row = .ok e) ↔ e.IsNormal := by
  constructor
  · rintro ⟨row, h⟩
    exact isNormal_of_decode typePrefix row e h
  · intro normal
    exact ⟨_, (decode_envelope_iff typePrefix e "").2 normal⟩

end Row

/-- An event that was decoded in a namespace, from whatever row, comes back unchanged from the row of
its own record in this namespace, with any source; and what comes back has the same record. -/
theorem decoded_event_is_in_normal_form (typePrefix : String) (row : Json) (e : RecordedEvent)
    (h : Row.decode typePrefix row = .ok e) (source : String) :
    Row.decode typePrefix (e.envelope source typePrefix) = .ok e ∧
      ∀ again, Row.decode typePrefix (e.envelope source typePrefix) = .ok again →
        again.record source typePrefix = e.record source typePrefix := by
  have normal := Row.isNormal_of_decode typePrefix row e h
  have decoded := (Row.decode_envelope_iff typePrefix e source).2 normal
  refine ⟨decoded, ?_⟩
  intro again hAgain
  have same : again = e := Except.ok.inj (hAgain.symm.trans decoded)
  rw [same]

/-- A row of another namespace without a payload: its tags are in disorder, its position is a text,
and its recording time is a leap second. -/
def looseRow : Json :=
  .object [("metadata", .null), ("position", .string " +007 "),
    ("recorded_at", .string "2016-12-31 23:59:60"), ("tags", .ofStrings ["b", "a", "b"]),
    ("type", .string "old.app.événement")]

/-- What the row is in normal form. -/
def settledEvent : RecordedEvent where
  position := ⟨7, by decide, by decide⟩
  recordedAt := ⟨1483228799, 1000000000, by decide, by decide, by decide⟩
  event := ⟨"événement", .null, .ofList ["a", "b"], none⟩

theorem loose_row_settles :
    Row.decode "new.app." looseRow = .ok settledEvent ∧
      Row.decode "new.app." (settledEvent.envelope "urn:copy" "new.app.") = .ok settledEvent := by
  have decoded : Row.decode "new.app." looseRow = .ok settledEvent := rfl
  exact ⟨decoded, (decoded_event_is_in_normal_form "new.app." looseRow settledEvent decoded
    "urn:copy").1⟩

end BoundaryLog
