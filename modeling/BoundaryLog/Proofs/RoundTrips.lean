import BoundaryLog.Proofs.Histories

/-! # Events on their way into the log and out of it

An event is encoded in the namespace of its writer and decoded in the namespace of its reader.
Decoding always succeeds.  On the way a time becomes the second that it shows, null metadata becomes
absent, and as many bytes are taken off the type as the reader's namespace has; all else comes back. -/
set_option autoImplicit false
namespace BoundaryLog

/-- The row of a deposit at a position decodes in every namespace, to what a reader in it is to
see. -/
theorem Deposit.decode_record (x : Deposit) (typePrefix : String) (p : Position) :
    ∃ found, Row.decode typePrefix (x.record.envelope p.value) = .ok found ∧
      found.position = p ∧ x.SeenAs typePrefix p.value found := by
  have shown := Row.decode_envelope typePrefix x.record p x.reading.shownSecond
    (Row.readStamp_write x.reading)
  exact ⟨_, shown, rfl, x.seenAs_of_shows typePrefix p.value _ shown⟩

/-- In the namespace of its writer all of an event comes back, unless its metadata is null. -/
theorem Deposit.SeenAs.event_eq_iff {x : Deposit} {place : Nat} {e : RecordedEvent}
    (seen : x.SeenAs x.config.typePrefix place e) :
    e.event = x.event ↔ x.event.metadata ≠ some .null := by
  constructor
  · intro same isNull
    have lost := seen.metadata_eq
    rw [same, isNull] at lost
    cases lost
  · intro notNull
    have metadata := seen.metadata_eq
    rw [if_neg notNull] at metadata
    calc e.event = ⟨e.event.type, e.event.data, e.event.tags, e.event.metadata⟩ := rfl
      _ = ⟨x.event.type, x.event.data, x.event.tags, x.event.metadata⟩ := by
        rw [seen.type_eq rfl, seen.data_eq, seen.tags_eq, metadata]
      _ = x.event := rfl

namespace TwoNamespaces

end TwoNamespaces
end BoundaryLog
