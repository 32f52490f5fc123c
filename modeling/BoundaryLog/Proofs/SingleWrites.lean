import BoundaryLog.Backend.Rehearsed
import BoundaryLog.Proofs.Appends

/-! # An operation acts once or not at all

Whatever database is behind a gateway, a read or an append that fails for its arguments has done
nothing: no request, no reading of the time, no notice and no count.  An append with any other
answer, be it a success, a conflict or a failure of the database, has made a single write with all
of its events, under a guard unless nothing was expected. -/
set_option autoImplicit false
namespace BoundaryLog

namespace Entry

/-- The request to the database that an entry is about. -/
def request? : Entry → Option Request
  | .requested request => some request
  | _ => none

/-- The reading of a timepiece that an entry is about. -/
def reading? : Entry → Option (Nat × Instant)
  | .timeRead n t => some (n, t)
  | _ => none

theorem filterMap_request?_timeRead (n : Nat) (times : List Instant) :
    (times.map (Entry.timeRead n)).filterMap request? = [] := by
  induction times with
  | nil => rfl
  | cons t times ih => exact ih

theorem filterMap_reading?_timeRead (n : Nat) (times : List Instant) :
    (times.map (Entry.timeRead n)).filterMap reading? = times.map fun t => (n, t) := by
  induction times with
  | nil => rfl
  | cons t times ih => exact congrArg (List.cons (n, t)) ih

end Entry

/-! ## Failures of arguments -/

/-- Whether a failure lies in the arguments of an operation. -/
def Failure.InArguments : Failure → Prop
  | .unsupportedQuery _ | .invalidLiteral _ _ | .invalidArgument _ => True
  | _ => False

/-- Why a query has no programs is in its arguments. -/
theorem Query.inArguments_of_fault? (typePrefix : String) (q : Query) (e : Failure)
    (h : q.fault? typePrefix = some e) : e.InArguments := by
  unfold fault? at h
  cases hSupported : q.supported with
  | false =>
      rw [hSupported] at h
      cases h
      trivial
  | true =>
      rw [hSupported, if_pos rfl] at h
      obtain ⟨bad, -, rfl⟩ := Option.map_eq_some_iff.1 h
      trivial

theorem Gateway.inArguments_of_checkEvents (events : List Event) (e : Failure)
    (h : checkEvents events = .error e) : e.InArguments := by
  rw [checkEvents_eq] at h
  by_cases hEvents : events = []
  · rw [if_pos hEvents] at h
    cases h
    trivial
  · rw [if_neg hEvents] at h
    cases hIndex : events.findIdx? (·.type = "") with
    | some index =>
        rw [hIndex] at h
        cases h
        trivial
    | none =>
        rw [hIndex] at h
        cases h

/-- There is one guard if anything is expected, and else there is none. -/
theorem Boundary.length_guard? (typePrefix : String) (boundary : Boundary) (guard : Option Guard)
    (h : boundary.guard? typePrefix = .ok guard) :
    guard.toList.length = if boundary.expected = .any then 0 else 1 := by
  rw [boundary.guard?_eq] at h
  by_cases hAny : boundary.expected = .any
  · rw [hAny] at h
    cases h
    rw [if_pos hAny]
    rfl
  · rw [boundary.expected.isAny_eq_false hAny, if_neg Bool.false_ne_true,
      Query.orFault_eq_ok_iff] at h
    obtain ⟨-, rfl⟩ := h
    rw [if_neg hAny]
    rfl

theorem Boundary.inArguments_of_guard? (typePrefix : String) (boundary : Boundary) (e : Failure)
    (h : boundary.guard? typePrefix = .error e) : e.InArguments := by
  rw [boundary.guard?_eq] at h
  cases hAny : boundary.expected.isAny with
  | true =>
      rw [hAny] at h
      cases h
  | false =>
      rw [hAny, if_neg Bool.false_ne_true, Query.orFault] at h
      cases hFault : boundary.query.fault? typePrefix with
      | none =>
          rw [hFault] at h
          cases h
      | some fault =>
          rw [hFault] at h
          cases h
          exact boundary.query.inArguments_of_fault? typePrefix _ hFault

theorem Gateway.inArguments_of_prepare (g : Gateway) (events : List Event) (boundary : Boundary)
    (e : Failure) (h : g.prepare events boundary = .error e) : e.InArguments := by
  cases hEvents : checkEvents events with
  | error fault =>
      rw [g.prepare_of_checkEvents_error events boundary fault hEvents] at h
      cases h
      exact inArguments_of_checkEvents events _ hEvents
  | ok _ =>
      rw [g.prepare_of_checkEvents_ok events boundary hEvents] at h
      exact boundary.inArguments_of_guard? g.config.typePrefix e h

theorem Gateway.guard?_of_prepare (g : Gateway) (events : List Event) (boundary : Boundary)
    (guard : Option Guard) (h : g.prepare events boundary = .ok guard) :
    boundary.guard? g.config.typePrefix = .ok guard := by
  cases hEvents : checkEvents events with
  | error fault =>
      rw [g.prepare_of_checkEvents_error events boundary fault hEvents] at h
      cases h
  | ok _ =>
      rw [g.prepare_of_checkEvents_ok events boundary hEvents] at h
      exact h

namespace Expectation
variable (expected : Expectation) (answer : Except TransportFailure WriteAnswer)

/-- What comes of a write does not lie in the arguments. -/
theorem not_inArguments_outcome (e : Failure) (h : (expected.outcome answer).1 = .error e) :
    ¬ e.InArguments := by
  cases answer with
  | error cause =>
      cases h
      exact id
  | ok answer =>
      cases answer with
      | written => cases h
      | refused =>
          cases h
          cases expected <;> exact id

/-- After its write an append makes no request and takes no reading. -/
theorem quiet_outcome : (expected.outcome answer).2.filterMap Entry.request? = [] ∧
    (expected.outcome answer).2.filterMap Entry.reading? = [] := by
  cases answer with
  | error cause => exact ⟨rfl, rfl⟩
  | ok answer =>
      cases answer with
      | written => exact ⟨rfl, rfl⟩
      | refused => cases expected <;> exact ⟨rfl, rfl⟩

end Expectation

/-! ## Operations on any database -/

namespace Gateway
section AnyDatabase
variable {σ : Type} [Backend σ] (g : Gateway)

/-- Whether a record is that of an event and of the reading that was taken for it: the type stands in
the namespace, the time is the stamp of the reading, and all else is as the event has it. -/
structure Encodes (e : Event) (t : Instant) (r : Record) : Prop where
  source_eq : r.source = g.config.source
  subject_eq : r.subject = "/"
  type_eq : r.type = g.config.typePrefix ++ e.type
  payload_eq : r.data.payload = e.data
  tags_eq : r.data.tags = e.tags.toList
  metadata_eq : r.data.metadata = e.metadata
  recordedAt_eq : r.data.recordedAt = Stamp.write t

theorem encodes_recordAt (e : Event) (t : Instant) : g.Encodes e t (g.recordAt e t) :=
  ⟨rfl, rfl, rfl, rfl, rfl, rfl, rfl⟩

/-- What has happened between two states if an append has made one write: its events have been
written, in their order and under the given guards, and each of them is encoded with the reading of
its turn. -/
structure WritesOnce (events : List Event) (guards : List Guard) (times : List Instant)
    (d next : Deployment σ) (added : List Entry) : Prop where
  times_eq : times = (d.timepieces g.timepiece).readings events.length
  length_times : times.length = events.length
  each_encodes : ∀ (i : Nat) (e : Event) (t : Instant), events[i]? = some e → times[i]? = some t →
    ∃ r, (List.zipWith g.recordAt events times)[i]? = some r ∧ g.Encodes e t r
  journal_eq : next.journal = d.journal ++ added
  readings_eq : added.filterMap Entry.reading? = times.map fun t => (g.timepiece, t)
  requests_eq :
    added.filterMap Entry.request? = [.write (List.zipWith g.recordAt events times) guards]
  backend_eq :
    next.backend = (Backend.write (List.zipWith g.recordAt events times) guards d.backend).2

variable (events : List Event) (boundary : Boundary) (d : Deployment σ)

theorem writesOnce_of_prepare_ok (guard : Option Guard)
    (hPrepare : g.prepare events boundary = .ok guard) :
    ∃ times added,
      g.WritesOnce events guard.toList times d (g.append events boundary d).2 added := by
  let times := (d.timepieces g.timepiece).readings events.length
  let records := List.zipWith g.recordAt events times
  let answer := (Backend.write records guard.toList d.backend).1
  let single : List Entry :=
    [.noticed (.writing records.length (guard.map Guard.program)), .counted .appends,
      .requested (.write records guard.toList)]
  have result := g.append_eq_of_prepare_ok events boundary d guard hPrepare
  simp only [g.encoded_eq_zipWith] at result
  obtain ⟨noRequest, noReading⟩ := boundary.expected.quiet_outcome answer
  refine ⟨times, times.map (.timeRead g.timepiece) ++ single ++ (boundary.expected.outcome answer).2,
    rfl, Timepiece.length_readings _ _, ?_, ?_, ?_, ?_, ?_⟩
  · intro i e t hEvent hTime
    refine ⟨g.recordAt e t, ?_, g.encodes_recordAt e t⟩
    rw [List.getElem?_zipWith, hEvent, hTime]
  · rw [result]
    change d.journal ++ times.map (.timeRead g.timepiece) ++ _ ++ _ ++ _ = _
    simp only [List.append_assoc]
    rfl
  · have once : single.filterMap Entry.reading? = [] := rfl
    rw [List.filterMap_append, List.filterMap_append, Entry.filterMap_reading?_timeRead, once,
      noReading, List.append_nil, List.append_nil]
  · have once : single.filterMap Entry.request? = [.write records guard.toList] := rfl
    rw [List.filterMap_append, List.filterMap_append, Entry.filterMap_request?_timeRead, once,
      noRequest, List.append_nil, List.nil_append]
  · rw [result]
    rfl

/-- On any database in any state: a read or an append that fails for its arguments leaves everything
as it was, requests, readings, notices and counts included.  An append with any other answer, be it
what it may, makes one write of all its events in their order, each with its own type, payload, tags
and metadata and stamped with the reading of its turn, and no further request.  It takes no other
readings, and there is one guard if anything is expected and none otherwise. -/
theorem acts_once_or_not_at_all :
    (∀ query traversal e, (g.read query traversal d).1 = .error e → e.InArguments →
      (g.read query traversal d).2 = d) ∧
    (∀ e, (g.append events boundary d).1 = .error e → e.InArguments →
      (g.append events boundary d).2 = d) ∧
    ((∀ e, (g.append events boundary d).1 = .error e → ¬ e.InArguments) →
      ∃ guard times added, boundary.guard? g.config.typePrefix = .ok guard ∧
        guard.toList.length = (if boundary.expected = .any then 0 else 1) ∧
        g.WritesOnce events guard.toList times d (g.append events boundary d).2 added) := by
  refine ⟨?_, ?_, ?_⟩
  · intro query traversal e hAnswer hArguments
    cases hText : query.scanText g.config.typePrefix traversal with
    | error fault => rw [g.read_of_scanText_error query traversal d fault hText]
    | ok text =>
        obtain ⟨cause, rfl⟩ := g.read_of_scanText_ok query traversal d text hText e hAnswer
        exact hArguments.elim
  · intro e hAnswer hArguments
    cases hPrepare : g.prepare events boundary with
    | error fault => rw [g.append_of_prepare_error events boundary d fault hPrepare]
    | ok guard =>
        rw [g.append_eq_of_prepare_ok events boundary d guard hPrepare] at hAnswer
        exact absurd hArguments (boundary.expected.not_inArguments_outcome _ e hAnswer)
  · intro hOther
    cases hPrepare : g.prepare events boundary with
    | error fault =>
        have answer := g.append_of_prepare_error events boundary d fault hPrepare
        exact absurd (g.inArguments_of_prepare events boundary fault hPrepare)
          (hOther fault (congrArg Prod.fst answer))
    | ok guard =>
        obtain ⟨times, added, wrote⟩ := g.writesOnce_of_prepare_ok events boundary d guard hPrepare
        have hGuard := g.guard?_of_prepare events boundary guard hPrepare
        exact ⟨guard, times, added, hGuard,
          boundary.length_guard? g.config.typePrefix guard hGuard, wrote⟩

end AnyDatabase

/-! A database that refuses the next write for no reason. -/

namespace Refusing

def morning : Instant := ⟨32400, 0, by decide, by decide, two_nanosPerSecond_pos⟩

def later : Instant := ⟨32401, 5, by decide, by decide, by decide⟩

def start : Deployment (Rehearsed MemoryLog) :=
  ⟨⟨.empty, some (.answer .refused)⟩, fun _ => ⟨morning, [later]⟩, []⟩

def gate : Gateway := ⟨.default, 0⟩

/-- A query whose tag cannot stand between quotes. -/
def unquotable : Query := .criteria [Criterion.new.requireTags ["a\"b"]]

def arrived : Event := Event.new "arrived" .null

def departed : Event := Event.new "departed" .null

def delayed : Event := ((Event.new "delayed" (.bool true)).setTags ["track", "gate"]).setMetadata .null

theorem refused_append_writes_once :
    (gate.read unquotable .full start).2 = start ∧
    (gate.append [arrived] ⟨unquotable, .none⟩ start).2 = start ∧
    ∃ added, (gate.append [arrived, delayed] .unchecked start).2.journal = added ∧
      added.filterMap Entry.reading? = [(0, morning), (0, later)] ∧
      ∃ first second, added.filterMap Entry.request? = [.write [first, second] []] ∧
        first = ⟨"https://dcb.events", "/", "events.dcb.arrived",
          ⟨.null, [], "1970-01-01 09:00:00", none⟩⟩ ∧
        second.type = "events.dcb.delayed" ∧ second.data.payload = .bool true ∧
        second.data.tags = ["gate", "track"] ∧ second.data.metadata = some .null ∧
        second.data.recordedAt = "1970-01-01 09:00:01" := by
  have readAnswer : (gate.read unquotable .full start).1 =
      .error (BadLiteral.toFailure ⟨"a\"b", '"'⟩) := rfl
  have appendAnswer : (gate.append [arrived] ⟨unquotable, .none⟩ start).1 =
      .error (BadLiteral.toFailure ⟨"a\"b", '"'⟩) := rfl
  have refused : (gate.append [arrived, delayed] .unchecked start).1 =
      .error .unexpectedConflict := rfl
  obtain ⟨read, append, -⟩ :=
    acts_once_or_not_at_all gate [arrived] ⟨unquotable, .none⟩ start
  obtain ⟨-, -, once⟩ := acts_once_or_not_at_all gate [arrived, delayed] .unchecked start
  obtain ⟨guard, times, added, hGuard, -, wrote⟩ := once (by
    intro e h
    rw [refused] at h
    cases h
    exact id)
  refine ⟨read unquotable .full _ readAnswer trivial, append _ appendAnswer trivial, added,
    wrote.journal_eq, ?_, ?_⟩
  · rw [wrote.readings_eq, wrote.times_eq]
    rfl
  · cases hGuard
    have times_eq : times = [morning, later] := wrote.times_eq
    obtain ⟨second, hSecond, encoded⟩ :=
      wrote.each_encodes 1 delayed later rfl (by rw [times_eq]; rfl)
    rw [times_eq] at hSecond
    cases hSecond
    refine ⟨_, _, by rw [wrote.requests_eq, times_eq]; rfl, ?_, encoded.type_eq, encoded.payload_eq,
      encoded.tags_eq.trans ?_, encoded.metadata_eq, encoded.recordedAt_eq.trans ?_⟩
    · decide +kernel
    · decide +kernel
    · decide +kernel

end Refusing
end Gateway
end BoundaryLog
