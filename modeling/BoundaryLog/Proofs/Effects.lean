import BoundaryLog.Gateway

/-! # What operations do beside their answer

A failure that is found in the arguments leaves everything as it was.  An append whose arguments are
good reads the time once for each of its events and then makes one write, whatever the database
answers; afterwards it only notices and counts. -/
set_option autoImplicit false
namespace BoundaryLog

/-! ## Readings of the time -/

namespace Timepiece

/-- The next readings of a timepiece. -/
def readings : Nat → Timepiece → List Instant
  | 0, _ => []
  | n + 1, c => c.read.1 :: readings n c.read.2

/-- A timepiece after a number of readings. -/
def after : Nat → Timepiece → Timepiece
  | 0, c => c
  | n + 1, c => after n c.read.2

theorem length_readings (n : Nat) (c : Timepiece) : (c.readings n).length = n := by
  induction n generalizing c with
  | zero => rfl
  | succ n ih => exact congrArg Nat.succ (ih c.read.2)

end Timepiece

namespace Deployment
variable {σ : Type} (d : Deployment σ)

theorem enter_nil : d.enter [] = d := by
  rw [enter, List.append_nil]

theorem enter_enter (first second : List Entry) :
    (d.enter first).enter second = d.enter (first ++ second) := by
  rw [enter, enter, enter, List.append_assoc]

theorem setTimepiece_self (n : Nat) : d.setTimepiece n (d.timepieces n) = d := by
  have same : (fun m => if m = n then d.timepieces n else d.timepieces m) = d.timepieces := by
    funext m
    by_cases h : m = n
    · rw [if_pos h, h]
    · exact if_neg h
  rw [setTimepiece, same]

theorem setTimepiece_setTimepiece (n : Nat) (first second : Timepiece) :
    (d.setTimepiece n first).setTimepiece n second = d.setTimepiece n second := by
  have last : (fun m => if m = n then second else if m = n then first else d.timepieces m) =
      fun m => if m = n then second else d.timepieces m := by
    funext m
    by_cases h : m = n
    · rw [if_pos h, if_pos h]
    · rw [if_neg h, if_neg h, if_neg h]
  rw [setTimepiece, setTimepiece, setTimepiece, last]

/-- A deployment after a number of readings of one of its timepieces. -/
def readTimes (n count : Nat) : Deployment σ :=
  (d.setTimepiece n ((d.timepieces n).after count)).enter
    (((d.timepieces n).readings count).map (.timeRead n))

theorem readTimes_succ (n count : Nat) :
    (d.readTime n).2.readTimes n count = d.readTimes n (count + 1) := by
  have next : (d.readTime n).2.timepieces n = (d.timepieces n).read.2 := if_pos rfl
  have step : (d.readTime n).2 =
      (d.setTimepiece n (d.timepieces n).read.2).enter [.timeRead n (d.timepieces n).read.1] := rfl
  rw [readTimes, next, step]
  change (((d.setTimepiece n _).setTimepiece n _).enter _).enter _ = _
  rw [setTimepiece_setTimepiece, enter_enter]
  rfl

end Deployment

namespace Gateway
variable (g : Gateway)

/-- The record of an event that is stamped with an instant. -/
def recordAt (e : Event) (t : Instant) : Record := e.record g.config.source g.config.typePrefix t

/-- The records of events that are stamped by a timepiece: event by event, each with the reading of
its turn. -/
def encoded : List Event → Timepiece → List Record
  | [], _ => []
  | e :: events, c =>
      e.record g.config.source g.config.typePrefix c.read.1 :: encoded events c.read.2

theorem encoded_eq_zipWith (events : List Event) (c : Timepiece) :
    g.encoded events c = List.zipWith g.recordAt events (c.readings events.length) := by
  induction events generalizing c with
  | nil => rfl
  | cons e events ih => exact congrArg (List.cons _) (ih c.read.2)

variable {σ : Type}

theorem stampAll_eq (events : List Event) (d : Deployment σ) :
    g.stampAll events d = (g.encoded events (d.timepieces g.timepiece),
      d.readTimes g.timepiece events.length) := by
  induction events generalizing d with
  | nil =>
      have unread : d.readTimes g.timepiece 0 = d := by
        rw [Deployment.readTimes, Timepiece.after, Timepiece.readings, List.map_nil,
          Deployment.enter_nil, d.setTimepiece_self]
      rw [stampAll, encoded, List.length_nil, unread]
  | cons e events ih =>
      have next : (d.readTime g.timepiece).2.timepieces g.timepiece =
          (d.timepieces g.timepiece).read.2 := if_pos rfl
      have later := ih (d.readTime g.timepiece).2
      rw [next, d.readTimes_succ] at later
      change (_ :: (g.stampAll events (d.readTime g.timepiece).2).1,
        (g.stampAll events (d.readTime g.timepiece).2).2) = _
      rw [later]
      rfl

end Gateway

/-! ## Operations -/

namespace Expectation

/-- What the answer to a write means to the caller, with what is noticed and counted. -/
def outcome (expected : Expectation) :
    Except TransportFailure WriteAnswer → Except Failure Unit × List Entry
  | .ok .written => (.ok (), [])
  | .ok .refused => (.error expected.violation.1, expected.violation.2)
  | .error cause => (.error (.transport cause), [])

end Expectation

namespace Gateway
variable (g : Gateway) (events : List Event) (boundary : Boundary)

theorem prepare_of_checkEvents_error (e : Failure) (hEvents : checkEvents events = .error e) :
    g.prepare events boundary = .error e :=
  congrArg (Except.bind · fun _ => boundary.guard? g.config.typePrefix) hEvents

theorem prepare_of_checkEvents_ok (hEvents : checkEvents events = .ok ()) :
    g.prepare events boundary = boundary.guard? g.config.typePrefix :=
  congrArg (Except.bind · fun _ => boundary.guard? g.config.typePrefix) hEvents

variable {σ : Type} [Backend σ]

theorem read_of_scanText_error (query : Query) (traversal : Traversal) (d : Deployment σ)
    (e : Failure) (h : query.scanText g.config.typePrefix traversal = .error e) :
    g.read query traversal d = (.error e, d) := by
  unfold read
  rw [h]

/-- What a read comes to that can be written: a notice, a count and one query. -/
theorem read_eq_of_scanText_ok (query : Query) (traversal : Traversal) (d : Deployment σ)
    (text : String) (h : query.scanText g.config.typePrefix traversal = .ok text) :
    let asked := (d.enter [.noticed (.running text), .counted .reads]).query text
    g.read query traversal d =
      ((asked.1.map fun rows => ⟨rows, g.config.typePrefix⟩).mapError .transport, asked.2) := by
  intro asked
  unfold read
  rw [h]

/-- A read that gets to the database fails only for what the database answers. -/
theorem read_of_scanText_ok (query : Query) (traversal : Traversal) (d : Deployment σ)
    (text : String) (h : query.scanText g.config.typePrefix traversal = .ok text) (e : Failure)
    (hAnswer : (g.read query traversal d).1 = .error e) : ∃ cause, e = .transport cause := by
  rw [g.read_eq_of_scanText_ok query traversal d text h] at hAnswer
  simp only at hAnswer
  cases hQuery : ((d.enter [.noticed (.running text), .counted .reads]).query text).1 with
  | ok rows =>
      rw [hQuery] at hAnswer
      cases hAnswer
  | error cause =>
      rw [hQuery] at hAnswer
      cases hAnswer
      exact ⟨cause, rfl⟩

variable (d : Deployment σ)

theorem append_of_prepare_error (e : Failure) (hPrepare : g.prepare events boundary = .error e) :
    g.append events boundary d = (.error e, d) := by
  unfold append
  rw [hPrepare]

/-- What an append with good arguments comes to: a reading for each event, one write, and what its
answer means to the caller. -/
theorem append_eq_of_prepare_ok (guard : Option Guard)
    (hPrepare : g.prepare events boundary = .ok guard) :
    let records := g.encoded events (d.timepieces g.timepiece)
    let notice := Notice.writing records.length (guard.map Guard.program)
    let written := ((d.readTimes g.timepiece events.length).enter
      [.noticed notice, .counted .appends]).write records guard.toList
    let outcome := boundary.expected.outcome written.1
    g.append events boundary d = (outcome.1, written.2.enter outcome.2) := by
  intro records notice written outcome
  have reached : ((d.readTimes g.timepiece events.length).enter
      [.noticed notice, .counted .appends]).write records guard.toList = written := rfl
  unfold append
  rw [hPrepare]
  simp only [g.stampAll_eq]
  rw [reached]
  -- only a refusal is followed by further entries
  obtain ⟨answer, next⟩ := written
  cases answer with
  | error cause => exact congrArg (Prod.mk _) next.enter_nil.symm
  | ok answer =>
      cases answer with
      | written => exact congrArg (Prod.mk _) next.enter_nil.symm
      | refused => rfl

/-- An append whose arguments are good takes a reading for each of its events, whatever becomes of
it. -/
theorem timepieces_append : (g.append events boundary d).2.timepieces =
    match g.prepare events boundary with
    | .error _ => d.timepieces
    | .ok _ => (d.readTimes g.timepiece events.length).timepieces := by
  cases hPrepare : g.prepare events boundary with
  | error e => rw [g.append_of_prepare_error events boundary d e hPrepare]
  | ok guard =>
      rw [g.append_eq_of_prepare_ok events boundary d guard hPrepare]
      rfl

end Gateway
end BoundaryLog
