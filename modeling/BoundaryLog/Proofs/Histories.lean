import BoundaryLog.Proofs.Clients
import BoundaryLog.Proofs.Namespaces
import BoundaryLog.Proofs.StoredTimes

/-! # What a run of appends leaves

Appends go through any number of gateways to one log, and each of them is accepted or not.  The log
is made of the events of the accepted ones, in the order of the appends, and a reader of everything
gets these events back as far as its own namespace and the precision of stamps allow. -/
set_option autoImplicit false
namespace BoundaryLog

/-! ## Deposits -/

/-- An event as it was handed to a gateway, with the reading of the time that was taken for it. -/
structure Deposit where
  config : GatewayConfig
  event : Event
  reading : Instant

namespace Deposit
variable (x : Deposit) (typePrefix : String)

def record : Record := x.event.record x.config.source x.config.typePrefix x.reading

/-- What a reader in a namespace of types is to see of a deposit at a place of the log. -/
structure SeenAs (place : Nat) (e : RecordedEvent) : Prop where
  position_eq : e.position.value = place
  recordedAt_eq : e.recordedAt = x.reading.shownSecond
  recordedAt_of_isRegular : x.reading.IsRegular → e.recordedAt = x.reading.wholeSecond
  data_eq : e.event.data = x.event.data
  tags_eq : e.event.tags = x.event.tags
  metadata_eq : e.event.metadata = if x.event.metadata = some .null then none else x.event.metadata
  type_isLeft :
    Row.IsLeft typePrefix.utf8ByteSize (x.config.typePrefix ++ x.event.type) e.event.type
  type_eq : x.config.typePrefix.utf8ByteSize = typePrefix.utf8ByteSize →
    e.event.type = x.event.type

theorem seenAs_of_shows (place : Nat) (e : RecordedEvent)
    (h : Row.Shows typePrefix (x.record, place) e) : x.SeenAs typePrefix place e := by
  obtain ⟨p, t, hPlace, hTime, rfl⟩ := (Row.shows_iff typePrefix x.record place e).1 h
  have written : Row.readStamp x.record.data.recordedAt = .ok x.reading.shownSecond :=
    Row.readStamp_write x.reading
  rw [written] at hTime
  cases hTime
  refine ⟨hPlace, rfl, Instant.shownSecond_of_isRegular, rfl, x.event.tags.ofList_toList, ?_, ?_, ?_⟩
  · -- null is taken for absent twice, in the row and in its event
    rw [← Json.filter_ne_null]
    exact (Json.filter_ne_null _).trans (if_neg (Json.filtered_ne_null x.event.metadata))
  · exact Row.isLeft_dropNamespace typePrefix _
  · exact Row.dropNamespace_append typePrefix _ x.event.type

end Deposit

/-- The deposits of events with the readings of a timepiece, one reading for each event in turn. -/
def Gateway.deposits (g : Gateway) : List Event → Timepiece → List Deposit
  | [], _ => []
  | e :: events, c => ⟨g.config, e, c.read.1⟩ :: g.deposits events c.read.2

theorem Gateway.encoded_eq_map (g : Gateway) (events : List Event) (c : Timepiece) :
    g.encoded events c = (g.deposits events c).map Deposit.record := by
  induction events generalizing c with
  | nil => rfl
  | cons e events ih => rw [encoded, deposits, List.map_cons, ih, Deposit.record]

theorem Gateway.map_event_deposits (g : Gateway) (events : List Event) (c : Timepiece) :
    (g.deposits events c).map Deposit.event = events := by
  induction events generalizing c with
  | nil => rfl
  | cons e events ih => rw [deposits, List.map_cons, ih]

theorem Gateway.config_of_mem_deposits (g : Gateway) (events : List Event) (c : Timepiece)
    (x : Deposit) (hx : x ∈ g.deposits events c) : x.config = g.config := by
  induction events generalizing c with
  | nil => cases hx
  | cons e events ih =>
      rcases List.mem_cons.1 hx with rfl | hLater
      · rfl
      · exact ih _ hLater

/-! ## Appends one after the other -/

/-- An append: through which gateway, of which events, within which boundary. -/
structure Append where
  gateway : Gateway
  events : List Event
  boundary : Boundary

/-- An append as it went: the answer that it got, and its events with the readings for them. -/
structure Turn where
  append : Append
  answer : Except Failure Unit
  deposits : List Deposit

/-- The deposits that the log has taken in. -/
def Turn.accepted (turn : Turn) : List Deposit :=
  match turn.answer with
  | .ok () => turn.deposits
  | .error _ => []

theorem Turn.mem_deposits_of_mem_accepted (turn : Turn) (x : Deposit) (hx : x ∈ turn.accepted) :
    x ∈ turn.deposits := by
  rw [accepted] at hx
  cases hAnswer : turn.answer with
  | ok _ => rw [hAnswer] at hx; exact hx
  | error e => rw [hAnswer] at hx; cases hx

namespace Append

def run (a : Append) (d : Deployment MemoryLog) : Turn × Deployment MemoryLog :=
  let (answer, next) := a.gateway.append a.events a.boundary d
  (⟨a, answer, a.gateway.deposits a.events (d.timepieces a.gateway.timepiece)⟩, next)

def runAll : List Append → Deployment MemoryLog → List Turn × Deployment MemoryLog
  | [], d => ([], d)
  | a :: appends, d =>
      let (turn, next) := a.run d
      let (turns, last) := runAll appends next
      (turn :: turns, last)

theorem map_event_run (a : Append) (d : Deployment MemoryLog) :
    (a.run d).1.deposits.map Deposit.event = a.events :=
  a.gateway.map_event_deposits a.events _

/-- The record of a deposit is that of one of the events, made by the gateway of the append. -/
theorem record_of_mem_run (a : Append) (d : Deployment MemoryLog) (x : Deposit)
    (hx : x ∈ (a.run d).1.deposits) :
    x.event ∈ a.events ∧
      x.record = x.event.record a.gateway.config.source a.gateway.config.typePrefix x.reading := by
  constructor
  · rw [← a.map_event_run d]
    exact List.mem_map_of_mem hx
  · rw [Deposit.record, a.gateway.config_of_mem_deposits a.events _ x hx]

theorem answer_run (a : Append) (d : Deployment MemoryLog) :
    (a.run d).1.answer = a.gateway.verdict a.events a.boundary d.backend.records :=
  (a.gateway.append_answers a.events a.boundary d).answer_eq

theorem records_run (a : Append) (d : Deployment MemoryLog) :
    (a.run d).2.backend.records =
        d.backend.records ++ (a.run d).1.accepted.map Deposit.record ∧
      (a.run d).2.backend.heldRows = d.backend.heldRows := by
  obtain ⟨answer, records, heldRows⟩ := a.gateway.append_answers a.events a.boundary d
  refine ⟨?_, heldRows⟩
  have added : a.gateway.added a.events (d.timepieces a.gateway.timepiece) (a.run d).1.answer =
      (a.run d).1.accepted.map Deposit.record := by
    rw [Turn.accepted]
    cases (a.run d).1.answer with
    | ok _ => exact a.gateway.encoded_eq_map a.events _
    | error e => rfl
  rw [← added]
  rw [← answer] at records
  exact records

/-- A log is made of what it was in the beginning and of the accepted deposits, in their order. -/
theorem records_runAll (appends : List Append) (d : Deployment MemoryLog) :
    (runAll appends d).2.backend.records =
        d.backend.records ++ ((runAll appends d).1.flatMap Turn.accepted).map Deposit.record ∧
      (runAll appends d).2.backend.heldRows = d.backend.heldRows := by
  induction appends generalizing d with
  | nil => exact ⟨(List.append_nil _).symm, rfl⟩
  | cons a appends ih =>
      obtain ⟨first, firstHeld⟩ := a.records_run d
      obtain ⟨later, laterHeld⟩ := ih (a.run d).2
      constructor
      · change (runAll appends (a.run d).2).2.backend.records = _
        rw [later, first, runAll, List.flatMap_cons, List.map_append, List.append_assoc]
      · exact laterHeld.trans firstHeld

/-- There is a turn for each append, in their order, with a deposit for each of its events. -/
theorem turns_runAll (appends : List Append) (d : Deployment MemoryLog) :
    (runAll appends d).1.map Turn.append = appends ∧
      ∀ turn ∈ (runAll appends d).1, turn.deposits.map Deposit.event = turn.append.events := by
  induction appends generalizing d with
  | nil => exact ⟨rfl, nofun⟩
  | cons a appends ih =>
      obtain ⟨inOrder, whole⟩ := ih (a.run d).2
      constructor
      · exact congrArg (List.cons a) inOrder
      · intro turn hTurn
        rcases List.mem_cons.1 hTurn with rfl | hLater
        · exact a.map_event_run d
        · exact whole turn hLater

/-- Appends leave a log of encoded events. -/
theorem sound_runAll (appends : List Append) (start : Deployment MemoryLog)
    (hStart : start.backend = .empty) : (runAll appends start).2.backend.Sound := by
  obtain ⟨records, heldRows⟩ := records_runAll appends start
  constructor
  · intro r hr
    rw [records, hStart] at hr
    obtain ⟨x, -, rfl⟩ := List.mem_map.1 hr
    exact ⟨_, _, _, _, rfl⟩
  · rw [heldRows, hStart]
    rfl

end Append

namespace TwoNamespaces

def second (n : Nat) (h : (n : Int) < 86400) : Instant :=
  ⟨n, 0, Int.le_trans (by decide) (Int.natCast_nonneg n), Int.lt_trans h (by decide),
    two_nanosPerSecond_pos⟩

def start : Deployment MemoryLog :=
  ⟨.empty, fun _ => ⟨second 7 (by decide), [second 8 (by decide), second 9 (by decide)]⟩, []⟩

def french : Gateway := ⟨⟨"urn:fr", "é."⟩, 0⟩

def english : Gateway := ⟨⟨"urn:en", "en."⟩, 0⟩

def appends : List Append := [
  ⟨french, [(Event.new "A" .null).setMetadata .null], .unchecked⟩,
  ⟨english, [], .unchecked⟩,
  ⟨english, [Event.new "B" .null], ⟨.all, .none⟩⟩,
  ⟨english, [Event.new "C" .null], .unchecked⟩]

end TwoNamespaces
end BoundaryLog
