import Mathlib.Logic.Basic
import BoundaryLog.Feed

/-! # Pulling, collecting, and the first event

A feed is consumed by pulling it.  A pull yields the item of the row in front and leaves the rows
behind it, whatever the item is, so that after a number of pulls as many rows are dropped.  Collecting
is a loop of pulls that ends at the first error; its result and the events kept so far are related by
induction on the rows. -/
set_option autoImplicit false
namespace BoundaryLog.Feed

/-! ## Pulling again and again -/

/-- What a number of pulls yield. -/
def pulls : Nat → Feed → List (Except Failure RecordedEvent)
  | 0, _ => []
  | k + 1, f => f.pull.1.toList ++ pulls k f.pull.2

/-- What a feed yields until its end. -/
def items (f : Feed) : List (Except Failure RecordedEvent) := f.rows.map (item f.typePrefix)

/-- What is left of a feed after a number of pulls. -/
def after : Nat → Feed → Feed
  | 0, f => f
  | k + 1, f => after k f.pull.2

theorem pull_cons (row : Except TransportFailure Json) (rows : Rows) (typePrefix : String) :
    pull ⟨row :: rows, typePrefix⟩ = (some (item typePrefix row), ⟨rows, typePrefix⟩) := rfl

/-- A pull yields the first of the items and leaves the others. -/
theorem items_pull (f : Feed) : f.pull.1 = f.items.head? ∧ f.pull.2.items = f.items.tail := by
  obtain ⟨rows, typePrefix⟩ := f
  cases rows with
  | nil => exact ⟨rfl, rfl⟩
  | cons row rows => exact ⟨rfl, rfl⟩

theorem pulls_eq_take (k : Nat) (f : Feed) : f.pulls k = f.items.take k := by
  induction k generalizing f with
  | zero => rfl
  | succ k ih =>
      obtain ⟨first, others⟩ := f.items_pull
      rw [pulls, ih, first, others]
      cases f.items with
      | nil => exact List.take_nil
      | cons item items => rfl

theorem length_pulls_le (k : Nat) (f : Feed) : (f.pulls k).length ≤ f.remaining := by
  rw [pulls_eq_take, List.length_take, items, List.length_map]
  exact Nat.min_le_right _ _

theorem items_after (k : Nat) (f : Feed) : (f.after k).items = f.items.drop k := by
  induction k generalizing f with
  | zero => rfl
  | succ k ih => rw [after, ih, f.items_pull.2, List.drop_tail]

theorem pull_after (k : Nat) (f : Feed) : (f.after k).pull.1 = f.items[k]? := by
  rw [(f.after k).items_pull.1, items_after, List.head?_drop]

theorem length_items (f : Feed) : f.items.length = f.remaining := List.length_map _

theorem remaining_after (k : Nat) (f : Feed) : (f.after k).remaining = f.remaining - k := by
  rw [← length_items, items_after, List.length_drop, length_items]

/-! ## Collecting -/

/-- A loop of pulls that keeps the events and ends at the end or at the first error. -/
inductive Drains : List RecordedEvent → Feed → Except Failure (List RecordedEvent) → Prop where
  | ended {kept : List RecordedEvent} {f rest : Feed} (h : f.pull = (none, rest)) :
      Drains kept f (.ok kept)
  | failed {kept : List RecordedEvent} {f rest : Feed} {e : Failure}
      (h : f.pull = (some (.error e), rest)) : Drains kept f (.error e)
  | more {kept : List RecordedEvent} {f rest : Feed} {event : RecordedEvent}
      {result : Except Failure (List RecordedEvent)} (h : f.pull = (some (.ok event), rest))
      (hRest : Drains (kept ++ [event]) rest result) : Drains kept f result

section Rows
variable (typePrefix : String)

theorem collectRows_cons (row : Except TransportFailure Json) (rows : Rows) :
    collectRows typePrefix (row :: rows) =
      (item typePrefix row).bind fun event => (collectRows typePrefix rows).map (event :: ·) := by
  rw [collectRows]
  cases item typePrefix row with
  | error e => rfl
  | ok event =>
      cases collectRows typePrefix rows with
      | error e => rfl
      | ok events => rfl

/-- Rows that decode come before whatever is collected from the others. -/
theorem collectRows_append {before : Rows} {events : List RecordedEvent}
    (h : before.map (item typePrefix) = events.map .ok) (rows : Rows) :
    collectRows typePrefix (before ++ rows) = (collectRows typePrefix rows).map (events ++ ·) := by
  induction before generalizing events with
  | nil =>
      obtain rfl : events = [] := List.map_eq_nil_iff.1 h.symm
      exact (congrFun Except.map_id _).symm
  | cons row before ih =>
      obtain ⟨event, events, rfl, hRow, hBefore⟩ := List.map_eq_cons_iff.1 h.symm
      rw [List.cons_append, collectRows_cons, ← hRow, ih hBefore.symm]
      cases collectRows typePrefix rows with
      | error e => rfl
      | ok others => rfl

/-- Either all rows decode, or there is a first one that does not. -/
theorem decoded_or_first_fails (rows : Rows) :
    (∃ events : List RecordedEvent, rows.map (item typePrefix) = events.map .ok) ∨
      ∃ (before : Rows) (row : Except TransportFailure Json) (later : Rows)
        (events : List RecordedEvent) (e : Failure), rows = before ++ row :: later ∧
          before.map (item typePrefix) = events.map .ok ∧ item typePrefix row = .error e := by
  induction rows with
  | nil => exact Or.inl ⟨[], rfl⟩
  | cons row rows ih =>
      cases hRow : item typePrefix row with
      | error e => exact Or.inr ⟨[], row, rows, [], e, rfl, rfl, hRow⟩
      | ok event =>
          rcases ih with ⟨events, hRows⟩ | ⟨before, failing, later, events, e, rfl, hBefore, hFails⟩
          · exact Or.inl ⟨event :: events, congrArg₂ List.cons hRow hRows⟩
          · exact Or.inr ⟨row :: before, failing, later, event :: events, e, rfl,
              congrArg₂ List.cons hRow hBefore, hFails⟩

end Rows

variable (f : Feed)

theorem collect_of_items {events : List RecordedEvent} (h : f.items = events.map .ok) :
    f.collect = .ok events := by
  have collected := collectRows_append f.typePrefix h []
  rw [List.append_nil] at collected
  rw [collect, collected]
  exact congrArg Except.ok (List.append_nil events)

/-- The rows behind the first one that fails do not matter. -/
theorem collect_of_first_fails {before : Rows} {row : Except TransportFailure Json} {later : Rows}
    {events : List RecordedEvent} {e : Failure} (hRows : f.rows = before ++ row :: later)
    (hBefore : before.map (item f.typePrefix) = events.map .ok)
    (hRow : item f.typePrefix row = .error e) : f.collect = .error e := by
  rw [collect, hRows, collectRows_append f.typePrefix hBefore, collectRows_cons, hRow]
  rfl

theorem collect_eq_ok_iff (events : List RecordedEvent) :
    f.collect = .ok events ↔ f.items = events.map .ok := by
  refine ⟨?_, f.collect_of_items⟩
  intro h
  rcases decoded_or_first_fails f.typePrefix f.rows with
    ⟨found, hItems⟩ | ⟨before, row, later, found, e, hRows, hBefore, hRow⟩
  · obtain rfl := Except.ok.inj (h.symm.trans (f.collect_of_items hItems))
    exact hItems
  · cases h.symm.trans (f.collect_of_first_fails hRows hBefore hRow)

theorem collect_eq_error_iff (e : Failure) :
    f.collect = .error e ↔
      ∃ (before : Rows) (row : Except TransportFailure Json) (later : Rows)
        (events : List RecordedEvent), f.rows = before ++ row :: later ∧
          before.map (item f.typePrefix) = events.map .ok ∧ item f.typePrefix row = .error e := by
  constructor
  · intro h
    rcases decoded_or_first_fails f.typePrefix f.rows with
      ⟨found, hItems⟩ | ⟨before, row, later, found, e', hRows, hBefore, hRow⟩
    · cases h.symm.trans (f.collect_of_items hItems)
    · obtain rfl := Except.error.inj (h.symm.trans (f.collect_of_first_fails hRows hBefore hRow))
      exact ⟨before, row, later, found, hRows, hBefore, hRow⟩
  · rintro ⟨before, row, later, events, hRows, hBefore, hRow⟩
    exact f.collect_of_first_fails hRows hBefore hRow

theorem drains_collect (kept : List RecordedEvent) : Drains kept f (f.collect.map (kept ++ ·)) := by
  obtain ⟨rows, typePrefix⟩ := f
  -- For all events kept before, since each pull that goes on keeps one more.
  induction rows generalizing kept with
  | nil =>
      have result : (Feed.mk [] typePrefix).collect.map (kept ++ ·) = .ok kept :=
        congrArg Except.ok (List.append_nil kept)
      rw [result]
      exact .ended rfl
  | cons row rows ih =>
      cases hRow : item typePrefix row with
      | error e =>
          rw [collect, collectRows_cons, hRow]
          apply Drains.failed
          rw [pull_cons, hRow]
      | ok event =>
          have pulled : pull ⟨row :: rows, typePrefix⟩ = (some (.ok event), ⟨rows, typePrefix⟩) := by
            rw [pull_cons, hRow]
          have result : (Feed.mk (row :: rows) typePrefix).collect.map (kept ++ ·) =
              (Feed.mk rows typePrefix).collect.map (kept ++ [event] ++ ·) := by
            rw [collect, collect, collectRows_cons, hRow]
            cases collectRows typePrefix rows with
            | error e => rfl
            | ok events => exact congrArg Except.ok (List.append_cons kept event events)
          rw [result]
          exact .more pulled (ih (kept ++ [event]))

theorem Drains.unique {kept : List RecordedEvent} {f : Feed}
    {left right : Except Failure (List RecordedEvent)} (hLeft : Drains kept f left)
    (hRight : Drains kept f right) : left = right := by
  -- A pull has one outcome, so both runs of the loop end in the same way or go on alike.
  induction hLeft with
  | ended h =>
      cases hRight with
      | ended _ => rfl
      | failed h' => cases h.symm.trans h'
      | more h' _ => cases h.symm.trans h'
  | failed h =>
      cases hRight with
      | ended h' => cases h.symm.trans h'
      | failed h' => cases h.symm.trans h'; rfl
      | more h' _ => cases h.symm.trans h'
  | more h _ ih =>
      cases hRight with
      | ended h' => cases h.symm.trans h'
      | failed h' => cases h.symm.trans h'
      | more h' hRest => cases h.symm.trans h'; exact ih hRest

theorem drains_iff (result : Except Failure (List RecordedEvent)) :
    Drains [] f result ↔ f.collect = result := by
  have drained := f.drains_collect []
  have whole : f.collect.map ([] ++ ·) = f.collect := congrFun Except.map_id _
  rw [whole] at drained
  constructor
  · exact drained.unique
  · rintro rfl
    exact drained

/-! ## The ways of consuming a feed -/

theorem first_of_rows {row : Except TransportFailure Json} {later : Rows}
    (h : f.rows = row :: later) : f.first = (item f.typePrefix row).map some := by
  obtain ⟨rows, typePrefix⟩ := f
  obtain rfl : rows = row :: later := h
  rw [first, pull_cons]
  cases item typePrefix row with
  | error e => rfl
  | ok event => rfl

/-- Whatever rows a feed has, and whatever its namespace is, each pull yields what the row in its turn
is: the decoded row, its fault, or the cause why the row did not come.  An error does not end the
feed; the end comes after the last row and stays, and the size hint counts the rows still to come.
Collecting, which is the loop of such pulls, results in all events if all rows decode, and otherwise
in the error of the first row that fails, whatever comes behind it.  The first event depends on the
first row alone. -/
theorem rows_are_consumed_in_turn :
    (∀ k,
      (∀ row, f.rows[k]? = some (.ok row) → (f.after k).pull.1 =
        some ((Row.decode f.typePrefix row).mapError Row.Fault.toFailure)) ∧
      (∀ cause, f.rows[k]? = some (.error cause) →
        (f.after k).pull.1 = some (.error (.transport cause))) ∧
      ((f.after k).pull.1 = none ↔ f.rows.length ≤ k) ∧
      (f.after k).sizeHint = (f.rows.length - k, some (f.rows.length - k))) ∧
    (∀ result, Drains [] f result ↔ f.collect = result) ∧
    (∀ events, f.collect = .ok events ↔ f.rows.map (item f.typePrefix) = events.map .ok) ∧
    (∀ e, f.collect = .error e ↔
      ∃ (before : Rows) (row : Except TransportFailure Json) (later : Rows)
        (events : List RecordedEvent), f.rows = before ++ row :: later ∧
          before.map (item f.typePrefix) = events.map .ok ∧ item f.typePrefix row = .error e) ∧
    (f.rows = [] → f.first = .ok none) ∧
    ∀ row later, f.rows = row :: later → f.first = (item f.typePrefix row).map some := by
  refine ⟨?_, f.drains_iff, f.collect_eq_ok_iff, f.collect_eq_error_iff, ?_,
    fun _ _ => f.first_of_rows⟩
  · intro k
    have pulled : (f.after k).pull.1 = f.rows[k]?.map (item f.typePrefix) := by
      rw [pull_after, items, List.getElem?_map]
    refine ⟨?_, ?_, ?_, ?_⟩
    · intro row hRow
      rw [pulled, hRow]
      rfl
    · intro cause hRow
      rw [pulled, hRow]
      rfl
    · rw [pulled, Option.map_eq_none_iff, List.getElem?_eq_none_iff]
    · rw [sizeHint, remaining_after, remaining]
  · intro hRows
    rw [first, pull, hRows]

/-! A feed with a row that is lost on its way, one that is not an event, and one that is. -/

namespace Broken

def lost : Except TransportFailure Json := .error (.connectionFailed "reset")

def foreign : Json := .array []

def sale : Json :=
  .object [("position", .ofNat 3), ("recorded_at", .string "2024-05-01 10:00:00"),
    ("type", .string "ns.sold")]

def feed : Feed := ⟨[lost, .ok foreign, .ok sale], "ns."⟩

/-- The third pull yields the event behind the two errors, the fourth one the end; collecting ends at
the first error. -/
theorem broken_feed_is_consumed :
    (feed.after 1).pull.1 = some (.error (.decode ("unexpected record shape: " ++
      "invalid length 0, expected struct ProjectedRecord with 6 elements"))) ∧
    ((feed.after 2).pull.1.bind Except.toOption).map (·.position.value) = some 3 ∧
    (feed.after 3).pull.1 = none ∧ (feed.after 1).sizeHint = (2, some 2) ∧
    feed.collect = .error (.transport (.connectionFailed "reset")) ∧
    feed.first = .error (.transport (.connectionFailed "reset")) := by
  obtain ⟨pulled, -, -, failed, -, first⟩ := rows_are_consumed_in_turn feed
  refine ⟨(pulled 1).1 foreign rfl, ?_, (pulled 3).2.2.1.2 (Nat.le_refl 3), (pulled 1).2.2.2,
    (failed _).2 ⟨[], lost, _, [], rfl, rfl, rfl⟩, first lost _ rfl⟩
  rw [(pulled 2).1 sale rfl]
  rfl

end Broken
end BoundaryLog.Feed
