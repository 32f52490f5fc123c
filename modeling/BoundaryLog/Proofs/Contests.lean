import BoundaryLog.Proofs.Histories

/-! # Of appends with one condition the first one wins

Several appends carry the same condition, and others come in between that ask nothing and add
nothing selected.  The condition holds in the beginning.  It goes on holding until the first of the
contenders writes a selected event, behind the expected position, and from then on it never holds
again. -/
set_option autoImplicit false
namespace BoundaryLog

/-- What an append may expect of a log, and what it is told when the log is no longer so.  An
expected position must be one of the log. -/
inductive Query.Expects (typePrefix : String) (q : Query) (records : List Record) :
    Expectation → Conflict → Prop
  | none (unselected : ∀ r ∈ records, ¬ q.Selects typePrefix r) :
      Expects typePrefix q records .none .matchingEventsExist
  | exactly (p : Position) (reached : p.value ≤ records.length)
      (unselected : ∀ entry ∈ records.zipIdx 1, p.value < entry.2 → ¬ q.Selects typePrefix entry.1) :
      Expects typePrefix q records (.exactly p) (.matchingEventsExistAfter p)

namespace Append

/-- An append of events in order, at least one of them admitted, under the common condition. -/
structure Competes (typePrefix : String) (boundary : Boundary) (a : Append) : Prop where
  typePrefix_eq : a.gateway.config.typePrefix = typePrefix
  boundary_eq : a.boundary = boundary
  typed : ∀ e ∈ a.events, e.type ≠ ""
  admitted : ∃ e ∈ a.events, boundary.query.Admits e

/-- An append without a condition, of events whose records are not selected. -/
structure StandsBy (typePrefix : String) (q : Query) (a : Append) : Prop where
  unconditional : a.boundary.expected = .any
  unselected : ∀ e ∈ a.events, ∀ t,
    ¬ q.Selects typePrefix (e.record a.gateway.config.source a.gateway.config.typePrefix t)

end Append

namespace Boundary

/-- The common condition holds, and no further event could be at an expected position. -/
structure Open (typePrefix : String) (boundary : Boundary) (records : List Record) : Prop where
  uncrossed : ¬ boundary.Crossed typePrefix records
  later : ∀ place, records.length < place → boundary.expected.Forbids place

theorem open_of_expects {typePrefix : String} {q : Query} {records : List Record}
    {expected : Expectation} {conflict : Conflict}
    (h : q.Expects typePrefix records expected conflict) :
    Open typePrefix ⟨q, expected⟩ records := by
  cases h with
  | none unselected =>
      constructor
      · rintro ⟨entry, hEntry, -⟩
        obtain ⟨hMem, hSelects⟩ := (q.mem_selected_iff typePrefix records entry).1 hEntry
        exact unselected entry.1 (List.fst_mem_of_mem_zipIdx hMem) hSelects
      · intro place hPlace
        trivial
  | exactly p reached unselected =>
      constructor
      · rintro ⟨entry, hEntry, hLater⟩
        obtain ⟨hMem, hSelects⟩ := (q.mem_selected_iff typePrefix records entry).1 hEntry
        exact unselected entry hMem hLater hSelects
      · intro place hPlace
        exact Nat.lt_of_le_of_lt reached hPlace

/-- A condition that has been violated stays so. -/
theorem crossed_of_prefix {typePrefix : String} {boundary : Boundary} {old new : List Record}
    (h : boundary.Crossed typePrefix old) : boundary.Crossed typePrefix (old ++ new) := by
  obtain ⟨entry, hEntry, hForbids⟩ := h
  refine ⟨entry, ?_, hForbids⟩
  rw [Query.selected_append]
  exact List.mem_append_left _ hEntry

theorem Open.append {typePrefix : String} {boundary : Boundary} {old new : List Record}
    (h : boundary.Open typePrefix old) (hNew : ∀ r ∈ new, ¬ boundary.query.Selects typePrefix r) :
    boundary.Open typePrefix (old ++ new) := by
  constructor
  · intro hCrossed
    rcases (boundary.crossed_append typePrefix old new h.later).1 hCrossed with hOld | ⟨r, hr, hSelects⟩
    · exact h.uncrossed hOld
    · exact hNew r hr hSelects
  · intro place hPlace
    rw [List.length_append] at hPlace
    exact h.later place (by omega)

end Boundary

namespace Append
section Contest
variable {typePrefix : String} {boundary : Boundary} (hAny : boundary.expected ≠ .any)
  (hFault : boundary.query.fault? typePrefix = none) {a : Append} {d : Deployment MemoryLog}

include hAny hFault in
/-- A contender is accepted exactly while the condition holds. -/
theorem Competes.answer (h : a.Competes typePrefix boundary) :
    (a.run d).1.answer =
      if boundary.Crossed typePrefix d.backend.records then .error boundary.expected.violation.1
      else .ok () := by
  obtain ⟨e, he, -⟩ := h.admitted
  obtain ⟨rfl, rfl⟩ := And.intro h.typePrefix_eq h.boundary_eq
  rw [answer_run, a.gateway.verdict_of_typed a.events a.boundary (List.ne_nil_of_mem he) h.typed,
    a.boundary.verdict_of_no_fault _ _ hAny hFault]

/-- The batch of a contender holds a selected record. -/
theorem Competes.selects (h : a.Competes typePrefix boundary) (d : Deployment MemoryLog) :
    ∃ r ∈ (a.run d).1.deposits.map Deposit.record, boundary.query.Selects typePrefix r := by
  obtain ⟨e, he, admitted⟩ := h.admitted
  rw [← a.map_event_run d] at he
  obtain ⟨x, hx, rfl⟩ := List.mem_map.1 he
  refine ⟨x.record, List.mem_map_of_mem hx, ?_⟩
  rw [(a.record_of_mem_run d x hx).2, h.typePrefix_eq, Query.selects_record_iff]
  exact admitted

/-- What others add is not selected. -/
theorem StandsBy.accepted (h : a.StandsBy typePrefix boundary.query) (d : Deployment MemoryLog) :
    ∀ r ∈ (a.run d).1.accepted.map Deposit.record, ¬ boundary.query.Selects typePrefix r := by
  intro r hr
  obtain ⟨x, hx, rfl⟩ := List.mem_map.1 hr
  obtain ⟨hEvent, hRecord⟩ := a.record_of_mem_run d x (Turn.mem_deposits_of_mem_accepted _ x hx)
  rw [hRecord]
  exact h.unselected x.event hEvent x.reading

include hAny hFault in
/-- After the condition has been violated, every contender is refused. -/
theorem answer_of_crossed (appends : List Append) (d : Deployment MemoryLog)
    (hCrossed : boundary.Crossed typePrefix d.backend.records) :
    ∀ turn ∈ (runAll appends d).1, turn.append.Competes typePrefix boundary →
      turn.answer = .error boundary.expected.violation.1 := by
  induction appends generalizing d with
  | nil => exact nofun
  | cons a appends ih =>
      intro turn hTurn hCompetes
      rcases List.mem_cons.1 hTurn with rfl | hLater
      · have answer := Competes.answer hAny hFault (d := d) hCompetes
        rw [if_pos hCrossed] at answer
        exact answer
      · apply ih (a.run d).2 _ turn hLater hCompetes
        rw [(a.records_run d).1]
        exact Boundary.crossed_of_prefix hCrossed

include hAny hFault in
/-- While the condition holds, the first contender is accepted, and it is the last one. -/
theorem exists_winner (appends : List Append) (d : Deployment MemoryLog)
    (hOpen : boundary.Open typePrefix d.backend.records)
    (hEach : ∀ a ∈ appends, a.Competes typePrefix boundary ∨ a.StandsBy typePrefix boundary.query)
    (hSome : ∃ a ∈ appends, a.Competes typePrefix boundary) :
    ∃ before winner after, (runAll appends d).1 = before ++ winner :: after ∧
      (∀ turn ∈ before, turn.append.StandsBy typePrefix boundary.query) ∧
      winner.append.Competes typePrefix boundary ∧ winner.answer = .ok () ∧
      ∀ turn ∈ after, turn.append.Competes typePrefix boundary →
        turn.answer = .error boundary.expected.violation.1 := by
  induction appends generalizing d with
  | nil =>
      obtain ⟨a, ha, -⟩ := hSome
      cases ha
  | cons a appends ih =>
      have records := (a.records_run d).1
      by_cases hCompetes : a.Competes typePrefix boundary
      · have answer := Competes.answer hAny hFault (d := d) hCompetes
        rw [if_neg hOpen.uncrossed] at answer
        refine ⟨[], (a.run d).1, (runAll appends (a.run d).2).1, rfl, nofun, hCompetes, answer, ?_⟩
        apply answer_of_crossed hAny hFault
        rw [records, Turn.accepted, answer]
        exact (boundary.crossed_append typePrefix _ _ hOpen.later).2 (Or.inr (hCompetes.selects d))
      · have hStands := (hEach a List.mem_cons_self).resolve_left hCompetes
        have next : boundary.Open typePrefix (a.run d).2.backend.records := by
          rw [records]
          exact hOpen.append (hStands.accepted d)
        have others : ∃ other ∈ appends, other.Competes typePrefix boundary := by
          obtain ⟨other, hOther, competes⟩ := hSome
          rcases List.mem_cons.1 hOther with rfl | hLater
          · exact absurd competes hCompetes
          · exact ⟨other, hLater, competes⟩
        obtain ⟨before, winner, after, hTurns, hBefore, hWinner⟩ := ih (a.run d).2 next
          (fun other hOther => hEach other (List.mem_cons_of_mem _ hOther)) others
        refine ⟨(a.run d).1 :: before, winner, after, congrArg (List.cons _) hTurns, ?_, hWinner⟩
        intro turn hTurn
        rcases List.mem_cons.1 hTurn with rfl | hLater
        · exact hStands
        · exact hBefore turn hLater

end Contest
end Append

/-- Of any number of appends under one condition that holds in the beginning, whatever comes in
between without a condition and without a selected event, exactly the first one is accepted.  All
others are told of the conflict, and of all their batches the log has only that of the first one,
once and in one piece. -/
theorem first_append_wins (typePrefix : String) (q : Query) (traversal : Traversal) (text : String)
    (hText : q.scanText typePrefix traversal = .ok text) (expected : Expectation)
    (conflict : Conflict) (start : Deployment MemoryLog)
    (hStart : q.Expects typePrefix start.backend.records expected conflict) (appends : List Append)
    (hEach : ∀ a ∈ appends, a.Competes typePrefix ⟨q, expected⟩ ∨ a.StandsBy typePrefix q)
    (hSome : ∃ a ∈ appends, a.Competes typePrefix ⟨q, expected⟩) :
    ∃ before winner after, (Append.runAll appends start).1 = before ++ winner :: after ∧
      (before ++ winner :: after).map Turn.append = appends ∧
      (∀ turn ∈ before, turn.append.StandsBy typePrefix q) ∧
      winner.append.Competes typePrefix ⟨q, expected⟩ ∧ winner.answer = .ok () ∧
      (∀ turn ∈ after, turn.append.Competes typePrefix ⟨q, expected⟩ →
        turn.answer = .error (.conflict conflict) ∧ turn.accepted = []) ∧
      winner.deposits.map Deposit.event = winner.append.events ∧
      (Append.runAll appends start).2.backend.records = start.backend.records ++
        (before.flatMap Turn.accepted).map Deposit.record ++ winner.deposits.map Deposit.record ++
        (after.flatMap Turn.accepted).map Deposit.record := by
  obtain ⟨hFault, -⟩ := q.scanText_of_scanText typePrefix traversal traversal text hText
  obtain ⟨hAny, violation⟩ : expected ≠ .any ∧ expected.violation.1 = .conflict conflict := by
    cases hStart <;> exact ⟨nofun, rfl⟩
  let boundary : Boundary := ⟨q, expected⟩
  have hExpected : boundary.expected ≠ .any := hAny
  obtain ⟨before, winner, after, hTurns, hBefore, hWinner, hOk, hAfter⟩ :=
    Append.exists_winner hExpected hFault appends start (Boundary.open_of_expects hStart) hEach hSome
  obtain ⟨inOrder, whole⟩ := Append.turns_runAll appends start
  have records := (Append.records_runAll appends start).1
  have accepted : winner.accepted = winner.deposits := by rw [Turn.accepted, hOk]
  rw [hTurns] at inOrder whole records
  refine ⟨before, winner, after, hTurns, inOrder, hBefore, hWinner, hOk, ?_, ?_, ?_⟩
  · intro turn hTurn hCompetes
    have refused := hAfter turn hTurn hCompetes
    rw [violation] at refused
    exact ⟨refused, by rw [Turn.accepted, refused]⟩
  · exact whole winner (List.mem_append_right _ List.mem_cons_self)
  · rw [records, List.flatMap_append, List.flatMap_cons, accepted]
    simp only [List.map_append, List.append_assoc]

/-! Two bids on the first one of a lot, and a visitor between them. -/

namespace Auction

def house : Gateway := ⟨.default, 0⟩

def bid (type : String) : Event := (Event.new type .null).setTags ["lot:1"]

def lot : Query := .criteria [Criterion.new.requireTags ["lot:1"]]

def noon : Instant := ⟨43200, 0, by decide, by decide, two_nanosPerSecond_pos⟩

def start : Deployment MemoryLog where
  backend := ⟨[(bid "opened").record house.config.source house.config.typePrefix noon], [], none⟩
  timepieces := fun _ => .fixed noon
  journal := []

def raised : Append := ⟨house, [Event.new "greeted" .null, bid "raised"], ⟨lot, .exactly .first⟩⟩

def visited : Append := ⟨house, [Event.new "visited" .null], .unchecked⟩

theorem first_bid_wins :
    ∃ before winner after,
      (Append.runAll [raised, visited, raised] start).1 = before ++ winner :: after ∧
        winner.answer = .ok () ∧ ∀ turn ∈ after, turn.append = raised →
          turn.answer = .error (.conflict (.matchingEventsExistAfter .first)) := by
  have hText : lot.scanText house.config.typePrefix .full =
      .ok (lot.scanProgram house.config.typePrefix .full).written :=
    (lot.scanText_eq_ok_iff _ _ _).2 ⟨rfl, rfl⟩
  have bidder : raised.Competes house.config.typePrefix ⟨lot, .exactly .first⟩ := by
    exact ⟨rfl, rfl, by decide, bid "raised", by decide, by decide⟩
  have visitor : visited.StandsBy house.config.typePrefix lot := by
    refine ⟨rfl, ?_⟩
    intro e he t
    rw [List.mem_singleton.1 he]
    exact mt (lot.selects_record_iff _ house.config.typePrefix t _).1 (by decide)
  have expects : lot.Expects house.config.typePrefix start.backend.records (.exactly .first)
      (.matchingEventsExistAfter .first) := .exactly .first (Nat.le_refl 1) (by decide)
  obtain ⟨before, winner, after, hTurns, -, -, -, hOk, refused, -⟩ :=
    first_append_wins house.config.typePrefix lot .full _ hText (.exactly .first) _ start expects
      [raised, visited, raised] (by
        intro a ha
        simp only [List.mem_cons, List.not_mem_nil, or_false] at ha
        rcases ha with rfl | rfl | rfl
        · exact Or.inl bidder
        · exact Or.inr visitor
        · exact Or.inl bidder)
      ⟨raised, List.mem_cons_self, bidder⟩
  refine ⟨before, winner, after, hTurns, hOk, ?_⟩
  intro turn hTurn hRaised
  exact (refused turn hTurn (hRaised ▸ bidder)).1

end Auction
end BoundaryLog
