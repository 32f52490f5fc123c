import BoundaryLog.Proofs.Clients

/-! # A boundary holds under any interleaving

A client looks at the last selected event, others go on working, and then the client appends under
the condition that it still is the last one.  Logs only grow, so a later selected event is one that
has been appended since, and the position of the last event tells the two apart. -/
set_option autoImplicit false
namespace BoundaryLog

/-! ## The expectation of a client that has seen the last event -/

/-- Whether the expectation says which event is the last selected one of a log. -/
def Boundary.UpToDate (typePrefix : String) (boundary : Boundary) (records : List Record) : Prop :=
  match boundary.expected with
  | .any => False
  | .none => boundary.query.selected typePrefix records = []
  | .exactly p => ∃ r, (boundary.query.selected typePrefix records).getLast? = some (r, p.value)

/-- An expectation that was up to date is not contradicted yet, but every further event would. -/
theorem Boundary.UpToDate.uncrossed {typePrefix : String} {boundary : Boundary}
    {records : List Record} (h : boundary.UpToDate typePrefix records) :
    boundary.expected ≠ .any ∧ ¬ boundary.Crossed typePrefix records ∧
      ∀ place, records.length < place → boundary.expected.Forbids place := by
  obtain ⟨query, expected⟩ := boundary
  cases expected with
  | any => exact h.elim
  | none =>
      have nothing : query.selected typePrefix records = [] := h
      refine ⟨nofun, ?_, fun _ _ => trivial⟩
      rintro ⟨entry, hEntry, -⟩
      rw [nothing] at hEntry
      cases hEntry
  | exactly p =>
      obtain ⟨last, hLast⟩ : ∃ r, (query.selected typePrefix records).getLast? = some (r, p.value) := h
      obtain ⟨within, latest⟩ := query.le_of_getLast?_selected typePrefix records _ hLast
      refine ⟨nofun, ?_, fun place hPlace => Nat.lt_of_le_of_lt within hPlace⟩
      rintro ⟨entry, hEntry, hLater⟩
      exact absurd (latest entry hEntry) (Nat.not_le.2 hLater)

/-! ## The guarantee -/

def Traversal.lastFirst : Traversal := ⟨none, true, some .one⟩

/-- What a client expects that has seen an event as the last one, or none. -/
def Expectation.afterSeeing : Option RecordedEvent → Expectation
  | .none => .none
  | .some e => .exactly e.position

def Conflict.afterSeeing : Option RecordedEvent → Conflict
  | none => .matchingEventsExist
  | some e => .matchingEventsExistAfter e.position

namespace Gateway
variable (g : Gateway) (q : Query) (d : Deployment MemoryLog) (hSound : d.backend.Sound)
  (hLength : d.backend.records.length < countBound)
include hSound hLength

/-- The first event of a read backwards is the last one of the log. -/
theorem readFirst_spec (text : String)
    (hText : q.scanText g.config.typePrefix .lastFirst = .ok text) :
    ∃ seen, g.readFirst q .lastFirst d = .ok seen ∧
      Boundary.UpToDate g.config.typePrefix ⟨q, .afterSeeing seen⟩ d.backend.records := by
  have answer := (g.read_spec q .lastFirst d text hText hSound.unheld).1
  have rows : q.rows g.config.typePrefix .lastFirst d.backend.records =
      (q.selected g.config.typePrefix d.backend.records).getLast?.toList.map
        fun entry => entry.1.envelope entry.2 := by
    rw [Query.rows, Traversal.lastFirst, Query.traverse_backwards_one]
  cases hLast : (q.selected g.config.typePrefix d.backend.records).getLast? with
  | none =>
      rw [hLast] at rows
      refine ⟨none, ?_, List.getLast?_eq_none_iff.1 hLast⟩
      rw [readFirst, answer, rows]
      rfl
  | some entry =>
      have hMem := (q.mem_selected_iff _ _ _).1 (List.mem_of_getLast? hLast)
      obtain ⟨e, hDecode, hPosition⟩ :=
        hSound.decode_entry g.config.typePrefix hLength entry hMem.1
      rw [hLast] at rows
      refine ⟨some e, ?_, entry.1, ?_⟩
      · have first : Feed.item g.config.typePrefix (.ok (entry.1.envelope entry.2)) = .ok e := by
          rw [Feed.item, hDecode]
          rfl
        rw [readFirst, answer, rows]
        simp only [Except.bind, Option.toList_some, List.map_cons, List.map_nil, Feed.first,
          Feed.pull, first]
      · rw [hPosition]
        exact hLast

end Gateway

/-- An append within a boundary that was up to date succeeds unless selected events have come
since. -/
theorem Gateway.answers_of_upToDate (g : Gateway) (events : List Event) (hEvents : events ≠ [])
    (hTypes : ∀ e ∈ events, e.type ≠ "") (boundary : Boundary)
    (hFault : boundary.query.fault? g.config.typePrefix = none) (d : Deployment MemoryLog)
    (old new : List Record) (hRecords : d.backend.records = old ++ new)
    (hUpToDate : boundary.UpToDate g.config.typePrefix old) :
    g.Answers events boundary d
      (if ∃ r ∈ new, boundary.query.Selects g.config.typePrefix r then
        .error boundary.expected.violation.1
      else .ok ()) := by
  have answers := g.append_answers events boundary d
  obtain ⟨notAny, uncrossed, later⟩ := hUpToDate.uncrossed
  have crossed : boundary.Crossed g.config.typePrefix (old ++ new) ↔
      ∃ r ∈ new, boundary.query.Selects g.config.typePrefix r := by
    rw [boundary.crossed_append g.config.typePrefix old new later, or_iff_right uncrossed]
  rw [g.verdict_of_typed events boundary hEvents hTypes,
    boundary.verdict_of_no_fault _ _ notAny hFault, hRecords] at answers
  simp only [crossed] at answers
  exact answers

/-- A full read shows the same events as before, if no selected ones have come since. -/
theorem Gateway.readAll_of_none_new (reader writer : Gateway)
    (hPrefix : writer.config.typePrefix = reader.config.typePrefix) (q : Query) (text : String)
    (hText : q.scanText reader.config.typePrefix .full = .ok text)
    (past present : Deployment MemoryLog) (hPast : past.backend.Sound)
    (hPresent : present.backend.Sound) (hLength : past.backend.records.length < countBound)
    (new : List Record) (hNew : present.backend.records = past.backend.records ++ new)
    (hNone : ∀ r ∈ new, ¬ q.Selects reader.config.typePrefix r) :
    ∃ found, reader.readAll q .full past = .ok found ∧ writer.readAll q .full present = .ok found := by
  obtain ⟨found, hFound, -⟩ := reader.readAll_shows q .full past hPast hLength text hText
  have sameRows : q.rows reader.config.typePrefix .full present.backend.records =
      q.rows reader.config.typePrefix .full past.backend.records := by
    rw [hNew, Query.rows, Query.rows, q.traverse_full_of_selected_eq _ _ _
      (q.selected_append_of_none _ _ _ hNone)]
  have pastAnswer := (reader.read_spec q .full past text hText hPast.unheld).1
  have presentAnswer := (writer.read_spec q .full present text (hPrefix ▸ hText) hPresent.unheld).1
  rw [hPrefix, sameRows, ← pastAnswer] at presentAnswer
  refine ⟨found, hFound, ?_⟩
  unfold readAll at hFound ⊢
  rw [presentAnswer]
  exact hFound

/-- A client reads the last selected event.  Other clients do whatever they want, in any order.
Then the client appends, expecting that the event still is the last one.  This succeeds exactly if
no selected event has been appended since; then a full read just before would have shown the events
that a full read showed in the beginning.  If it fails, the client learns of a conflict with what it
has seen, and the log is left alone. -/
theorem boundary_holds_under_interleaving (start : Deployment MemoryLog)
    (hStart : start.backend = .empty) (before between : List Call) (reader writer : Gateway)
    (hPrefix : writer.config.typePrefix = reader.config.typePrefix) (q : Query) (text : String)
    (hText : q.scanText reader.config.typePrefix .lastFirst = .ok text)
    (hLength : (Call.runAll before start).backend.records.length < countBound)
    (events : List Event) (hEvents : events ≠ []) (hTypes : ∀ e ∈ events, e.type ≠ "") :
    let past := Call.runAll before start
    let present := Call.runAll between (reader.read q .lastFirst past).2
    ∃ seen new, reader.readFirst q .lastFirst past = .ok seen ∧
      present.backend.records = past.backend.records ++ new ∧
      let outcome := writer.append events ⟨q, .afterSeeing seen⟩ present
      (outcome.1 = .ok () ↔ ∀ r ∈ new, ¬ q.Selects reader.config.typePrefix r) ∧
      (outcome.1 = .ok () → ∃ found,
        reader.readAll q .full past = .ok found ∧ writer.readAll q .full present = .ok found) ∧
      ∀ e, outcome.1 = .error e →
        e = .conflict (.afterSeeing seen) ∧ outcome.2.backend.records = present.backend.records := by
  intro past present
  obtain ⟨pastSound, -⟩ := Call.sound_runAll before start (hStart ▸ Call.sound_empty)
  obtain ⟨seen, hSeen, hUpToDate⟩ := reader.readFirst_spec q past pastSound hLength text hText
  obtain ⟨readSound, readRecords⟩ := reader.sound_read q .lastFirst past pastSound
  obtain ⟨presentSound, new, hNew⟩ := Call.sound_runAll between _ readSound
  rw [readRecords] at hNew
  obtain ⟨hFault, fullText, hFull⟩ := q.scanText_of_scanText _ _ .full text hText
  obtain ⟨answer, records, -⟩ := writer.answers_of_upToDate events hEvents hTypes
    ⟨q, .afterSeeing seen⟩ (hPrefix ▸ hFault) present past.backend.records new hNew.symm
    (hPrefix ▸ hUpToDate)
  rw [hPrefix] at answer records
  have violation : (Expectation.afterSeeing seen).violation.1 = .conflict (.afterSeeing seen) := by
    cases seen <;> rfl
  refine ⟨seen, new, hSeen, hNew.symm, ?_⟩
  by_cases hSome : ∃ r ∈ new, q.Selects reader.config.typePrefix r
  · -- a selected event has come, so the append is refused
    rw [if_pos hSome, violation] at answer records
    refine ⟨?_, ?_, ?_⟩
    · rw [answer]
      constructor
      · intro h
        cases h
      · intro h
        obtain ⟨r, hr, hSelects⟩ := hSome
        exact absurd hSelects (h r hr)
    · intro h
      rw [answer] at h
      cases h
    · intro e h
      rw [answer] at h
      cases h
      exact ⟨rfl, records.trans (List.append_nil _)⟩
  · -- nothing selected has come, so the append goes through and the selected events are the same
    have hNone : ∀ r ∈ new, ¬ q.Selects reader.config.typePrefix r :=
      fun r hr hSelects => hSome ⟨r, hr, hSelects⟩
    rw [if_neg hSome] at answer
    refine ⟨?_, ?_, ?_⟩
    · rw [answer]
      exact ⟨fun _ => hNone, fun _ => rfl⟩
    · intro _
      exact reader.readAll_of_none_new writer hPrefix q fullText hFull past present pastSound
        presentSound hLength new hNew.symm hNone
    · intro e h
      rw [answer] at h
      cases h

/-! Two clients of one store: the rival appends an event with the tag of the first one. -/

namespace Rivals

def epoch : Instant := ⟨0, 0, by decide, by decide, by decide⟩

def start : Deployment MemoryLog := ⟨.empty, fun _ => .fixed epoch, []⟩

def client : Gateway := ⟨.default, 0⟩

def rival : Gateway := ⟨⟨"https://rival.events", "other."⟩, 1⟩

def tagged (type : String) : Event := (Event.new type .null).setTags ["account:1"]

def account : Query := .criteria [Criterion.new.requireTags ["account:1"]]

theorem boundary_holds_against_rival :
    let past := Call.runAll [.append client [tagged "opened"] .unchecked] start
    let present := Call.runAll [.append rival [tagged "closed"] .unchecked]
      (client.read account .lastFirst past).2
    ∃ seen, client.readFirst account .lastFirst past = .ok seen ∧
      (client.append [tagged "charged"] ⟨account, .afterSeeing seen⟩ present).1 ≠
        .ok () := by
  intro past present
  have hText : account.scanText client.config.typePrefix .lastFirst =
      .ok (account.scanProgram client.config.typePrefix .lastFirst).written := by
    rw [Query.scanText_eq, Query.orFault_eq_ok_iff]
    exact ⟨rfl, rfl⟩
  obtain ⟨seen, new, hSeen, hNew, hOutcome, -⟩ := boundary_holds_under_interleaving start rfl
    [.append client [tagged "opened"] .unchecked]
    [.append rival [tagged "closed"] .unchecked] client client rfl account _
    hText (by decide) [tagged "charged"] (by decide) (by decide)
  refine ⟨seen, hSeen, ?_⟩
  intro hOk
  have grown : present.backend.records =
      past.backend.records ++ rival.encoded [tagged "closed"] (.fixed epoch) := by
    obtain ⟨pastSound, -⟩ := Call.sound_runAll [.append client [tagged "opened"] .unchecked]
      start Call.sound_empty
    obtain ⟨-, readRecords⟩ := client.sound_read account .lastFirst past pastSound
    obtain ⟨-, records, -⟩ := rival.append_answers [tagged "closed"] .unchecked
      (client.read account .lastFirst past).2
    rw [readRecords] at records
    exact records
  have onlyRival : new = rival.encoded [tagged "closed"] (.fixed epoch) :=
    List.append_cancel_left (hNew.symm.trans grown)
  have unselected := hOutcome.1 hOk
  rw [onlyRival] at unselected
  exact unselected _ (List.mem_singleton_self _) (by decide)

end Rivals
end BoundaryLog
