import BoundaryLog.Backend.Memory
import BoundaryLog.Proofs.Effects
import BoundaryLog.Proofs.Selections
import BoundaryLog.Proofs.Statements

/-! # What becomes of an append

The verdict on an append is said without the query language: first what is wrong with its events,
then what is wrong with its query, then whether the log is as expected.  An append gets exactly this
verdict, and it either writes all of its events or leaves the log alone. -/
set_option autoImplicit false
namespace BoundaryLog

/-! ## Guards -/

namespace Expectation

/-- Whether an event at a position would come too late for the expectation. -/
def Forbids (place : Nat) : Expectation → Prop
  | .any => False
  | .none => True
  | .exactly p => p.value < place

instance (place : Nat) : (expected : Expectation) → Decidable (expected.Forbids place)
  | .any => inferInstanceAs (Decidable False)
  | .none => inferInstanceAs (Decidable True)
  | .exactly p => inferInstanceAs (Decidable (p.value < place))

theorem isAny_eq_false (expected : Expectation) (h : expected ≠ .any) : expected.isAny = false := by
  cases expected with
  | any => exact absurd rfl h
  | none => rfl
  | exactly p => rfl

theorem all_holds_laterFilter (expected : Expectation) (hAny : expected.isAny = false) (r : Record)
    (place : Nat) :
    expected.laterFilter.toList.all (Predicate.holds r.type r.data.tags place) =
      decide (expected.Forbids place) := by
  cases expected with
  | any => cases hAny
  | none => rfl
  | exactly p =>
      rw [laterFilter, Option.toList_some, List.all_cons, List.all_nil, Bool.and_true]
      rfl

end Expectation

namespace Boundary
variable (typePrefix : String) (boundary : Boundary)

/-- Whether the log holds a selected event that the expectation forbids. -/
def Crossed (records : List Record) : Prop :=
  ∃ entry ∈ boundary.query.selected typePrefix records, boundary.expected.Forbids entry.2

instance (records : List Record) : Decidable (boundary.Crossed typePrefix records) := by
  unfold Crossed; infer_instance

/-- The program of a guard, for a query that has programs. -/
def guardProgram : Program where
  filters := boundary.query.filters typePrefix ++ boundary.expected.laterFilter.toList
  descending := false
  top := none
  projection := .isEmpty

theorem runs_guardProgram :
    boundary.query.Runs typePrefix (boundary.guardProgram typePrefix)
      boundary.expected.laterFilter.toList := by
  refine ⟨rfl, ?_⟩
  intro p hp
  cases hExpected : boundary.expected with
  | any => simp [hExpected, Expectation.laterFilter] at hp
  | none => simp [hExpected, Expectation.laterFilter] at hp
  | exactly position =>
      simp only [hExpected, Expectation.laterFilter, Option.toList_some, List.mem_singleton] at hp
      rw [hp]
      trivial

/-- A guard is written unless anything is expected or the query has no programs. -/
theorem guard?_eq :
    boundary.guard? typePrefix =
      if boundary.expected.isAny then .ok none
      else boundary.query.orFault typePrefix
        (some (.isTrue (boundary.guardProgram typePrefix).written)) := by
  have text := boundary.query.text_of_plan typePrefix
    (fun plan => {
      filters := plan.predicate.toList ++ boundary.expected.laterFilter.toList
      descending := false
      top := none
      projection := .isEmpty })
    boundary.expected.laterFilter.toList
    (by rw [Query.head?_filters_toList]; exact boundary.runs_guardProgram typePrefix)
  simp only [Query.head?_filters_toList] at text
  have whole : (do let program ← boundary.program typePrefix; program.text) =
      boundary.query.orFault typePrefix (boundary.guardProgram typePrefix).written := by
    rw [guardProgram, ← text, program]
    cases boundary.query.plan typePrefix <;> rfl
  have mapped : (do
      let program ← boundary.program typePrefix
      let text ← program.text
      return some (Guard.isTrue text)) =
      (do let program ← boundary.program typePrefix; program.text).map
        fun text => some (Guard.isTrue text) := by
    cases boundary.program typePrefix with
    | error e => rfl
    | ok program =>
        simp only [bind, Except.bind]
        cases program.text <;> rfl
  unfold guard?
  split
  · rfl
  · exact mapped.trans (by rw [whole, Query.orFault_map])

theorem matching_guardProgram (hAny : boundary.expected.isAny = false) (records : List Record) :
    (boundary.guardProgram typePrefix).statement.matching records =
      (boundary.query.selected typePrefix records).filter
        fun (_, place) => boundary.expected.Forbids place := by
  unfold Statement.matching Query.selected
  rw [List.filter_filter]
  apply List.filter_congr
  rintro ⟨r, place⟩ -
  simp only [Program.selects_statement, (boundary.runs_guardProgram typePrefix).selects_eq,
    boundary.expected.all_holds_laterFilter hAny, Bool.and_comm]

/-- A guard answers whether the boundary is not crossed. -/
theorem answer_guardProgram (hAny : boundary.expected.isAny = false)
    (hFault : boundary.query.fault? typePrefix = none) (records : List Record) :
    MemoryLog.answer (boundary.guardProgram typePrefix).written records =
      .ok [.bool (!decide (boundary.Crossed typePrefix records))] := by
  have understood := Statement.ofText_of_runs (boundary.runs_guardProgram typePrefix) hFault
  have projection : (boundary.guardProgram typePrefix).statement.projection = .isEmpty := rfl
  have crossed : (!decide (boundary.Crossed typePrefix records)) =
      ((boundary.query.selected typePrefix records).filter
        fun (_, place) => boundary.expected.Forbids place).isEmpty := by
    rw [Bool.eq_iff_iff, List.isEmpty_iff, List.filter_eq_nil_iff, Bool.not_eq_true',
      decide_eq_false_iff_not, Crossed, not_exists]
    simp only [not_and, decide_eq_true_eq]
  unfold MemoryLog.answer
  rw [understood, crossed, ← boundary.matching_guardProgram typePrefix hAny]
  simp only [Statement.run, projection]

end Boundary

/-! ## Writes to the log -/

namespace MemoryLog
variable (records : List Record) (log : MemoryLog)

theorem write_unguarded :
    log.write records [] = (.ok .written, { log with records := log.records ++ records }) := rfl

theorem write_guarded (program : String) (holds : Bool)
    (hAnswer : answer program log.records = .ok [.bool holds]) :
    log.write records [.isTrue program] =
      (.ok (if holds then .written else .refused),
        { log with
          records := if holds then log.records ++ records else log.records
          programs := log.programs ++ [program] }) := by
  cases holds <;> simp [write, examine, Guard.isTrue, run, hAnswer]

end MemoryLog

def Expectation.settle (expected : Expectation) : WriteAnswer → Except Failure Unit
  | .written => .ok ()
  | .refused => .error expected.violation.1

/-- An append with good arguments is one write. -/
theorem Gateway.append_of_prepare_ok (g : Gateway) (events : List Event) (boundary : Boundary)
    (d : Deployment MemoryLog) (guard : Option Guard)
    (hPrepare : g.prepare events boundary = .ok guard) (answer : WriteAnswer) (log : MemoryLog)
    (hWrite : d.backend.write (g.encoded events (d.timepieces g.timepiece)) guard.toList =
      (.ok answer, log)) :
    (g.append events boundary d).1 = boundary.expected.settle answer ∧
      (g.append events boundary d).2.backend = log := by
  have reached : Backend.write (g.encoded events (d.timepieces g.timepiece)) guard.toList
      d.backend = (.ok answer, log) := hWrite
  rw [g.append_eq_of_prepare_ok events boundary d guard hPrepare]
  constructor
  · change (boundary.expected.outcome (Backend.write _ _ d.backend).1).1 = _
    rw [reached]
    cases answer <;> rfl
  · change (Backend.write _ _ d.backend).2 = log
    rw [reached]

/-! ## The verdict -/

namespace Query

/-- Whether a query asks for the last event of several criteria. -/
def AsksLastOfSeveral (q : Query) : Prop :=
  match q with
  | .all => False
  | .criteria cs => 1 < cs.length ∧ ∃ c ∈ cs, c.onlyLast = true

instance (q : Query) : Decidable q.AsksLastOfSeveral :=
  match q with
  | .all => inferInstanceAs (Decidable False)
  | .criteria cs => inferInstanceAs (Decidable (1 < cs.length ∧ ∃ c ∈ cs, c.onlyLast = true))

theorem supported_eq_false_iff (q : Query) : q.supported = false ↔ q.AsksLastOfSeveral := by
  unfold supported
  rw [Bool.not_eq_false', Bool.and_eq_true, decide_eq_true_eq, ← asksLast_iff, and_comm]
  cases q with
  | all => exact and_iff_right_of_imp False.elim
  | criteria cs => exact Iff.rfl

end Query

namespace Boundary
variable (typePrefix : String) (boundary : Boundary)

/-- How the log differs from what an append expects, if it does. -/
def conflict? (records : List Record) : Option Conflict :=
  match boundary.expected with
  | .any => none
  | .none =>
      if ∃ r ∈ records, boundary.query.Selects typePrefix r then some .matchingEventsExist
      else none
  | .exactly p =>
      if ∃ entry ∈ records.zipIdx 1, p.value < entry.2 ∧
          boundary.query.Selects typePrefix entry.1 then
        some (.matchingEventsExistAfter p)
      else none

theorem crossed_iff (records : List Record) :
    boundary.Crossed typePrefix records ↔
      ∃ entry ∈ records.zipIdx 1, boundary.expected.Forbids entry.2 ∧
        boundary.query.Selects typePrefix entry.1 := by
  unfold Crossed Query.selected
  constructor
  · rintro ⟨entry, hEntry, hForbids⟩
    obtain ⟨hMem, hSelects⟩ := List.mem_filter.1 hEntry
    exact ⟨entry, hMem, hForbids, of_decide_eq_true hSelects⟩
  · rintro ⟨entry, hMem, hForbids, hSelects⟩
    exact ⟨entry, List.mem_filter.2 ⟨hMem, decide_eq_true hSelects⟩, hForbids⟩

/-- Once every further event would come too late, an append is contradicted by what had come before
and by what has come since. -/
theorem crossed_append (old new : List Record)
    (h : ∀ place, old.length < place → boundary.expected.Forbids place) :
    boundary.Crossed typePrefix (old ++ new) ↔
      boundary.Crossed typePrefix old ∨ ∃ r ∈ new, boundary.query.Selects typePrefix r := by
  constructor
  · rintro ⟨entry, hEntry, hForbids⟩
    rcases boundary.query.mem_selected_append typePrefix old new entry hEntry with hOld | hNew
    · exact Or.inl ⟨entry, hOld, hForbids⟩
    · exact Or.inr ⟨entry.1, hNew⟩
  · rintro (⟨entry, hOld, hForbids⟩ | ⟨r, hr, hSelects⟩)
    · refine ⟨entry, ?_, hForbids⟩
      rw [Query.selected_append]
      exact List.mem_append_left _ hOld
    · obtain ⟨place, hPlace, hMem⟩ :=
        boundary.query.exists_mem_selected_append typePrefix old new r hr hSelects
      exact ⟨(r, place), hMem, h place hPlace⟩

theorem conflict?_eq (records : List Record) :
    (boundary.conflict? typePrefix records).map Failure.conflict =
      if boundary.Crossed typePrefix records then some boundary.expected.violation.1 else none := by
  obtain ⟨query, expected⟩ := boundary
  cases expected with
  | any =>
      rw [if_neg]
      · rfl
      · rintro ⟨_, _, hForbids⟩
        exact hForbids
  | none =>
      have anywhere : (∃ r ∈ records, query.Selects typePrefix r) ↔
          (Boundary.mk query .none).Crossed typePrefix records := by
        rw [crossed_iff]
        constructor
        · rintro ⟨r, hr, hSelects⟩
          rw [← List.zipIdx_map_fst 1 records] at hr
          obtain ⟨entry, hEntry, rfl⟩ := List.mem_map.1 hr
          exact ⟨entry, hEntry, trivial, hSelects⟩
        · rintro ⟨entry, hEntry, -, hSelects⟩
          exact ⟨entry.1, List.fst_mem_of_mem_zipIdx hEntry, hSelects⟩
      simp only [conflict?, anywhere]
      split <;> rfl
  | exactly p =>
      have after := crossed_iff typePrefix ⟨query, .exactly p⟩ records
      simp only [conflict?, after, Expectation.Forbids]
      split <;> rfl

/-- What becomes of a write within a boundary: the first thing that is wrong with the query, or else
with the log, if anything is. -/
def verdict (records : List Record) : Except Failure Unit :=
  if boundary.expected = .any then .ok ()
  else if boundary.query.AsksLastOfSeveral then
    .error (.unsupportedQuery onlyLastUnsupported)
  else
    match (boundary.query.literals typePrefix).findSome? Predicate.bad? with
    | some bad => .error bad.toFailure
    | none =>
        match boundary.conflict? typePrefix records with
        | some conflict => .error (.conflict conflict)
        | none => .ok ()

theorem verdict_of_any (records : List Record) (h : boundary.expected = .any) :
    boundary.verdict typePrefix records = .ok () := if_pos h

theorem verdict_of_fault (records : List Record) (h : boundary.expected ≠ .any) (e : Failure)
    (hFault : boundary.query.fault? typePrefix = some e) :
    boundary.verdict typePrefix records = .error e := by
  unfold Query.fault? at hFault
  unfold verdict
  rw [if_neg h]
  cases hSupported : boundary.query.supported with
  | false =>
      rw [hSupported] at hFault
      cases hFault
      exact if_pos ((Query.supported_eq_false_iff _).1 hSupported)
  | true =>
      rw [hSupported, if_pos rfl, Option.map_eq_some_iff] at hFault
      obtain ⟨bad, hBad, rfl⟩ := hFault
      have single := mt (Query.supported_eq_false_iff boundary.query).2 (by rw [hSupported]; decide)
      rw [if_neg single, hBad]

theorem verdict_of_no_fault (records : List Record) (h : boundary.expected ≠ .any)
    (hFault : boundary.query.fault? typePrefix = none) :
    boundary.verdict typePrefix records =
      if boundary.Crossed typePrefix records then .error boundary.expected.violation.1
      else .ok () := by
  unfold Query.fault? at hFault
  cases hSupported : boundary.query.supported with
  | false =>
      rw [hSupported] at hFault
      cases hFault
  | true =>
      rw [hSupported, if_pos rfl, Option.map_eq_none_iff] at hFault
      have single := mt (Query.supported_eq_false_iff boundary.query).2 (by rw [hSupported]; decide)
      have conflict := boundary.conflict?_eq typePrefix records
      unfold verdict
      rw [if_neg h, if_neg single, hFault]
      by_cases hCrossed : boundary.Crossed typePrefix records
      · rw [if_pos hCrossed, Option.map_eq_some_iff] at conflict
        obtain ⟨reason, hReason, hViolation⟩ := conflict
        rw [if_pos hCrossed, hReason, ← hViolation]
      · rw [if_neg hCrossed, Option.map_eq_none_iff] at conflict
        rw [if_neg hCrossed, conflict]

end Boundary

namespace Gateway
variable (g : Gateway) (events : List Event) (boundary : Boundary)

/-- What becomes of an append to a log: the first thing that is wrong with it, if anything is. -/
def verdict (records : List Record) : Except Failure Unit :=
  if events = [] then .error (.invalidArgument "events must not be empty")
  else
    match events.findIdx? (·.type = "") with
    | some index =>
        .error (.invalidArgument ("event at index " ++ toString index ++ " has an empty type"))
    | none => boundary.verdict g.config.typePrefix records

/-- What an append with an answer adds to the log. -/
def added (c : Timepiece) : Except Failure Unit → List Record
  | .ok () => g.encoded events c
  | .error _ => []

/-- An append gets an answer, and it adds its records to the log only if nothing is wrong. -/
structure Answers (d : Deployment MemoryLog) (answer : Except Failure Unit) : Prop where
  answer_eq : (g.append events boundary d).1 = answer
  records_eq : (g.append events boundary d).2.backend.records =
    d.backend.records ++ g.added events (d.timepieces g.timepiece) answer
  heldRows_eq : (g.append events boundary d).2.backend.heldRows = d.backend.heldRows

variable (d : Deployment MemoryLog)

theorem answers_of_prepare_error (e : Failure) (hPrepare : g.prepare events boundary = .error e) :
    g.Answers events boundary d (.error e) := by
  have unchanged := g.append_of_prepare_error events boundary d e hPrepare
  constructor
  · rw [unchanged]
  · rw [unchanged]
    exact (List.append_nil _).symm
  · rw [unchanged]

/-- An append answers what its write means, if the write keeps to that answer. -/
theorem answers_of_write (guard : Option Guard) (hPrepare : g.prepare events boundary = .ok guard)
    (outcome : WriteAnswer) (log : MemoryLog)
    (hWrite : d.backend.write (g.encoded events (d.timepieces g.timepiece)) guard.toList =
      (.ok outcome, log))
    (hRecords : log.records = d.backend.records ++
      g.added events (d.timepieces g.timepiece) (boundary.expected.settle outcome))
    (hHeld : log.heldRows = d.backend.heldRows) :
    g.Answers events boundary d (boundary.expected.settle outcome) := by
  obtain ⟨answer, backend⟩ := g.append_of_prepare_ok events boundary d guard hPrepare outcome log
    hWrite
  constructor
  · exact answer
  · rw [backend]
    exact hRecords
  · rw [backend]
    exact hHeld

theorem answers_unguarded (hPrepare : g.prepare events boundary = .ok none) :
    g.Answers events boundary d (.ok ()) :=
  g.answers_of_write events boundary d none hPrepare .written _
    (MemoryLog.write_unguarded _ d.backend) rfl rfl

theorem answers_guarded (hAny : boundary.expected.isAny = false)
    (hFault : boundary.query.fault? g.config.typePrefix = none)
    (hPrepare : g.prepare events boundary =
      .ok (some (.isTrue (boundary.guardProgram g.config.typePrefix).written))) :
    g.Answers events boundary d
      (if boundary.Crossed g.config.typePrefix d.backend.records then
        .error boundary.expected.violation.1
      else .ok ()) := by
  have guard := boundary.answer_guardProgram g.config.typePrefix hAny hFault d.backend.records
  have write := MemoryLog.write_guarded (g.encoded events (d.timepieces g.timepiece)) d.backend
    _ _ guard
  by_cases hCrossed : boundary.Crossed g.config.typePrefix d.backend.records
  · simp only [hCrossed, decide_true, Bool.not_true, Bool.false_eq_true, if_false] at write
    rw [if_pos hCrossed]
    exact g.answers_of_write events boundary d _ hPrepare .refused _ write
      (List.append_nil _).symm rfl
  · simp only [hCrossed, decide_false, Bool.not_false, if_true] at write
    rw [if_neg hCrossed]
    exact g.answers_of_write events boundary d _ hPrepare .written _ write rfl rfl

theorem checkEvents_eq :
    checkEvents events =
      if events = [] then .error (.invalidArgument "events must not be empty")
      else
        match events.findIdx? (·.type = "") with
        | some index =>
            .error (.invalidArgument ("event at index " ++ toString index ++ " has an empty type"))
        | none => .ok () := by
  have sameTest : (fun e : Event => e.type.isEmpty) = fun e => decide (e.type = "") := by
    funext e
    rw [Bool.eq_iff_iff, decide_eq_true_eq, String.isEmpty_iff]
  unfold checkEvents
  rw [sameTest]
  cases events <;> rfl

theorem answers_of_prepare_eq
    (hPrepare : g.prepare events boundary = boundary.guard? g.config.typePrefix) :
    g.Answers events boundary d (boundary.verdict g.config.typePrefix d.backend.records) := by
  rw [boundary.guard?_eq] at hPrepare
  by_cases hExpected : boundary.expected = .any
  · rw [boundary.verdict_of_any _ _ hExpected]
    rw [hExpected] at hPrepare
    exact g.answers_unguarded events boundary d hPrepare
  have hAny := boundary.expected.isAny_eq_false hExpected
  rw [hAny, if_neg Bool.false_ne_true, Query.orFault] at hPrepare
  cases hFault : boundary.query.fault? g.config.typePrefix with
  | some e =>
      rw [hFault] at hPrepare
      rw [boundary.verdict_of_fault _ _ hExpected e hFault]
      exact g.answers_of_prepare_error events boundary d e hPrepare
  | none =>
      rw [hFault] at hPrepare
      rw [boundary.verdict_of_no_fault _ _ hExpected hFault]
      exact g.answers_guarded events boundary d hAny hFault hPrepare

/-- An append gets the verdict on it. -/
theorem append_answers :
    g.Answers events boundary d (g.verdict events boundary d.backend.records) := by
  have checked := checkEvents_eq events
  unfold verdict
  by_cases hEvents : events = []
  · rw [if_pos hEvents] at checked ⊢
    exact g.answers_of_prepare_error events boundary d _
      (g.prepare_of_checkEvents_error events boundary _ checked)
  rw [if_neg hEvents] at checked ⊢
  cases hIndex : events.findIdx? (·.type = "") with
  | some index =>
      rw [hIndex] at checked
      exact g.answers_of_prepare_error events boundary d _
        (g.prepare_of_checkEvents_error events boundary _ checked)
  | none =>
      rw [hIndex] at checked
      exact g.answers_of_prepare_eq events boundary d
        (g.prepare_of_checkEvents_ok events boundary checked)

/-- On events that are in order, the verdict is that of their boundary. -/
theorem verdict_of_typed (hEvents : events ≠ []) (hTypes : ∀ e ∈ events, e.type ≠ "")
    (records : List Record) :
    g.verdict events boundary records = boundary.verdict g.config.typePrefix records := by
  have noIndex : events.findIdx? (·.type = "") = none := by
    apply List.findIdx?_eq_none_iff.2
    intro e he
    exact decide_eq_false (hTypes e he)
  rw [verdict, if_neg hEvents, noIndex]

theorem verdict_error (records : List Record) (e : Failure)
    (h : g.verdict events boundary records = .error e) :
    e ≠ .unexpectedConflict ∧ ∀ cause, e ≠ .transport cause := by
  unfold verdict Boundary.verdict at h
  split at h
  · cases h
    exact ⟨nofun, nofun⟩
  split at h
  · cases h
    exact ⟨nofun, nofun⟩
  split at h
  · cases h
  split at h
  · cases h
    exact ⟨nofun, nofun⟩
  split at h
  · cases h
    exact ⟨nofun, nofun⟩
  split at h
  · cases h
    exact ⟨nofun, nofun⟩
  · cases h

theorem guard?_single (typePrefix : String) (c : Criterion) (flag : Bool) (expected : Expectation) :
    Boundary.guard? typePrefix ⟨.criteria [{ c with onlyLast := flag }], expected⟩ =
      Boundary.guard? typePrefix ⟨.criteria [c], expected⟩ := by
  have program : Boundary.program typePrefix ⟨.criteria [{ c with onlyLast := flag }], expected⟩ =
      Boundary.program typePrefix ⟨.criteria [c], expected⟩ := by
    simp only [Boundary.program, Query.plan, Query.supported_single, if_true]
    rfl
  unfold Boundary.guard?
  rw [program]

/-- An append to whatever log gets the verdict on it.  It adds all records of its events, in their
order, if nothing is wrong, and nothing at all otherwise.  It is never answered with an unexplained
conflict or a failure of the database, and the flag for the last event does not matter to the
boundary of a single criterion. -/
theorem append_is_decided_and_atomic :
    (g.append events boundary d).1 = g.verdict events boundary d.backend.records ∧
      (g.append events boundary d).2.backend.records =
        d.backend.records ++ g.added events (d.timepieces g.timepiece) (g.append events boundary d).1 ∧
      (g.append events boundary d).1 ≠ .error .unexpectedConflict ∧
      (∀ cause, (g.append events boundary d).1 ≠ .error (.transport cause)) ∧
      ∀ (c : Criterion) (flag : Bool) (expected : Expectation),
        g.append events ⟨.criteria [{ c with onlyLast := flag }], expected⟩ d =
          g.append events ⟨.criteria [c], expected⟩ d := by
  obtain ⟨answer, records, -⟩ := g.append_answers events boundary d
  refine ⟨answer, ?_, ?_, ?_, ?_⟩
  · rw [answer]
    exact records
  · intro h
    rw [answer] at h
    exact (g.verdict_error events boundary _ _ h).1 rfl
  · intro cause h
    rw [answer] at h
    exact (g.verdict_error events boundary _ _ h).2 cause rfl
  · intro c flag expected
    unfold append prepare
    rw [guard?_single]

end Gateway
end BoundaryLog
