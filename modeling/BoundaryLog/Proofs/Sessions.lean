import BoundaryLog.Proofs.Histories

/-! # What an append can notice of other actions

In a session clients append to one log, read from it, pull events from their feeds, ask whether the
log is there and put programs to it, and rows may be held for the next query.  An append depends on
the records and on the time alone, and none of the other actions touches either.  So appends go as
if they were alone.  Rows that are held answer one query at most, and no guard. -/
set_option autoImplicit false
namespace BoundaryLog

/-! ## Sessions -/

/-- A log with what belongs to it, and the feeds that reads have opened, in their order. -/
structure Session where
  deployment : Deployment MemoryLog
  feeds : List Feed

namespace Session
variable (s : Session)

def records : List Record := s.deployment.backend.records

/-- The programs that have been evaluated. -/
def programs : List String := s.deployment.backend.programs

/-- The rows that are held for the next query. -/
def held : Option (List Json) := s.deployment.backend.heldRows

end Session

/-- What can be done in a session.  A feed is pulled by its number. -/
inductive Action where
  | append (a : Append)
  | read (g : Gateway) (query : Query) (traversal : Traversal)
  | pull (feed : Nat)
  | ping (g : Gateway)
  | query (program : String)
  | hold (rows : List Json)

/-- What an action is answered with. -/
inductive Outcome where
  | turn (turn : Turn)
  | opened (answer : Except Failure Feed)
  | pulled (item : Option (Except Failure RecordedEvent))
  | reached (answer : Except Failure Unit)
  | queried (answer : Except TransportFailure Rows)
  | held

namespace Outcome

/-- How an append went. -/
def turn? : Outcome → Option Turn
  | .turn t => some t
  | _ => none

/-- The rows that a client got from the database, as a feed or as they are. -/
def rows? : Outcome → Option Rows
  | .opened answer => answer.toOption.map Feed.rows
  | .queried answer => answer.toOption
  | _ => none

end Outcome

namespace Action

def append? : Action → Option Append
  | .append a => some a
  | _ => none

/-- The rows that an action hands over to be held. -/
def handed? : Action → Option (List Json)
  | .hold rows => some rows
  | _ => none

/-- The program that an action puts to the database as a query. -/
def program? : Action → Option String
  | .read g q traversal => (q.scanText g.config.typePrefix traversal).toOption
  | .query program => some program
  | _ => none

def run : Action → Session → Outcome × Session
  | .append a, s =>
      let (turn, deployment) := a.run s.deployment
      (.turn turn, { s with deployment })
  | .read g q traversal, s =>
      let (answer, deployment) := g.read q traversal s.deployment
      (.opened answer, ⟨deployment, s.feeds ++ answer.toOption.toList⟩)
  | .pull n, s =>
      match s.feeds[n]? with
      | none => (.pulled none, s)
      | some feed =>
          let (item, rest) := feed.pull
          (.pulled item, { s with feeds := s.feeds.set n rest })
  | .ping g, s =>
      let (answer, deployment) := g.ping s.deployment
      (.reached answer, { s with deployment })
  | .query program, s =>
      let (answer, deployment) := s.deployment.query program
      (.queried answer, { s with deployment })
  | .hold rows, s =>
      let backend := s.deployment.backend.hold rows
      (.held, { s with deployment := { s.deployment with backend } })

def runAll : List Action → Session → List Outcome × Session
  | [], s => ([], s)
  | action :: actions, s =>
      let (outcome, next) := action.run s
      let (outcomes, last) := runAll actions next
      (outcome :: outcomes, last)

end Action

/-! ## Appends among other actions -/

/-- Whether two deployments have the same records and show the same times.  Their journals, evaluated
programs and held rows may differ. -/
structure Deployment.Alike (d e : Deployment MemoryLog) : Prop where
  records_eq : d.backend.records = e.backend.records
  timepieces_eq : d.timepieces = e.timepieces

theorem Deployment.Alike.refl (d : Deployment MemoryLog) : d.Alike d := ⟨rfl, rfl⟩

theorem Deployment.Alike.trans {d e f : Deployment MemoryLog} (h : d.Alike e) (h' : e.Alike f) :
    d.Alike f :=
  ⟨h.records_eq.trans h'.records_eq, h.timepieces_eq.trans h'.timepieces_eq⟩

/-- An append depends on records and times alone. -/
theorem Append.alike_run (a : Append) {d e : Deployment MemoryLog} (h : d.Alike e) :
    (a.run d).1 = (a.run e).1 ∧ (a.run d).2.Alike (a.run e).2 := by
  have answer : (a.run d).1.answer = (a.run e).1.answer := by
    rw [a.answer_run, a.answer_run, h.records_eq]
  have deposits : (a.run d).1.deposits = (a.run e).1.deposits := by
    change a.gateway.deposits a.events (d.timepieces a.gateway.timepiece) = _
    rw [h.timepieces_eq]
    rfl
  have turn : (a.run d).1 = (a.run e).1 := by
    change Turn.mk a (a.run d).1.answer (a.run d).1.deposits = _
    rw [answer, deposits]
    rfl
  refine ⟨turn, ?_, ?_⟩
  · rw [(a.records_run d).1, (a.records_run e).1, turn, h.records_eq]
  · have times : ∀ d : Deployment MemoryLog, (a.run d).2.timepieces = _ :=
      a.gateway.timepieces_append a.events a.boundary
    rw [times d, times e, Deployment.readTimes, Deployment.readTimes]
    cases a.gateway.prepare a.events a.boundary with
    | error fault => exact h.timepieces_eq
    | ok guard =>
        change (d.setTimepiece _ _).timepieces = (e.setTimepiece _ _).timepieces
        rw [Deployment.setTimepiece, Deployment.setTimepiece, h.timepieces_eq]

namespace MemoryLog
variable (program : String) (log : MemoryLog)

theorem query_of_held (rows : List Json) (h : log.heldRows = some rows) :
    log.query program = (.ok rows, { log with heldRows := none }) := by
  rw [query, h]

theorem query_of_unheld (h : log.heldRows = none) :
    log.query program = (answer program log.records,
      { log with programs := log.programs ++ [program] }) := by
  simp only [query, h, run]

theorem records_query : (log.query program).2.records = log.records := by
  cases hHeld : log.heldRows with
  | none => rw [log.query_of_unheld program hHeld]
  | some rows => rw [log.query_of_held program rows hHeld]

end MemoryLog

theorem Gateway.alike_read (g : Gateway) (q : Query) (traversal : Traversal)
    (d : Deployment MemoryLog) : (g.read q traversal d).2.Alike d := by
  cases hText : q.scanText g.config.typePrefix traversal with
  | error e =>
      rw [g.read_of_scanText_error q traversal d e hText]
      exact .refl d
  | ok text =>
      rw [g.read_eq_of_scanText_ok q traversal d text hText]
      exact ⟨d.backend.records_query text, rfl⟩

namespace Action

/-- Whatever is no append shows an append nothing. -/
theorem alike_run (action : Action) (s : Session) (h : action.append? = none) :
    (action.run s).1.turn? = none ∧ (action.run s).2.deployment.Alike s.deployment := by
  cases action with
  | append a => cases h
  | read g q traversal => exact ⟨rfl, g.alike_read q traversal s.deployment⟩
  | pull n =>
      rw [run]
      cases s.feeds[n]? with
      | none => exact ⟨rfl, .refl _⟩
      | some feed => exact ⟨rfl, .refl _⟩
  | ping g => exact ⟨rfl, rfl, rfl⟩
  | query program => exact ⟨rfl, s.deployment.backend.records_query program, rfl⟩
  | hold rows => exact ⟨rfl, rfl, rfl⟩

/-- A session and its appends alone, from states that look the same to appends. -/
theorem alike_runAll (actions : List Action) (s : Session) (d : Deployment MemoryLog)
    (h : s.deployment.Alike d) :
    (runAll actions s).1.filterMap Outcome.turn? =
        (Append.runAll (actions.filterMap append?) d).1 ∧
      (runAll actions s).2.deployment.Alike (Append.runAll (actions.filterMap append?) d).2 := by
  induction actions generalizing s d with
  | nil => exact ⟨rfl, h⟩
  | cons action actions ih =>
      -- an append is a step of both runs, anything else one of the session only
      cases hAppend : action.append? with
      | none =>
          obtain ⟨noTurn, unseen⟩ := action.alike_run s hAppend
          obtain ⟨turns, last⟩ := ih (action.run s).2 d (unseen.trans h)
          rw [List.filterMap_cons_none hAppend]
          refine ⟨?_, last⟩
          rw [runAll, List.filterMap_cons_none noTurn]
          exact turns
      | some a =>
          obtain rfl : action = .append a := by
            cases action <;> cases hAppend
            rfl
          obtain ⟨turn, next⟩ := a.alike_run h
          obtain ⟨turns, last⟩ := ih ((Action.append a).run s).2 (a.run d).2 next
          rw [List.filterMap_cons_some hAppend]
          refine ⟨?_, last⟩
          change (a.run s.deployment).1 :: _ = (a.run d).1 :: _
          rw [turn]
          exact congrArg _ turns

end Action

/-! ## Held rows -/

namespace Deployment
variable (program : String) (d : Deployment MemoryLog)

theorem query_of_held (rows : List Json) (h : d.backend.heldRows = some rows) :
    (d.query program).1 = .ok (rows.map .ok) ∧
      (d.query program).2.backend = { d.backend with heldRows := none } := by
  have query := d.backend.query_of_held program rows h
  constructor
  · change (d.backend.query program).1.map (List.map Except.ok) = _
    rw [query]
    rfl
  · change (d.backend.query program).2 = _
    rw [query]

theorem query_of_unheld (h : d.backend.heldRows = none) :
    (d.query program).1 = (MemoryLog.answer program d.backend.records).map (List.map .ok) ∧
      (d.query program).2.backend =
        { d.backend with programs := d.backend.programs ++ [program] } := by
  have query := d.backend.query_of_unheld program h
  constructor
  · change (d.backend.query program).1.map (List.map Except.ok) = _
    rw [query]
  · change (d.backend.query program).2 = _
    rw [query]

end Deployment

namespace Action
variable (action : Action) (s : Session)

/-- How an action deals with held rows.  A query is answered with them instead of being evaluated,
and then they are gone; if none are held, it is evaluated on the records.  Everything else leaves
them as they are, unless it hands over others. -/
structure DealsWithHeld : Prop where
  taken : ∀ program rows, action.program? = some program → s.held = some rows →
    (action.run s).1.rows? = some (rows.map .ok) ∧ (action.run s).2.held = none ∧
      (action.run s).2.programs = s.programs
  evaluated : ∀ program, action.program? = some program → s.held = none →
    (action.run s).1.rows? =
        (MemoryLog.answer program s.records).toOption.map (List.map .ok) ∧
      (action.run s).2.held = none ∧ (action.run s).2.programs = s.programs ++ [program]
  handed : ∀ rows, action.handed? = some rows → (action.run s).2.held = some rows
  kept : action.program? = none → action.handed? = none → (action.run s).2.held = s.held

/-- An action with a program is one query. -/
theorem run_of_program (program : String) (h : action.program? = some program) :
    ∃ entries, (action.run s).1.rows? = ((s.deployment.enter entries).query program).1.toOption ∧
      (action.run s).2.deployment = ((s.deployment.enter entries).query program).2 := by
  cases action with
  | append a => cases h
  | read g q traversal =>
      cases hText : q.scanText g.config.typePrefix traversal with
      | error e =>
          rw [program?, hText] at h
          cases h
      | ok text =>
          rw [program?, hText] at h
          obtain rfl : text = program := Option.some.inj h
          let entries : List Entry := [.noticed (.running text), .counted .reads]
          have read := g.read_eq_of_scanText_ok q traversal s.deployment text hText
          refine ⟨entries, ?_, congrArg Prod.snd read⟩
          change (g.read q traversal s.deployment).1.toOption.map Feed.rows = _
          rw [read]
          cases ((s.deployment.enter entries).query text).1 <;> rfl
  | pull n => cases h
  | ping g => cases h
  | query text =>
      cases h
      have unentered : s.deployment.enter [] = s.deployment := s.deployment.enter_nil
      refine ⟨[], ?_, ?_⟩ <;> rw [unentered] <;> rfl
  | hold rows => cases h

theorem dealsWithHeld : action.DealsWithHeld s := by
  constructor
  · intro program rows hProgram hHeld
    obtain ⟨entries, answer, next⟩ := action.run_of_program s program hProgram
    obtain ⟨taken, backend⟩ := (s.deployment.enter entries).query_of_held program rows hHeld
    rw [answer, taken, Session.held, Session.programs, next, backend]
    exact ⟨rfl, rfl, rfl⟩
  · intro program hProgram hHeld
    obtain ⟨entries, answer, next⟩ := action.run_of_program s program hProgram
    obtain ⟨found, backend⟩ := (s.deployment.enter entries).query_of_unheld program hHeld
    rw [answer, found, Session.held, Session.programs, next, backend]
    refine ⟨?_, hHeld, rfl⟩
    change ((MemoryLog.answer program s.records).map _).toOption = _
    cases MemoryLog.answer program s.records <;> rfl
  · intro rows hHanded
    cases action with
    | hold others =>
        cases hHanded
        rfl
    | _ => cases hHanded
  · intro noProgram notHanded
    cases action with
    | append a => exact (a.records_run s.deployment).2
    | read g q traversal =>
        cases hText : q.scanText g.config.typePrefix traversal with
        | ok text =>
            rw [program?, hText] at noProgram
            cases noProgram
        | error e =>
            have read := g.read_of_scanText_error q traversal s.deployment e hText
            change (g.read q traversal s.deployment).2.backend.heldRows = _
            rw [read]
            rfl
    | pull n =>
        rw [run]
        cases s.feeds[n]? <;> rfl
    | ping g => rfl
    | query text => cases noProgram
    | hold rows => cases notHanded

/-- The held rows that an action is answered with, if it is. -/
def taken? : Option (List Json) := action.program?.bind fun _ => s.held

/-- The held rows that the actions of a session are answered with, in their order. -/
def takenIn : List Action → Session → List (List Json)
  | [], _ => []
  | action :: actions, s => (action.taken? s).toList ++ takenIn actions (action.run s).2

/-- What was held in the beginning and whatever is handed over is taken at most once. -/
theorem takenIn_sublist (actions : List Action) (s : Session) :
    (takenIn actions s).Sublist (s.held.toList ++ actions.filterMap handed?) := by
  induction actions generalizing s with
  | nil => exact List.nil_sublist _
  | cons action actions ih =>
      have later := ih (action.run s).2
      have deals := action.dealsWithHeld s
      cases hProgram : action.program? with
      | some program =>
          have notHanded : action.handed? = none := by
            cases action with
            | hold rows => cases hProgram
            | _ => rfl
          have gone : (action.run s).2.held = none := by
            cases hHeld : s.held with
            | none => exact (deals.evaluated program hProgram hHeld).2.1
            | some rows => exact (deals.taken program rows hProgram hHeld).2.1
          rw [gone] at later
          rw [takenIn, taken?, hProgram, List.filterMap_cons_none notHanded]
          exact later.append_left s.held.toList
      | none =>
          rw [takenIn, taken?, hProgram]
          cases hHanded : action.handed? with
          | some rows =>
              -- what was held before is replaced and never taken
              rw [deals.handed rows hHanded] at later
              rw [List.filterMap_cons_some hHanded]
              exact later.trans (List.sublist_append_right _ _)
          | none =>
              rw [deals.kept hProgram hHanded] at later
              rw [List.filterMap_cons_none hHanded]
              exact later

/-- In any session, started from any state, the appends go as they would go alone: each of them gets
the same answer and the same readings of the time, and in the end the log has the same records and the
timepieces show the same.  Rows that are held are taken by one query at most, which is answered with
them in the place of its own; no other action takes them, and so no guard is answered with them. -/
theorem appends_ignore_other_actions (actions : List Action) (start : Session) :
    let session := runAll actions start
    let alone := Append.runAll (actions.filterMap append?) start.deployment
    session.1.filterMap Outcome.turn? = alone.1 ∧
      session.2.records = alone.2.backend.records ∧
      session.2.deployment.timepieces = alone.2.timepieces ∧
      (takenIn actions start).Sublist (start.held.toList ++ actions.filterMap handed?) ∧
      ∀ before action after, actions = before ++ action :: after →
        action.DealsWithHeld (runAll before start).2 := by
  obtain ⟨turns, last⟩ := alike_runAll actions start start.deployment (.refl _)
  refine ⟨turns, last.records_eq, last.timepieces_eq, takenIn_sublist actions start, ?_⟩
  intro before action after _
  exact action.dealsWithHeld _

-- held rows that would let a guard pass wait for the query
example (t : Instant) :
    let g : Gateway := ⟨.default, 0⟩
    let start : Session := ⟨⟨.empty, fun _ => .fixed t, []⟩, []⟩
    let actions : List Action := [.append ⟨g, [Event.new "A" .null], .unchecked⟩,
      .hold [.bool true], .append ⟨g, [Event.new "B" .null], ⟨.all, .none⟩⟩, .query "anything"]
    (runAll actions start).1.filterMap (fun outcome => outcome.turn?.map Turn.answer) =
        [.ok (), .error (.conflict .matchingEventsExist)] ∧
      takenIn actions start = [[.bool true]] := ⟨rfl, rfl⟩

end Action
end BoundaryLog
