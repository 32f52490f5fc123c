import BoundaryLog.Proofs.Clients
import BoundaryLog.Proofs.SingleWrites

/-! # What counters and notices account for

Calls go one after the other through any number of gateways to one database, whatever that answers.
Every entry of the journal is made by one of the calls, and each call goes in one of few ways: a read
asks once or does nothing at all, and an append writes once or does nothing at all.  So what is counted
and noticed of a single call can be seen from its requests and from its reply, and it adds up over a
run. -/
set_option autoImplicit false
namespace BoundaryLog

/-! ## Counters and entries -/

/-- How far a counter goes up with the given entries. -/
def Counter.value (c : Counter) (entries : List Entry) : Nat := entries.count (.counted c)

theorem Counter.value_append (c : Counter) (first second : List Entry) :
    c.value (first ++ second) = c.value first + c.value second := List.count_append

namespace Entry

def isWrite : Entry → Bool
  | .requested (.write _ _) => true
  | _ => false

def isQuery : Entry → Bool
  | .requested (.query _) => true
  | _ => false

/-- The reason for which an entry counts a conflict. -/
def conflict? : Entry → Option ConflictLabel
  | .counted (.conflicts label) => some label
  | _ => none

/-- A notice above the level of debugging. -/
def alarm? : Entry → Option (Level × Notice)
  | .noticed notice => if notice.level = .debug then none else some (notice.level, notice)
  | _ => none

theorem conflict?_eq_some_iff (entry : Entry) (label : ConflictLabel) :
    entry.conflict? = some label ↔ entry = .counted (.conflicts label) := by
  constructor
  · intro h
    unfold conflict? at h
    split at h
    · rw [Option.some.inj h]
    · cases h
  · rintro rfl
    rfl

theorem value_conflicts_eq (label : ConflictLabel) (entries : List Entry) :
    (Counter.conflicts label).value entries = (entries.filterMap conflict?).count label := by
  rw [Counter.value, List.count, List.count, List.countP_filterMap]
  apply List.countP_congr
  intro entry _
  rw [beq_iff_eq, ← conflict?_eq_some_iff]
  cases entry.conflict? <;> simp

end Entry

/-! ## Calls as they went -/

/-- What a call was answered. -/
inductive Reply where
  | reached (answer : Except Failure Unit)
  | opened (answer : Except Failure Feed)
  | appended (answer : Except Failure Unit)

namespace Reply

/-- The reason for which a reply is a conflict. -/
def conflict? : Reply → Option ConflictLabel
  | .appended (.error (.conflict .matchingEventsExist)) => some .matchingEventsExist
  | .appended (.error (.conflict (.matchingEventsExistAfter _))) => some .matchingEventsExistAfter
  | .appended (.error .unexpectedConflict) => some .unexpected
  | _ => none

/-- The notice that is due with a reply, at its level. -/
def alarm? : Reply → Option (Level × Notice)
  | .appended (.error (.conflict conflict)) => some (.warn, .rejected conflict)
  | .appended (.error .unexpectedConflict) => some (.error, .unexplained)
  | _ => none

end Reply

/-- A call as it went: its reply, and the entries that it made in the journal. -/
structure Exchange where
  call : Call
  reply : Reply
  entries : List Entry

/-- The ways in which a call can go, with what it is answered and what it enters. -/
inductive Call.Goes : Call → Reply → List Entry → Prop where
  | pinged (g : Gateway) (answer : Except Failure Unit) :
      Goes (.ping g) (.reached answer) [.requested .ping]
  | unread (g : Gateway) (query : Query) (traversal : Traversal) (e : Failure) :
      Goes (.read g query traversal) (.opened (.error e)) []
  | read (g : Gateway) (query : Query) (traversal : Traversal) (text : String)
      (answer : Except Failure Feed) :
      Goes (.read g query traversal) (.opened answer)
        [.noticed (.running text), .counted .reads, .requested (.query text)]
  | unwritten (g : Gateway) (events : List Event) (boundary : Boundary) (e : Failure)
      (h : e.InArguments) : Goes (.append g events boundary) (.appended (.error e)) []
  | written (g : Gateway) (events : List Event) (boundary : Boundary) (times : List Instant)
      (records : List Record) (guard : Option Guard)
      (answer : Except TransportFailure WriteAnswer) :
      Goes (.append g events boundary) (.appended (boundary.expected.outcome answer).1)
        (times.map (.timeRead g.timepiece) ++
          ([.noticed (.writing records.length (guard.map Guard.program)), .counted .appends,
            .requested (.write records guard.toList)] ++ (boundary.expected.outcome answer).2))

namespace Call

def isRead : Call → Bool
  | .read _ _ _ => true
  | _ => false

section AnyDatabase
variable {σ : Type} [Backend σ]

def answer : Call → Deployment σ → Reply × Deployment σ
  | .ping g, d => ((g.ping d).map Reply.reached id)
  | .read g query traversal, d => (g.read query traversal d).map Reply.opened id
  | .append g events boundary, d => (g.append events boundary d).map Reply.appended id

/-- A call, with the entries since it began. -/
def perform (call : Call) (d : Deployment σ) : Exchange × Deployment σ :=
  let (reply, next) := call.answer d
  (⟨call, reply, next.journal.drop d.journal.length⟩, next)

def performAll : List Call → Deployment σ → List Exchange × Deployment σ
  | [], d => ([], d)
  | call :: calls, d =>
      let (exchange, next) := call.perform d
      let (exchanges, last) := performAll calls next
      (exchange :: exchanges, last)

/-- Every call goes in one of these ways, and nothing else is entered. -/
theorem goes_answer (call : Call) (d : Deployment σ) :
    ∃ entries, (call.answer d).2.journal = d.journal ++ entries ∧
      call.Goes (call.answer d).1 entries := by
  cases call with
  | ping g => exact ⟨_, rfl, .pinged g _⟩
  | read g query traversal =>
      cases hText : query.scanText g.config.typePrefix traversal with
      | error e =>
          rw [answer, g.read_of_scanText_error query traversal d e hText]
          exact ⟨[], (List.append_nil _).symm, .unread g query traversal e⟩
      | ok text =>
          rw [answer, g.read_eq_of_scanText_ok query traversal d text hText]
          exact ⟨_, List.append_assoc .., .read g query traversal text _⟩
  | append g events boundary =>
      cases hPrepare : g.prepare events boundary with
      | error e =>
          rw [answer, g.append_of_prepare_error events boundary d e hPrepare]
          have hArguments := g.inArguments_of_prepare events boundary e hPrepare
          exact ⟨[], (List.append_nil _).symm, .unwritten g events boundary e hArguments⟩
      | ok guard =>
          let times := (d.timepieces g.timepiece).readings events.length
          let records := g.encoded events (d.timepieces g.timepiece)
          let written := Backend.write records guard.toList d.backend
          rw [answer, g.append_eq_of_prepare_ok events boundary d guard hPrepare]
          refine ⟨_, ?_, .written g events boundary times records guard written.1⟩
          change d.journal ++ times.map (.timeRead g.timepiece) ++ _ ++ _ ++ _ = _
          simp only [List.append_assoc]
          rfl

theorem journal_perform (call : Call) (d : Deployment σ) :
    (call.perform d).2.journal = d.journal ++ (call.perform d).1.entries ∧
      call.Goes (call.perform d).1.reply (call.perform d).1.entries := by
  obtain ⟨entries, journal, goes⟩ := call.goes_answer d
  have same : (call.perform d).1.entries = entries := by
    change (call.answer d).2.journal.drop d.journal.length = entries
    rw [journal, List.drop_left]
  rw [same]
  exact ⟨journal, goes⟩

end AnyDatabase

/-! ## A single call -/

/-- Whether what was entered for a call agrees with its requests and with its reply. -/
structure Accounts (call : Call) (reply : Reply) (entries : List Entry) : Prop where
  appends_eq : Counter.appends.value entries = entries.countP Entry.isWrite
  reads_eq : Counter.reads.value entries = entries.countP Entry.isQuery
  no_query : call.isRead = false → entries.countP Entry.isQuery = 0
  conflicts_eq : entries.filterMap Entry.conflict? = reply.conflict?.toList
  alarms_eq : entries.filterMap Entry.alarm? = reply.alarm?.toList

/-- Readings of the time are neither counted nor noticed. -/
theorem Accounts.timeRead {call : Call} {reply : Reply} {entries : List Entry}
    (h : call.Accounts reply entries) (n : Nat) (times : List Instant) :
    call.Accounts reply (times.map (.timeRead n) ++ entries) := by
  induction times with
  | nil => exact h
  | cons t times ih => exact ⟨ih.appends_eq, ih.reads_eq, ih.no_query, ih.conflicts_eq, ih.alarms_eq⟩

/-- What an append enters once its arguments have been found good. -/
theorem accounts_written (g : Gateway) (events : List Event) (boundary : Boundary)
    (records : List Record) (guard : Option Guard)
    (answer : Except TransportFailure WriteAnswer) :
    (Call.append g events boundary).Accounts (.appended (boundary.expected.outcome answer).1)
      ([.noticed (.writing records.length (guard.map Guard.program)), .counted .appends,
        .requested (.write records guard.toList)] ++ (boundary.expected.outcome answer).2) := by
  cases answer with
  | error cause => exact ⟨rfl, rfl, fun _ => rfl, rfl, rfl⟩
  | ok answer =>
      cases answer with
      | written => exact ⟨rfl, rfl, fun _ => rfl, rfl, rfl⟩
      | refused => cases boundary.expected <;> exact ⟨rfl, rfl, fun _ => rfl, rfl, rfl⟩

theorem Goes.accounts {call : Call} {reply : Reply} {entries : List Entry}
    (h : call.Goes reply entries) : call.Accounts reply entries := by
  cases h with
  | pinged g answer => exact ⟨rfl, rfl, fun _ => rfl, rfl, rfl⟩
  | unread g query traversal e => exact ⟨rfl, rfl, fun _ => rfl, rfl, rfl⟩
  | read g query traversal text answer => exact ⟨rfl, rfl, nofun, rfl, rfl⟩
  | unwritten g events boundary e h =>
      -- a failure of arguments is no conflict
      cases e with
      | conflict reason => exact h.elim
      | unexpectedConflict => exact h.elim
      | _ => exact ⟨rfl, rfl, fun _ => rfl, rfl, rfl⟩
  | written g events boundary times records guard answer =>
      exact (accounts_written g events boundary records guard answer).timeRead g.timepiece times

end Call

/-! ## A run of calls -/

section Totals

/-- An exchange that accounts for its entries adds one to its own conflict counter, if it is a
conflict, and to no other one. -/
theorem Call.Accounts.value_conflicts {call : Call} {reply : Reply} {entries : List Entry}
    (h : call.Accounts reply entries) (label : ConflictLabel) :
    (Counter.conflicts label).value entries = if reply.conflict? = some label then 1 else 0 := by
  rw [Entry.value_conflicts_eq, h.conflicts_eq]
  cases reply.conflict? with
  | none => rfl
  | some found =>
      rw [Option.toList_some, List.count_singleton]
      simp only [beq_iff_eq, Option.some.injEq]

theorem totals_of_accounts (exchanges : List Exchange)
    (hEach : ∀ x ∈ exchanges, x.call.Accounts x.reply x.entries) :
    Counter.appends.value (exchanges.flatMap Exchange.entries) =
        (exchanges.flatMap Exchange.entries).countP Entry.isWrite ∧
      Counter.reads.value (exchanges.flatMap Exchange.entries) =
        ((exchanges.filter (·.call.isRead)).flatMap Exchange.entries).countP Entry.isQuery ∧
      ∀ label, (Counter.conflicts label).value (exchanges.flatMap Exchange.entries) =
        exchanges.countP (·.reply.conflict? = some label) := by
  induction exchanges with
  | nil => exact ⟨rfl, rfl, fun _ => rfl⟩
  | cons x others ih =>
      have first := hEach x List.mem_cons_self
      obtain ⟨writes, queries, conflicts⟩ :=
        ih fun y hy => hEach y (List.mem_cons_of_mem _ hy)
      rw [List.flatMap_cons]
      refine ⟨?_, ?_, ?_⟩
      · rw [Counter.value_append, List.countP_append, first.appends_eq, writes]
      · rw [Counter.value_append, first.reads_eq, queries]
        cases hRead : x.call.isRead with
        | true =>
            rw [List.filter_cons, if_pos hRead, List.flatMap_cons, List.countP_append]
        | false =>
            have skipped : ¬ x.call.isRead = true := by rw [hRead]; exact Bool.false_ne_true
            rw [List.filter_cons, if_neg skipped, first.no_query hRead, Nat.zero_add]
      · intro label
        rw [Counter.value_append, first.value_conflicts, conflicts, List.countP_cons, Nat.add_comm]
        simp only [decide_eq_true_eq]

end Totals

namespace Call
variable {σ : Type} [Backend σ]

theorem journal_performAll (calls : List Call) (d : Deployment σ) :
    (performAll calls d).1.map Exchange.call = calls ∧
      (performAll calls d).2.journal =
        d.journal ++ (performAll calls d).1.flatMap Exchange.entries ∧
      ∀ x ∈ (performAll calls d).1, x.call.Accounts x.reply x.entries := by
  induction calls generalizing d with
  | nil => exact ⟨rfl, (List.append_nil _).symm, fun x hx => absurd hx List.not_mem_nil⟩
  | cons call calls ih =>
      obtain ⟨entered, goes⟩ := call.journal_perform d
      obtain ⟨inOrder, later, each⟩ := ih (call.perform d).2
      refine ⟨congrArg (List.cons call) inOrder, ?_, ?_⟩
      · change (performAll calls (call.perform d).2).2.journal = _
        rw [later, entered, performAll, List.flatMap_cons, List.append_assoc]
      · intro x hx
        rcases List.mem_cons.1 hx with hFirst | hLater
        · rw [hFirst]
          exact goes.accounts
        · exact each x hLater

/-- On any database in any state, after any run of calls: what was entered in the journal was entered
by the calls, in their order.  As many appends have been counted as writes were requested, and as many
reads as reads have requested queries.  For each reason as many conflicts have been counted as
appends were answered with a conflict of this reason; a conflict goes with one count and with one
notice above the level of debugging, a warning or, for an unexpected one, an error, and any other
answer goes with none. -/
theorem counters_account_for_calls (calls : List Call) (d : Deployment σ) :
    let exchanges := (performAll calls d).1
    let entered := exchanges.flatMap Exchange.entries
    exchanges.map Exchange.call = calls ∧
    (performAll calls d).2.journal = d.journal ++ entered ∧
    Counter.appends.value entered = entered.countP Entry.isWrite ∧
    Counter.reads.value entered =
      ((exchanges.filter (·.call.isRead)).flatMap Exchange.entries).countP Entry.isQuery ∧
    (∀ label, (Counter.conflicts label).value entered =
      exchanges.countP (·.reply.conflict? = some label)) ∧
    ∀ x ∈ exchanges, x.entries.filterMap Entry.conflict? = x.reply.conflict?.toList ∧
      x.entries.filterMap Entry.alarm? = x.reply.alarm?.toList := by
  intro exchanges entered
  obtain ⟨inOrder, journal, each⟩ := journal_performAll calls d
  obtain ⟨writes, queries, conflicts⟩ := totals_of_accounts exchanges each
  refine ⟨inOrder, journal, writes, queries, conflicts, ?_⟩
  intro x hx
  exact ⟨(each x hx).conflicts_eq, (each x hx).alarms_eq⟩

/-! The database refuses the first append for no reason, and two of the later ones for theirs. -/

namespace Turnover
open Gateway.Refusing

def calls : List Call := [
  .append gate [arrived] .unchecked,
  .append gate [arrived] .unchecked,
  .append gate [departed] ⟨.all, .none⟩,
  .append gate [departed] ⟨.all, .exactly .first⟩,
  .append gate [departed] ⟨.all, .exactly .first⟩,
  .append gate [] .unchecked,
  .read gate unquotable .full,
  .read gate .all .full,
  .ping gate]

theorem refusals_are_counted :
    Counter.appends.value (performAll calls start).2.journal = 5 ∧
    Counter.reads.value (performAll calls start).2.journal = 1 ∧
    (∀ label, (Counter.conflicts label).value (performAll calls start).2.journal = 1) ∧
    (performAll calls start).1.map (fun x => x.entries.filterMap Entry.alarm?) =
      [[(.error, .unexplained)], [], [(.warn, .rejected .matchingEventsExist)], [],
        [(.warn, .rejected (.matchingEventsExistAfter .first))], [], [], [], []] := by
  obtain ⟨-, journal, writes, queries, conflicts, each⟩ := counters_account_for_calls calls start
  have alarms := List.map_congr_left fun x hx => (each x hx).2
  have replies : (performAll calls start).1.map (fun x => (x.reply.conflict?, x.reply.alarm?)) =
      [(some .unexpected, some (.error, .unexplained)), (none, none),
        (some .matchingEventsExist, some (.warn, .rejected .matchingEventsExist)), (none, none),
        (some .matchingEventsExistAfter, some (.warn, .rejected (.matchingEventsExistAfter .first))),
        (none, none), (none, none), (none, none), (none, none)] := by decide +kernel
  rw [journal, alarms]
  refine ⟨writes.trans ?_, queries.trans ?_, fun label => (conflicts label).trans ?_, ?_⟩
  · decide +kernel
  · decide +kernel
  · have counted := congrArg (List.countP (·.1 = some label)) replies
    rw [List.countP_map] at counted
    refine counted.trans ?_
    cases label <;> rfl
  · have due := congrArg (List.map (·.2.toList)) replies
    rw [List.map_map] at due
    exact due

end Turnover
end Call
end BoundaryLog
