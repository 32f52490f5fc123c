import BoundaryLog.Proofs.Appends
import BoundaryLog.Proofs.Scans

/-! # Guards and reads agree

The guard of an append and a read of the same query are different programs: one counts events after
a position, the other lists events from a position on and may turn them round and cut them off.  Both
can be written for the same queries, and a guard holds on a log if and only if the read that looks
for what the append does not expect finds nothing there. -/
set_option autoImplicit false
namespace BoundaryLog

theorem MemoryLog.examine_isTrue (log : MemoryLog) (program : String) (holds : Bool)
    (hAnswer : answer program log.records = .ok [.bool holds]) :
    (examine [.isTrue program] log).1 = .ok holds := by
  cases holds <;> simp [examine, Guard.isTrue, run, hAnswer]

/-- Whether a guard and a read say the same of a log: both are answered, and the guard holds if and
only if the read finds nothing. -/
def MemoryLog.Agree (guard : Guard) (text : String) (log : MemoryLog) : Prop :=
  ∃ holds rows, (examine [guard] log).1 = .ok holds ∧ (log.run text).1 = .ok rows ∧
    (holds = true ↔ rows = [])

namespace Query
variable (typePrefix : String) (q : Query)

theorem orFault_eq_error_iff {α : Type} (result : α) (e : Failure) :
    q.orFault typePrefix result = .error e ↔ q.fault? typePrefix = some e := by
  unfold orFault
  cases q.fault? typePrefix <;> simp

theorem run_scanText (traversal : Traversal) (text : String)
    (hText : q.scanText typePrefix traversal = .ok text) (log : MemoryLog) :
    (log.run text).1 = .ok (q.rows typePrefix traversal log.records) := by
  -- held rows are no part of a run, so the query of the same log without them tells its answer
  have answered := q.query_scanText typePrefix traversal text hText { log with heldRows := none } rfl
  exact congrArg Prod.fst answered

/-- Neither the order nor the flag for the last event makes a read without a limit empty. -/
theorem traverse_eq_nil_iff (traversal : Traversal) (hLimit : traversal.limit = none)
    (records : List Record) :
    q.traverse typePrefix traversal records = [] ↔
      ∀ entry ∈ q.selected typePrefix records, ¬ traversal.Covers entry.2 := by
  have covered : ((q.selected typePrefix records).filter fun entry =>
      traversal.Covers entry.2) = [] ↔
      ∀ entry ∈ q.selected typePrefix records, ¬ traversal.Covers entry.2 := by
    simp [List.filter_eq_nil_iff]
  rw [← covered, traverse_eq, hLimit]
  cases q.onlyLast <;> cases traversal.backwards <;> simp

end Query

namespace Boundary
variable (typePrefix : String) (boundary : Boundary)

theorem guard?_eq_orFault (h : boundary.expected ≠ .any) :
    boundary.guard? typePrefix =
      boundary.query.orFault typePrefix
        (some (.isTrue (boundary.guardProgram typePrefix).written)) := by
  rw [guard?_eq, boundary.expected.isAny_eq_false h, if_neg Bool.false_ne_true]

/-- A guard agrees with the read over the positions that the append forbids. -/
theorem guard_agrees_with_read (h : boundary.expected ≠ .any) (traversal : Traversal)
    (hLimit : traversal.limit = none)
    (hCovers : ∀ place, traversal.Covers place ↔ boundary.expected.Forbids place) (text : String)
    (hText : boundary.query.scanText typePrefix traversal = .ok text) (log : MemoryLog) :
    ∃ guard, boundary.guard? typePrefix = .ok (some guard) ∧ log.Agree guard text := by
  have run := boundary.query.run_scanText typePrefix traversal text hText log
  obtain ⟨hFault, -⟩ := (boundary.query.scanText_eq_ok_iff typePrefix traversal text).1 hText
  have answer := boundary.answer_guardProgram typePrefix (boundary.expected.isAny_eq_false h)
    hFault log.records
  refine ⟨.isTrue (boundary.guardProgram typePrefix).written, ?_, ?_⟩
  · rw [guard?_eq_orFault typePrefix boundary h, Query.orFault_eq_ok_iff]
    exact ⟨hFault, rfl⟩
  · refine ⟨_, _, log.examine_isTrue _ _ answer, run, ?_⟩
    rw [Query.rows, List.map_eq_nil_iff, Query.traverse_eq_nil_iff _ _ _ hLimit, Bool.not_eq_true',
      decide_eq_false_iff_not, Crossed]
    simp only [hCovers, not_exists, not_and]

end Boundary

/-- Guards and reads of a query fail alike, whatever is expected and however the read goes.  Where
they do not fail, the guard that no selected event exists holds on a log if and only if the full read
finds nothing, and the guard that none exists after a position holds if and only if the read from the
next position on finds nothing. -/
theorem guards_agree_with_reads (typePrefix : String) (q : Query) (log : MemoryLog) :
    (∀ expected, expected ≠ .any → ∀ traversal e,
      Boundary.guard? typePrefix ⟨q, expected⟩ = .error e ↔
        q.scanText typePrefix traversal = .error e) ∧
    (∀ text, q.scanText typePrefix .full = .ok text →
      ∃ guard, Boundary.guard? typePrefix ⟨q, .none⟩ = .ok (some guard) ∧ log.Agree guard text) ∧
    ∀ p next : Position, next.value = p.value + 1 →
      ∀ text, q.scanText typePrefix ⟨some next, false, none⟩ = .ok text →
        ∃ guard, Boundary.guard? typePrefix ⟨q, .exactly p⟩ = .ok (some guard) ∧
          log.Agree guard text := by
  refine ⟨?_, ?_, ?_⟩
  · intro expected hExpected traversal e
    rw [Boundary.guard?_eq_orFault typePrefix ⟨q, expected⟩ hExpected, Query.scanText_eq,
      Query.orFault_eq_error_iff, Query.orFault_eq_error_iff]
  · intro text hText
    apply Boundary.guard_agrees_with_read typePrefix ⟨q, .none⟩ nofun .full rfl _ text hText
    intro place
    exact Iff.rfl
  · intro p next hNext text hText
    apply Boundary.guard_agrees_with_read typePrefix ⟨q, .exactly p⟩ nofun
      ⟨some next, false, none⟩ rfl _ text hText
    intro place
    -- positions from the next one on are those after the expected one
    change next.value ≤ place ↔ p.value < place
    omega

/-- A query whose only criterion has empty sets and asks for the last event. -/
def Query.anythingLast : Query := .criteria [⟨some .empty, some .empty, true⟩]

/-- A log with two events, the tag of the second of which looks like the end of a program. -/
def Query.shortLog : MemoryLog where
  records := [
    ⟨"here", "/", "ns.A", ⟨.null, [], "2024-01-01 00:00:00", none⟩⟩,
    ⟨"here", "/", "ns.B", ⟨.bool true, ["x) TOP 1"], "2024-01-02 00:00:00", some .null⟩⟩]
  programs := []
  heldRows := none

/-- The second event of the log came after the first position, so the guard after it fails. -/
theorem guard_after_first_agrees :
    ∃ guard, Boundary.guard? "ns." ⟨Query.anythingLast, .exactly .first⟩ = .ok (some guard) ∧
      (MemoryLog.examine [guard] Query.shortLog).1 = .ok false := by
  let second : Position := ⟨2, by decide, by decide⟩
  let text := (Query.anythingLast.scanProgram "ns." ⟨some second, false, none⟩).written
  have hText : Query.anythingLast.scanText "ns." ⟨some second, false, none⟩ = .ok text :=
    (Query.scanText_eq_ok_iff "ns." _ _ text).2 ⟨rfl, rfl⟩
  obtain ⟨-, -, after⟩ := guards_agree_with_reads "ns." Query.anythingLast Query.shortLog
  obtain ⟨guard, hGuard, holds, rows, hHolds, hRows, agree⟩ := after .first second rfl text hText
  rw [Query.run_scanText "ns." Query.anythingLast _ text hText] at hRows
  cases hRows
  refine ⟨guard, hGuard, ?_⟩
  cases holds with
  | false => exact hHolds
  | true => exact absurd (agree.1 rfl) (List.cons_ne_nil _ _)

end BoundaryLog
