import BoundaryLog.Proofs.Agreement

/-! # What an expected position means

The writer of new events names the position of the last selected event that it has seen.  What it
has not seen stands behind this position, and that is all that its append is refused for.  The append
does not need the event that was seen: it is also accepted where nothing is selected any more, where
the selected events end before the position, and where an event that is not selected has it. -/
set_option autoImplicit false
namespace BoundaryLog

namespace Query
variable (typePrefix : String) (q : Query) (records : List Record)

/-- The highest position of a selected event, if there is one. -/
def highest : Option Nat := ((q.selected typePrefix records).map Prod.snd).max?

theorem highest_eq_some_iff (n : Nat) :
    q.highest typePrefix records = some n ↔
      (∃ r, (r, n) ∈ q.selected typePrefix records) ∧
        ∀ entry ∈ q.selected typePrefix records, entry.2 ≤ n := by
  rw [highest, List.max?_eq_some_iff, List.mem_map, List.forall_mem_map]
  constructor
  · rintro ⟨⟨⟨r, place⟩, hMem, rfl⟩, hLast⟩
    exact ⟨⟨r, hMem⟩, hLast⟩
  · rintro ⟨⟨r, hMem⟩, hLast⟩
    exact ⟨⟨(r, n), hMem, rfl⟩, hLast⟩

/-- The highest position lies behind a place if and only if any position does. -/
theorem lt_highest_iff (place : Nat) :
    (∃ n, q.highest typePrefix records = some n ∧ place < n) ↔
      ∃ entry ∈ q.selected typePrefix records, place < entry.2 := by
  constructor
  · rintro ⟨n, hHighest, hBehind⟩
    obtain ⟨⟨r, hMem⟩, -⟩ := (q.highest_eq_some_iff typePrefix records n).1 hHighest
    exact ⟨(r, n), hMem, hBehind⟩
  · rintro ⟨entry, hMem, hBehind⟩
    cases hHighest : q.highest typePrefix records with
    | none =>
        rw [highest, List.max?_eq_none_iff, List.map_eq_nil_iff] at hHighest
        rw [hHighest] at hMem
        cases hMem
    | some n =>
        obtain ⟨-, hLast⟩ := (q.highest_eq_some_iff typePrefix records n).1 hHighest
        exact ⟨n, rfl, Nat.lt_of_lt_of_le hBehind (hLast entry hMem)⟩

end Query

namespace Gateway
variable (g : Gateway) (q : Query) (p : Position) (guard : Option Guard)

/-- On whatever log, an append of events that are in order, under a query that can be written and an
expected position, is accepted if and only if the highest position of a selected event, if there is
one, is not behind the expected one.  Otherwise it is refused for exactly that reason, and the log
stays as it was. -/
theorem append_after_position (hGuard : Boundary.guard? g.config.typePrefix ⟨q, .exactly p⟩ = .ok guard)
    (events : List Event) (hEvents : events ≠ []) (hTypes : ∀ e ∈ events, e.type ≠ "")
    (d : Deployment MemoryLog) :
    let highest := q.highest g.config.typePrefix d.backend.records
    let result := g.append events ⟨q, .exactly p⟩ d
    (result.1 = .ok () ↔ ∀ n, highest = some n → n ≤ p.value) ∧
      (result.1 ≠ .ok () → result.1 = .error (.conflict (.matchingEventsExistAfter p)) ∧
        result.2.backend.records = d.backend.records) := by
  intro highest result
  have hFault : q.fault? g.config.typePrefix = none := by
    rw [Boundary.guard?_eq_orFault g.config.typePrefix ⟨q, .exactly p⟩ nofun,
      Query.orFault_eq_ok_iff] at hGuard
    exact hGuard.1
  obtain ⟨answer, records, -⟩ := g.append_answers events ⟨q, .exactly p⟩ d
  rw [g.verdict_of_typed events _ hEvents hTypes,
    Boundary.verdict_of_no_fault g.config.typePrefix ⟨q, .exactly p⟩ d.backend.records nofun hFault]
    at answer records
  have crossed : Boundary.Crossed g.config.typePrefix ⟨q, .exactly p⟩ d.backend.records ↔
      ∃ n, highest = some n ∧ p.value < n :=
    (q.lt_highest_iff g.config.typePrefix d.backend.records p.value).symm
  by_cases hCrossed : Boundary.Crossed g.config.typePrefix ⟨q, .exactly p⟩ d.backend.records
  · rw [if_pos hCrossed] at answer records
    have refused : result.1 ≠ .ok () := by
      rw [answer]
      nofun
    refine ⟨⟨fun h => absurd h refused, ?_⟩, fun _ => ⟨answer, ?_⟩⟩
    · intro within
      obtain ⟨n, hHighest, hBehind⟩ := crossed.1 hCrossed
      exact absurd (within n hHighest) (Nat.not_le_of_lt hBehind)
    · exact records.trans (List.append_nil _)
  · rw [if_neg hCrossed] at answer
    refine ⟨⟨fun _ n hHighest => ?_, fun _ => answer⟩, fun h => absurd answer h⟩
    exact Nat.le_of_not_lt fun hBehind => hCrossed (crossed.2 ⟨n, hHighest, hBehind⟩)

/-! All events of a log but the first one have another type than the query accepts, so the selected
events end before the expected position, which another event has. -/

namespace Expected

def evening : Instant := ⟨75600, 0, by decide, by decide, two_nanosPerSecond_pos⟩

def gate : Gateway := ⟨.default, 0⟩

def fifth : Position := ⟨5, by decide, by decide⟩

def paid : Query := .criteria [Criterion.new.restrictTypes ["paid"]]

def ledger : Deployment MemoryLog where
  backend := ⟨gate.recordAt (Event.new "paid" .null) evening ::
    List.replicate 4 (gate.recordAt (Event.new "sent" .null) evening), [], none⟩
  timepieces := fun _ => .fixed evening
  journal := []

def batch : List Event := [Event.new "paid" .null]

theorem append_after_last_paid :
    (gate.append batch ⟨paid, .exactly fifth⟩ ledger).1 = .ok () ∧
      (gate.append batch ⟨.all, .exactly .first⟩ ledger).1 =
        .error (.conflict (.matchingEventsExistAfter .first)) := by
  have ofPaid : Boundary.guard? gate.config.typePrefix ⟨paid, .exactly fifth⟩ = .ok _ := rfl
  have ofAll : Boundary.guard? gate.config.typePrefix ⟨.all, .exactly .first⟩ = .ok _ := rfl
  have typed : ∀ e ∈ batch, e.type ≠ "" := by decide
  have lastPaid : paid.highest gate.config.typePrefix ledger.backend.records = some 1 := by
    decide +kernel
  have last : Query.all.highest gate.config.typePrefix ledger.backend.records = some 5 := rfl
  obtain ⟨accepted, -⟩ :=
    append_after_position gate paid fifth _ ofPaid batch nofun typed ledger
  obtain ⟨decided, refused⟩ :=
    append_after_position gate .all .first _ ofAll batch nofun typed ledger
  constructor
  · apply accepted.2
    intro n hHighest
    cases lastPaid.symm.trans hHighest
    decide
  · refine (refused fun h => ?_).1
    exact absurd (decided.1 h 5 last) (by decide)

/-- On an empty log no selected event has the expected position, and the append is accepted. -/
theorem vacant_log_meets_expected_position :
    let vacant : Deployment MemoryLog := ⟨.empty, fun _ => .fixed evening, []⟩
    ¬ ((gate.append batch ⟨.all, .exactly .first⟩ vacant).1 = .ok () ↔
      Query.all.highest gate.config.typePrefix vacant.backend.records =
        some Position.first.value) := by
  intro vacant same
  have accepted : (gate.append batch ⟨.all, .exactly .first⟩ vacant).1 = .ok () :=
    (gate.append_answers batch ⟨.all, .exactly .first⟩ vacant).answer_eq
  have nothing : Query.all.highest gate.config.typePrefix vacant.backend.records = none := rfl
  rw [nothing] at same
  cases same.1 accepted

end Expected
end Gateway
end BoundaryLog
