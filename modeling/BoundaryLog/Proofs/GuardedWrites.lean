import BoundaryLog.Backend.Memory

/-! # Writes under several guards

All guards of a write are put to the log as it was before the write.  A guard that holds leaves
nothing behind but its program among those that were evaluated, so the log that the next one meets
has the same records.  The first guard that does not hold decides the answer; the records are
added, all of them, only if there is none. -/
set_option autoImplicit false
namespace BoundaryLog

namespace Guard
variable (records : List Record) (g : Guard)

/-- Whether a guard holds on a log: its kind is known, its program is understood, and the program
answers yes and nothing else. -/
def Holds : Prop :=
  g.kind = queryKind ∧ ∃ statement, Statement.ofText g.program = .ok statement ∧
    statement.run records = [.bool true]

/-- The answer that a guard which does not hold gives to a write. -/
inductive Objects : Except TransportFailure WriteAnswer → Prop where
  | unknownKind (hKind : g.kind ≠ queryKind) :
      Objects (.error (.rejected 400 ("unknown precondition " ++ g.kind)))
  | notUnderstood (hKind : g.kind = queryKind) (fault : Statement.Fault)
      (hProgram : Statement.ofText g.program = .error fault) :
      Objects (.error (.rejected 400 fault.message))
  | notTrue (hKind : g.kind = queryKind) (statement : Statement)
      (hProgram : Statement.ofText g.program = .ok statement)
      (hRows : statement.run records ≠ [.bool true]) : Objects (.ok .refused)

theorem holds_or_objects : g.Holds records ∨ ∃ answer, g.Objects records answer := by
  by_cases hKind : g.kind = queryKind
  · cases hProgram : Statement.ofText g.program with
    | error fault => exact Or.inr ⟨_, .notUnderstood hKind fault hProgram⟩
    | ok statement =>
        by_cases hRows : statement.run records = [.bool true]
        · exact Or.inl ⟨hKind, statement, hProgram, hRows⟩
        · exact Or.inr ⟨_, .notTrue hKind statement hProgram hRows⟩
  · exact Or.inr ⟨_, .unknownKind hKind⟩

/-- Either all guards hold, or one of them is the first to object. -/
theorem all_hold_or_first_objects (guards : List Guard) :
    (∀ g ∈ guards, g.Holds records) ∨
      ∃ before g rest answer, guards = before ++ g :: rest ∧ (∀ h ∈ before, h.Holds records) ∧
        g.Objects records answer := by
  induction guards with
  | nil => exact Or.inl nofun
  | cons g guards ih =>
      rcases g.holds_or_objects records with hHolds | ⟨answer, hObjects⟩
      · rcases ih with hAll | ⟨before, first, rest, answer, rfl, hBefore, hObjects⟩
        · exact Or.inl (List.forall_mem_cons.2 ⟨hHolds, hAll⟩)
        · exact Or.inr ⟨g :: before, first, rest, answer, rfl,
            List.forall_mem_cons.2 ⟨hHolds, hBefore⟩, hObjects⟩
      · exact Or.inr ⟨[], g, guards, answer, rfl, nofun, hObjects⟩

/-- The programs of guards of the known kind. -/
def programs (guards : List Guard) : List String :=
  (guards.filter fun g => g.kind = queryKind).map program

theorem programs_cons_of_kind (guards : List Guard) (hKind : g.kind = queryKind) :
    programs (g :: guards) = g.program :: programs guards := by
  simp [programs, hKind]

end Guard

namespace MemoryLog
variable (records : List Record) (log : MemoryLog) (g : Guard) (guards : List Guard)

/-- A guard that holds hands the write on to the guards behind it. -/
theorem write_cons_of_holds (h : g.Holds log.records) :
    log.write records (g :: guards) =
      { log with programs := log.programs ++ [g.program] }.write records guards := by
  obtain ⟨hKind, statement, hProgram, hRows⟩ := h
  have rows : answer g.program log.records = .ok [.bool true] := by
    rw [answer, hProgram]
    exact congrArg Except.ok hRows
  have examined : examine (g :: guards) log =
      examine guards { log with programs := log.programs ++ [g.program] } := by
    simp only [examine, if_pos hKind, run, rows, if_true]
  unfold write
  rw [examined]

/-- A guard that objects decides the write, whatever guards stand behind it. -/
theorem write_cons_of_objects (answer : Except TransportFailure WriteAnswer)
    (h : g.Objects log.records answer) :
    log.write records (g :: guards) =
      (answer, { log with programs := log.programs ++ Guard.programs [g] }) := by
  cases h with
  | unknownKind hKind =>
      have none : Guard.programs [g] = [] := by simp [Guard.programs, hKind]
      rw [none, List.append_nil, write]
      simp only [examine, if_neg hKind]
      rfl
  | notUnderstood hKind fault hProgram =>
      rw [g.programs_cons_of_kind [] hKind, write]
      simp only [examine, if_pos hKind, run, MemoryLog.answer, hProgram]
      rfl
  | notTrue hKind statement hProgram hRows =>
      rw [g.programs_cons_of_kind [] hKind, write]
      simp only [examine, if_pos hKind, run, MemoryLog.answer, hProgram, if_neg hRows]
      rfl

theorem write_of_all_hold (h : ∀ g ∈ guards, g.Holds log.records) :
    log.write records guards =
      (.ok .written, { log with
        records := log.records ++ records
        programs := log.programs ++ Guard.programs guards }) := by
  induction guards generalizing log with
  | nil =>
      rw [Guard.programs, List.filter_nil, List.map_nil, List.append_nil]
      rfl
  | cons g guards ih =>
      obtain ⟨first, others⟩ := List.forall_mem_cons.1 h
      have later := ih { log with programs := log.programs ++ [g.program] } others
      rw [log.write_cons_of_holds records g guards first, later,
        g.programs_cons_of_kind guards first.1, List.append_assoc, List.singleton_append]

theorem write_of_first_objects (before rest : List Guard)
    (hBefore : ∀ h ∈ before, h.Holds log.records) (answer : Except TransportFailure WriteAnswer)
    (hObjects : g.Objects log.records answer) :
    log.write records (before ++ g :: rest) =
      (answer, { log with programs := log.programs ++ Guard.programs (before ++ [g]) }) := by
  induction before generalizing log with
  | nil => exact log.write_cons_of_objects records g rest answer hObjects
  | cons first before ih =>
      obtain ⟨holds, others⟩ := List.forall_mem_cons.1 hBefore
      have later := ih { log with programs := log.programs ++ [first.program] } others hObjects
      rw [List.cons_append, log.write_cons_of_holds records first _ holds, later,
        List.cons_append, first.programs_cons_of_kind _ holds.1, List.append_assoc,
        List.singleton_append]

/-- A write is answered and leaves a log in one of two ways.  All guards hold on the log as it was:
then the records are added, all of them behind the old ones, and the programs of all guards have
been evaluated.  Or the guards up to some guard hold and that one objects: then its objection is the
answer, be it a rejection or a refusal, no record is added, and the programs of the known kind up to
and including its own have been evaluated. -/
theorem write_is_decided_by_first_objection (answer : Except TransportFailure WriteAnswer)
    (after : MemoryLog) :
    log.write records guards = (answer, after) ↔
      ((∀ g ∈ guards, g.Holds log.records) ∧ answer = .ok .written ∧
          after = { log with
            records := log.records ++ records
            programs := log.programs ++ Guard.programs guards }) ∨
        ∃ before g rest, guards = before ++ g :: rest ∧ (∀ h ∈ before, h.Holds log.records) ∧
          g.Objects log.records answer ∧
          after = { log with programs := log.programs ++ Guard.programs (before ++ [g]) } := by
  constructor
  · intro hWrite
    rcases Guard.all_hold_or_first_objects log.records guards with
      hAll | ⟨before, g, rest, objection, rfl, hBefore, hObjects⟩
    · rw [log.write_of_all_hold records guards hAll] at hWrite
      obtain ⟨rfl, rfl⟩ := Prod.mk.inj hWrite
      exact Or.inl ⟨hAll, rfl, rfl⟩
    · rw [log.write_of_first_objects records g before rest hBefore objection hObjects] at hWrite
      obtain ⟨rfl, rfl⟩ := Prod.mk.inj hWrite
      exact Or.inr ⟨before, g, rest, rfl, hBefore, hObjects, rfl⟩
  · rintro (⟨hAll, rfl, rfl⟩ | ⟨before, g, rest, rfl, hBefore, hObjects, rfl⟩)
    · exact log.write_of_all_hold records guards hAll
    · exact log.write_of_first_objects records g before rest hBefore answer hObjects

/-- The guard in the middle decides, and the one behind it is not even understood. -/
example : (MemoryLog.empty.write [] [.isTrue "FROM e IN events PROJECT INTO COUNT() == 0",
    ⟨"isSubjectPristine", "/"⟩, .isTrue "FROM nowhere"]).1 =
      .error (.rejected 400 "unknown precondition isSubjectPristine") := by rfl

end MemoryLog
end BoundaryLog
