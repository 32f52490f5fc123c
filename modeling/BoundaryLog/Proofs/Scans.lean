import BoundaryLog.Backend.Memory
import BoundaryLog.Proofs.Rows
import BoundaryLog.Proofs.Statements

/-! # A read returns what the query selects

The program of a read, run on the records as the database understands its text, finds exactly the
records that the query and the traversal select, in their order. -/
set_option autoImplicit false
namespace BoundaryLog
namespace Query

variable (typePrefix : String) (traversal : Traversal) (q : Query)

/-- The program of a read, for a query that has programs. -/
def scanProgram : Program where
  filters := q.filters typePrefix ++ (startFilter traversal).toList
  descending := traversal.backwards || q.onlyLast
  top := if q.onlyLast then some .one else traversal.limit
  projection := .envelope

theorem runs_scanProgram :
    q.Runs typePrefix (q.scanProgram typePrefix traversal) (startFilter traversal).toList := by
  refine ⟨rfl, ?_⟩
  intro p hp
  unfold startFilter at hp
  cases hBound : traversal.bound with
  | none => simp [hBound] at hp
  | some bound =>
      simp only [hBound, Option.map_some, Option.toList_some, List.mem_singleton] at hp
      rw [hp]
      trivial

theorem scanText_eq :
    q.scanText typePrefix traversal =
      q.orFault typePrefix (q.scanProgram typePrefix traversal).written := by
  have text := q.text_of_plan typePrefix
    (fun plan => {
      filters := plan.predicate.toList ++ (startFilter traversal).toList
      descending := traversal.backwards || plan.onlyLast
      top := if plan.onlyLast then some .one else traversal.limit
      projection := .envelope })
    (startFilter traversal).toList
    (by rw [head?_filters_toList]; exact q.runs_scanProgram typePrefix traversal)
  simp only [head?_filters_toList] at text
  rw [scanProgram, ← text, scanText, scan]
  cases q.plan typePrefix <;> rfl

theorem scanText_eq_ok_iff (text : String) :
    q.scanText typePrefix traversal = .ok text ↔
      q.fault? typePrefix = none ∧ (q.scanProgram typePrefix traversal).written = text := by
  rw [scanText_eq, orFault_eq_ok_iff]

/-- The filter for the start is true of the positions that the read goes over. -/
theorem all_holds_startFilter (r : Record) (place : Nat) :
    (startFilter traversal).toList.all (Predicate.holds r.type r.data.tags place) =
      decide (traversal.Covers place) := by
  unfold startFilter Traversal.Covers
  obtain ⟨bound, backwards, limit⟩ := traversal
  cases bound with
  | none => rfl
  | some bound => cases backwards <;> simp [Predicate.holds, Comparison.holds, Position.count]

theorem selects_scanProgram (r : Record) (place : Nat) :
    (q.scanProgram typePrefix traversal).statement.selects r place =
      (decide (q.Selects typePrefix r) && decide (traversal.Covers place)) := by
  rw [Program.selects_statement, (q.runs_scanProgram typePrefix traversal).selects_eq,
    all_holds_startFilter]

theorem filter_selects_scanProgram (records : List Record) :
    ((records.zipIdx 1).filter fun (r, place) =>
        (q.scanProgram typePrefix traversal).statement.selects r place) =
      (q.selected typePrefix records).filter fun (_, place) => traversal.Covers place := by
  rw [selected, List.filter_filter]
  apply List.filter_congr
  rintro ⟨r, place⟩ -
  simp only [selects_scanProgram, Bool.and_comm]

/-- The statement of a read finds what the read is meant to return. -/
theorem matching_scanProgram (records : List Record) :
    (q.scanProgram typePrefix traversal).statement.matching records =
      q.traverse typePrefix traversal records := by
  rw [Statement.matching, traverse_eq]
  rw [filter_selects_scanProgram]
  cases hLast : q.onlyLast with
  | true => simp [scanProgram, Program.statement, hLast, Count.one]
  | false => cases hLimit : traversal.limit <;> simp [scanProgram, Program.statement, hLast, hLimit]

theorem statement_of_scanText (text : String) (hText : q.scanText typePrefix traversal = .ok text) :
    Statement.ofText text = .ok (q.scanProgram typePrefix traversal).statement := by
  obtain ⟨hFault, rfl⟩ := (q.scanText_eq_ok_iff typePrefix traversal text).1 hText
  exact Statement.ofText_of_runs (q.runs_scanProgram typePrefix traversal) hFault

/-- A query of which one read can be written has no fault, and every read of it can be written. -/
theorem scanText_of_scanText (traversal other : Traversal) (text : String)
    (hText : q.scanText typePrefix traversal = .ok text) :
    q.fault? typePrefix = none ∧ ∃ otherText, q.scanText typePrefix other = .ok otherText := by
  obtain ⟨hFault, -⟩ := (q.scanText_eq_ok_iff typePrefix traversal text).1 hText
  exact ⟨hFault, _, (q.scanText_eq_ok_iff typePrefix other _).2 ⟨hFault, rfl⟩⟩

/-- The rows that a read is meant to return. -/
def rows (records : List Record) : List Json :=
  (q.traverse typePrefix traversal records).map fun (r, place) => r.envelope place

/-- A read that can be written is answered. -/
theorem query_scanText (text : String) (hText : q.scanText typePrefix traversal = .ok text)
    (log : MemoryLog) (hHeld : log.heldRows = none) :
    log.query text =
      (.ok (q.rows typePrefix traversal log.records),
        { log with programs := log.programs ++ [text] }) := by
  have understood := q.statement_of_scanText typePrefix traversal text hText
  have projection : (q.scanProgram typePrefix traversal).statement.projection = .envelope := rfl
  have answer : MemoryLog.answer text log.records =
      .ok (q.rows typePrefix traversal log.records) := by
    unfold MemoryLog.answer
    rw [understood]
    simp only [Statement.run, projection, matching_scanProgram, rows]
  simp only [MemoryLog.query, hHeld, MemoryLog.run, answer]

/-- A read that can be written is never rejected: on whatever log, it is answered with a row for
each selected record that the traversal goes over, in the order of the traversal and as many as it
wants, and nothing but the list of evaluated programs changes. -/
theorem read_answers_with_selected_rows (text : String)
    (hText : q.scanText typePrefix traversal = .ok text) (log : MemoryLog)
    (hHeld : log.heldRows = none) :
    log.query text =
      (.ok ((q.traverse typePrefix traversal log.records).map fun (r, place) =>
        Json.ofMembers [("type", .string r.type), ("tags", .ofStrings r.data.tags),
          ("data", r.data.payload), ("metadata", r.data.metadata.getD .null),
          ("recorded_at", .string r.data.recordedAt), ("position", .ofNat place)]),
        { log with programs := log.programs ++ [text] }) := by
  rw [q.query_scanText typePrefix traversal text hText log hHeld]
  simp only [rows, Record.envelope_eq_ofMembers]

/-! Of the sales with a tag that looks like the end of a program, some stand before the bound or beyond
the limit; the other records have another type, a type of another namespace, or not the tag. -/

def label : String := "x) ORDER BY e.id AS INT DESC TOP 1 //"

def salesWithLabel : Query := .criteria [(Criterion.new.restrictTypes ["A"]).requireTags [label]]

def entryOf (type : String) (tags : List String) : Record :=
  ⟨"here", "/", type, ⟨.bool true, tags, "2024-01-02 00:00:00", some .null⟩⟩

def mixedSales : MemoryLog where
  records := [entryOf "ns.A" [label], entryOf "ns.A" ["a", label], entryOf "ns.A" ["x"],
    entryOf "ns.B" [label], entryOf "xy.A" [label], entryOf "ns.A" [label, "z"],
    entryOf "ns.A" [label]]
  programs := []
  heldRows := none

/-- From the second position on, two at most. -/
def fromSecond : Traversal := ⟨Position.ofNat? 2, false, Count.ofNat? 2⟩

theorem read_of_labelled_sales_answers_with_selected_rows :
    ∃ text, salesWithLabel.scanText "ns." fromSecond = .ok text ∧
      (mixedSales.query text).1 = .ok [
        .ofMembers [("type", .string "ns.A"), ("tags", .ofStrings ["a", label]),
          ("data", .bool true), ("metadata", .null),
          ("recorded_at", .string "2024-01-02 00:00:00"), ("position", .ofNat 2)],
        .ofMembers [("type", .string "ns.A"), ("tags", .ofStrings [label, "z"]),
          ("data", .bool true), ("metadata", .null),
          ("recorded_at", .string "2024-01-02 00:00:00"), ("position", .ofNat 6)]] := by
  have hText : salesWithLabel.scanText "ns." fromSecond =
      .ok (salesWithLabel.scanProgram "ns." fromSecond).written := by
    rw [scanText_eq, orFault_eq_ok_iff]
    exact ⟨rfl, rfl⟩
  refine ⟨_, hText, ?_⟩
  rw [read_answers_with_selected_rows "ns." fromSecond salesWithLabel _ hText mixedSales rfl]
  rfl

end Query
end BoundaryLog
