import BoundaryLog.Proofs.Deliveries
import BoundaryLog.Proofs.Histories

/-! # Namespaces are kept apart

Stored types are texts put behind a namespace, so one stored type may come from several pairs of a
namespace and a type.  It does not from two namespaces neither of which starts with the other one.
A query that restricts the type in every criterion then selects nothing that was written in the
other namespace, and so neither a read nor a boundary depends on it. -/
set_option autoImplicit false
namespace BoundaryLog

/-- Whether neither of two namespaces starts with the other one. -/
structure Foreign (own other : String) : Prop where
  not_longer : ∀ rest, other ≠ own ++ rest
  not_shorter : ∀ rest, own ≠ other ++ rest

theorem exists_eq_append_iff (front text : String) :
    (∃ rest, text = front ++ rest) ↔ front.toList <+: text.toList := by
  constructor
  · rintro ⟨rest, rfl⟩
    rw [String.toList_append]
    exact List.prefix_append _ _
  · rintro ⟨rest, hRest⟩
    refine ⟨String.ofList rest, ?_⟩
    rw [← String.toList_inj, String.toList_append, String.toList_ofList, hRest]

theorem foreign_iff (own other : String) :
    Foreign own other ↔ ¬ own.toList <+: other.toList ∧ ¬ other.toList <+: own.toList := by
  rw [← exists_eq_append_iff, ← exists_eq_append_iff, not_exists, not_exists]
  exact ⟨fun h => ⟨h.not_longer, h.not_shorter⟩, fun h => ⟨h.1, h.2⟩⟩

instance (own other : String) : Decidable (Foreign own other) :=
  decidable_of_iff _ (foreign_iff own other).symm

/-- No stored type is of two namespaces that are foreign to each other. -/
theorem Foreign.append_ne {own other : String} (h : Foreign own other) (s t : String) :
    own ++ s ≠ other ++ t := by
  intro same
  have ofOwn : own.toList <+: (own ++ s).toList := (exists_eq_append_iff _ _).1 ⟨s, rfl⟩
  have ofOther : other.toList <+: (own ++ s).toList := (exists_eq_append_iff _ _).1 ⟨t, same⟩
  obtain ⟨notLonger, notShorter⟩ := (foreign_iff own other).1 h
  rcases List.prefix_or_prefix_of_prefix ofOwn ofOther with hLonger | hShorter
  · exact notLonger hLonger
  · exact notShorter hShorter

-- a namespace that starts with another one shares stored types with it
example : ¬ Foreign "a." "a.b." ∧ "a." ++ "b.C" = "a.b." ++ "C" := by decide

/-- Whether a query has criteria and each of them restricts the type. -/
structure Query.Typed (q : Query) : Prop where
  some_criterion : q.alternatives ≠ []
  each_restricts : ∀ c ∈ q.alternatives, c.typeList ≠ []

theorem Query.Typed.not_selects_foreign {q : Query} (hTyped : q.Typed) {own other : String}
    (hForeign : Foreign own other) {r : Record} (hIn : r.In other) : ¬ q.Selects own r := by
  intro hSelects
  rcases (q.selects_iff_alternatives own r).1 hSelects with hAll | ⟨c, hc, hMatches⟩
  · exact hTyped.some_criterion hAll
  · rcases ((c.matches_iff own r).1 hMatches).1 with hAny | ⟨type, -, hStored⟩
    · exact hTyped.each_restricts c hc hAny
    · obtain ⟨rest, hRest⟩ := hIn
      exact hForeign.append_ne type rest (hStored.trans hRest)

/-! ## Logs of two namespaces -/

namespace Append

/-- The deposits that the log takes in during a run of appends. -/
def acceptedBy (appends : List Append) (d : Deployment MemoryLog) : List Deposit :=
  (runAll appends d).1.flatMap Turn.accepted

theorem config_of_mem_runAll (appends : List Append) (d : Deployment MemoryLog) (turn : Turn)
    (hTurn : turn ∈ (runAll appends d).1) (x : Deposit) (hx : x ∈ turn.deposits) :
    x.config = turn.append.gateway.config := by
  induction appends generalizing d with
  | nil => cases hTurn
  | cons a appends ih =>
      rcases List.mem_cons.1 hTurn with rfl | hLater
      · exact a.gateway.config_of_mem_deposits a.events _ x hx
      · exact ih (a.run d).2 hLater

/-- What the log takes in was handed to the gateway of one of the appends. -/
theorem exists_append_of_mem_acceptedBy (appends : List Append) (d : Deployment MemoryLog)
    (x : Deposit) (hx : x ∈ acceptedBy appends d) :
    ∃ a ∈ appends, x.config = a.gateway.config := by
  obtain ⟨turn, hTurn, hAccepted⟩ := List.mem_flatMap.1 hx
  have hDeposit := turn.mem_deposits_of_mem_accepted x hAccepted
  refine ⟨turn.append, ?_, config_of_mem_runAll appends d turn hTurn x hDeposit⟩
  rw [← (turns_runAll appends d).1]
  exact List.mem_map_of_mem hTurn

theorem records_of_empty (appends : List Append) (start : Deployment MemoryLog)
    (hStart : start.backend = .empty) :
    (runAll appends start).2.backend.records = (acceptedBy appends start).map Deposit.record ∧
      (runAll appends start).2.backend.heldRows = none := by
  obtain ⟨records, heldRows⟩ := records_runAll appends start
  rw [hStart] at records heldRows
  exact ⟨records, heldRows⟩

end Append

theorem Deposit.selects_iff (x : Deposit) {own : String} (hOwn : x.config.typePrefix = own)
    (q : Query) : q.Selects own x.record ↔ q.Admits x.event := by
  subst hOwn
  exact q.selects_record_iff x.config.source x.config.typePrefix x.reading x.event

section TwoNamespaces
variable {own other : String} (hForeign : Foreign own other) {q : Query} (hTyped : q.Typed)
  {deposits : List Deposit}
  (hEach : ∀ x ∈ deposits, x.config.typePrefix = own ∨ x.config.typePrefix = other)
include hForeign hTyped hEach

/-- What is selected among the deposits of two namespaces are the admitted ones of its own. -/
theorem Query.mem_selected_deposits_iff (r : Record) (place : Nat) :
    (r, place) ∈ q.selected own (deposits.map Deposit.record) ↔
      ∃ x, (x, place) ∈ deposits.zipIdx 1 ∧ x.config.typePrefix = own ∧ q.Admits x.event ∧
        x.record = r := by
  rw [q.mem_selected_iff, List.zipIdx_map, List.mem_map]
  constructor
  · rintro ⟨⟨⟨x, place⟩, hMem, hEntry⟩, hSelects⟩
    obtain ⟨rfl, rfl⟩ := Prod.mk.inj hEntry
    refine ⟨x, hMem, ?_⟩
    rcases hEach x (List.fst_mem_of_mem_zipIdx hMem) with hOwn | hOther
    · exact ⟨hOwn, (x.selects_iff hOwn q).1 hSelects, rfl⟩
    · -- a type of the query behind its own namespace is no stored type of the other one
      have foreignType : x.record.In other := ⟨x.event.type, by rw [← hOther]; rfl⟩
      exact absurd hSelects (hTyped.not_selects_foreign hForeign foreignType)
  · rintro ⟨x, hMem, hOwn, hAdmits, rfl⟩
    exact ⟨⟨(x, place), hMem, rfl⟩, (x.selects_iff hOwn q).2 hAdmits⟩

theorem Boundary.crossed_deposits_iff (expected : Expectation) :
    Crossed own ⟨q, expected⟩ (deposits.map Deposit.record) ↔
      ∃ x place, (x, place) ∈ deposits.zipIdx 1 ∧ x.config.typePrefix = own ∧ q.Admits x.event ∧
        expected.Forbids place := by
  constructor
  · rintro ⟨⟨r, place⟩, hMem, hForbids⟩
    obtain ⟨x, hx, hOwn, hAdmits, -⟩ :=
      (Query.mem_selected_deposits_iff hForeign hTyped hEach r place).1 hMem
    exact ⟨x, place, hx, hOwn, hAdmits, hForbids⟩
  · rintro ⟨x, place, hx, hOwn, hAdmits, hForbids⟩
    have hMem := (Query.mem_selected_deposits_iff hForeign hTyped hEach x.record place).2
      ⟨x, hx, hOwn, hAdmits, rfl⟩
    exact ⟨(x.record, place), hMem, hForbids⟩

end TwoNamespaces

/-- A write that a condition was put to is accepted or refused for a conflict. -/
theorem Boundary.verdict_decides (typePrefix : String) (boundary : Boundary)
    (hAny : boundary.expected ≠ .any) (hFault : boundary.query.fault? typePrefix = none)
    (records : List Record) :
    ((∃ conflict, boundary.verdict typePrefix records = .error (.conflict conflict)) ↔
      boundary.Crossed typePrefix records) ∧
    (boundary.verdict typePrefix records = .ok () ↔ ¬ boundary.Crossed typePrefix records) := by
  have report : ∃ conflict, boundary.expected.violation.1 = .conflict conflict := by
    cases hExpected : boundary.expected with
    | any => exact absurd hExpected hAny
    | none => exact ⟨_, rfl⟩
    | exactly p => exact ⟨_, rfl⟩
  obtain ⟨conflict, hConflict⟩ := report
  rw [boundary.verdict_of_no_fault typePrefix records hAny hFault, hConflict]
  by_cases hCrossed : boundary.Crossed typePrefix records
  · simp [hCrossed]
  · simp [hCrossed]

/-- Two namespaces neither of which starts with the other one share an empty log, in whatever order
appends are made to it and whatever becomes of them.  A query with a type in every criterion is put
through a gateway of the first one.  However it is read, only events are delivered that were appended
in this namespace.  And an append under the condition that it selects nothing, or nothing after a
position, is refused for a conflict exactly if such an event was appended in this namespace; else it
is accepted. -/
theorem namespaces_are_isolated (own other : String) (hForeign : Foreign own other)
    (start : Deployment MemoryLog) (hStart : start.backend = .empty) (appends : List Append)
    (hAppends : ∀ a ∈ appends,
      a.gateway.config.typePrefix = own ∨ a.gateway.config.typePrefix = other)
    (query : Query) (hTyped : query.Typed) (text : String)
    (hText : query.scanText own .full = .ok text) (g : Gateway) (hOwn : g.config.typePrefix = own) :
    (∀ traversal, ∃ feed, (g.read query traversal (Append.runAll appends start).2).1 = .ok feed ∧
      ∀ e, feed.Delivers e → ∃ x, (x, e.position.value) ∈ (Append.acceptedBy appends start).zipIdx 1 ∧
        x.config.typePrefix = own ∧ x.SeenAs own e.position.value e) ∧
    ∀ (events : List Event) (expected : Expectation), events ≠ [] → (∀ e ∈ events, e.type ≠ "") →
      expected ≠ .any →
      let answer := (g.append events ⟨query, expected⟩ (Append.runAll appends start).2).1
      let contradicted := ∃ x place, (x, place) ∈ (Append.acceptedBy appends start).zipIdx 1 ∧
        x.config.typePrefix = own ∧ query.Admits x.event ∧ expected.Forbids place
      ((∃ conflict, answer = .error (.conflict conflict)) ↔ contradicted) ∧
        (answer = .ok () ↔ ¬ contradicted) := by
  subst hOwn
  obtain ⟨records, unheld⟩ := Append.records_of_empty appends start hStart
  have each : ∀ x ∈ Append.acceptedBy appends start,
      x.config.typePrefix = g.config.typePrefix ∨ x.config.typePrefix = other := by
    intro x hx
    obtain ⟨a, ha, hConfig⟩ := Append.exists_append_of_mem_acceptedBy appends start x hx
    rw [hConfig]
    exact hAppends a ha
  constructor
  · intro traversal
    obtain ⟨-, written⟩ := query.scanText_of_scanText _ .full traversal text hText
    obtain ⟨feed, hFeed⟩ := (g.exists_feed_iff query traversal _ unheld).2 written
    refine ⟨feed, hFeed, ?_⟩
    intro e hDelivers
    obtain ⟨⟨r, place⟩, hMem, hShows⟩ :=
      (g.delivers_iff query traversal _ unheld feed hFeed e).1 hDelivers
    have selected := query.mem_of_mem_traverse _ _ _ _ hMem
    rw [records] at selected
    obtain ⟨x, hx, hOwn, -, rfl⟩ :=
      (Query.mem_selected_deposits_iff hForeign hTyped each r place).1 selected
    have seen := x.seenAs_of_shows g.config.typePrefix place e hShows
    obtain rfl := seen.position_eq
    exact ⟨x, hx, hOwn, seen⟩
  · intro events expected hEvents hTypes hAny
    obtain ⟨hFault, -⟩ := query.scanText_of_scanText _ .full .full text hText
    have answer := (g.append_answers events ⟨query, expected⟩ (Append.runAll appends start).2).answer_eq
    have decided := Boundary.verdict_decides g.config.typePrefix ⟨query, expected⟩ hAny hFault
      (Append.runAll appends start).2.backend.records
    rw [g.verdict_of_typed events _ hEvents hTypes] at answer
    rw [← answer, records, Boundary.crossed_deposits_iff hForeign hTyped each] at decided
    exact decided

namespace TwoNamespaces

/-- Both gateways have appended an event of one of the types. -/
def aOrC : Query := .criteria [Criterion.new.restrictTypes ["A", "C"]]

theorem french_boundary_ignores_english_events :
    let last := (Append.runAll appends start).2
    (∃ feed, (french.read aOrC .full last).1 = .ok feed ∧
      ∀ e, feed.Delivers e → e.event.type = "A") ∧
    (∃ conflict, (french.append [Event.new "B" .null] ⟨aOrC, .none⟩ last).1 =
      .error (.conflict conflict)) ∧
    (french.append [Event.new "B" .null] ⟨aOrC, .exactly .first⟩ last).1 = .ok () := by
  have hTyped : aOrC.Typed := ⟨nofun, by decide +kernel⟩
  have hText : aOrC.scanText "é." .full = .ok (aOrC.scanProgram "é." .full).written :=
    (aOrC.scanText_eq_ok_iff _ _ _).2 ⟨by decide +kernel, rfl⟩
  obtain ⟨reads, decides⟩ := namespaces_are_isolated "é." "en." (by decide +kernel) start rfl appends
    (by decide +kernel) aOrC hTyped _ hText french rfl
  have accepted : (Append.acceptedBy appends start).zipIdx 1 = [
      (⟨french.config, (Event.new "A" .null).setMetadata .null, second 7 (by decide)⟩, 1),
      (⟨english.config, Event.new "C" .null, second 9 (by decide)⟩, 2)] := rfl
  have french_first : ∀ x place, (x, place) ∈ (Append.acceptedBy appends start).zipIdx 1 →
      x.config.typePrefix = "é." → x.event.type = "A" ∧ place = 1 := by
    intro x place hx hFrench
    rw [accepted] at hx
    rcases List.mem_cons.1 hx with hFirst | hLater
    · obtain ⟨rfl, rfl⟩ := Prod.mk.inj hFirst
      exact ⟨rfl, rfl⟩
    · obtain ⟨rfl, -⟩ := Prod.mk.inj (List.mem_singleton.1 hLater)
      exact absurd hFrench (by decide)
  have typed : ∀ e ∈ [Event.new "B" .null], e.type ≠ "" := by decide
  refine ⟨?_, ?_, ?_⟩
  · obtain ⟨feed, hFeed, delivered⟩ := reads .full
    refine ⟨feed, hFeed, ?_⟩
    intro e hDelivers
    obtain ⟨x, hx, hFrench, seen⟩ := delivered e hDelivers
    rw [seen.type_eq (congrArg String.utf8ByteSize hFrench)]
    exact (french_first x _ hx hFrench).1
  · apply (decides _ .none (by decide) typed nofun).1.2
    rw [accepted]
    exact ⟨_, 1, List.mem_cons_self, rfl, by decide +kernel, trivial⟩
  · apply (decides _ (.exactly .first) (by decide) typed nofun).2.2
    rintro ⟨x, place, hx, hFrench, -, hLater⟩
    obtain rfl := (french_first x place hx hFrench).2
    exact absurd hLater (by decide)

end TwoNamespaces
end BoundaryLog
