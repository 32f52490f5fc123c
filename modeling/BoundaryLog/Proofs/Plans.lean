import BoundaryLog.Guard
import BoundaryLog.Proofs.Clauses
import BoundaryLog.Query.Scan
import BoundaryLog.Query.Selection

/-! # What the programs of a query come to

Every program of a query, that of a read and that of a guard alike, has the filter of the query
and possibly one for positions.  So they all fail alike, with `Query.fault?`, and they all select
what the query selects, as far as the positions allow. -/
set_option autoImplicit false
namespace BoundaryLog

open Predicate (quotations quotationsOfAll vetted bad?)

/-! ## The filter of a query -/

namespace Criterion

/-- The texts of a criterion as its predicate quotes them: the types in their namespace, then the
tags. -/
def literals (typePrefix : String) (c : Criterion) : List String :=
  c.types.elim [] (fun types => types.toList.map (typePrefix ++ ·)) ++ c.tags.elim [] LabelSet.toList

theorem literals_eq (typePrefix : String) (c : Criterion) :
    c.literals typePrefix = c.typeList.map (typePrefix ++ ·) ++ c.tagList := by
  obtain ⟨types, tags, onlyLast⟩ := c
  cases types <;> cases tags <;> rfl

end Criterion

namespace Predicate

theorem quotationsOfAll_append (ps qs : List Predicate) :
    quotationsOfAll (ps ++ qs) = quotationsOfAll ps ++ quotationsOfAll qs := by
  simp only [quotationsOfAll_eq_flatMap, List.flatMap_append]

theorem quotationsOfAll_hasTag (tags : List String) : quotationsOfAll (tags.map .hasTag) = tags := by
  induction tags with
  | nil => rfl
  | cons t ts ih => simp [quotationsOfAll, quotations, ih]

theorem quotations_conjunction (ps : List Predicate) :
    quotations (conjunction ps) = quotationsOfAll ps := by
  match ps with
  | [] => rfl
  | [p] => simp [conjunction, quotationsOfAll]
  | p :: q :: rest => rfl

theorem quotations_disjunction (ps : List Predicate) :
    quotations (disjunction ps) = quotationsOfAll ps := by
  match ps with
  | [] => rfl
  | [p] => simp [disjunction, quotationsOfAll]
  | p :: q :: rest => rfl

theorem namesTypes_conjunction (ps : List Predicate) (h : ∀ p ∈ ps, p.NamesTypes) :
    (conjunction ps).NamesTypes := by
  match ps with
  | [] => trivial
  | [p] => exact h p (List.mem_cons_self ..)
  | p :: q :: rest => exact (allNameTypes_iff (p :: q :: rest)).2 h

theorem namesTypes_disjunction (ps : List Predicate) (h : ∀ p ∈ ps, p.NamesTypes) :
    (disjunction ps).NamesTypes := by
  match ps with
  | [] => exact (allNameTypes_iff []).2 h
  | [p] => exact h p (List.mem_cons_self ..)
  | p :: q :: rest => exact (allNameTypes_iff (p :: q :: rest)).2 h

/-- Whether a predicate is about the position of an event alone. -/
def IsPosition : Predicate → Prop
  | .position _ _ => True
  | _ => False

theorem quotations_of_isPosition (p : Predicate) (h : p.IsPosition) : quotations p = [] := by
  cases p with
  | position comparison bound => rfl
  | _ => exact h.elim

theorem namesTypes_of_isPosition (p : Predicate) (h : p.IsPosition) : p.NamesTypes := by
  cases p with
  | position comparison bound => trivial
  | _ => exact h.elim

end Predicate

namespace Criterion
variable (typePrefix : String) (c : Criterion)

theorem quotations_predicate : quotations (c.predicate typePrefix) = c.literals typePrefix := by
  rw [predicate, Predicate.quotations_conjunction, Predicate.quotationsOfAll_append,
    Predicate.quotationsOfAll_hasTag, literals_eq]
  congr 1
  cases c.typeList with
  | nil => rfl
  | cons t ts => simp [quotationsOfAll, quotations]

theorem namesTypes_predicate : (c.predicate typePrefix).NamesTypes := by
  apply Predicate.namesTypes_conjunction
  intro p hp
  rcases List.mem_append.1 hp with hType | hTag
  · cases hList : c.typeList with
    | nil => simp [hList] at hType
    | cons t ts =>
        simp only [hList, List.isEmpty_cons, Bool.false_eq_true, if_false, List.mem_singleton] at hType
        rw [hType]
        exact List.cons_ne_nil _ _
  · obtain ⟨t, -, rfl⟩ := List.mem_map.1 hTag
    trivial

theorem holds_predicate (r : Record) (place : Nat) :
    (c.predicate typePrefix).holds r.type r.data.tags place =
      decide (c.Matches typePrefix r) := by
  have byType : (if c.typeList.isEmpty then [] else [.typeIn (c.typeList.map (typePrefix ++ ·))] :
      List Predicate).all (Predicate.holds r.type r.data.tags place) = true ↔
      c.typeList = [] ∨ ∃ t ∈ c.typeList, typePrefix ++ t = r.type := by
    cases c.typeList with
    | nil => simp
    | cons t ts =>
        rw [List.isEmpty_cons, if_neg Bool.false_ne_true, List.all_cons, List.all_nil, Bool.and_true,
          Predicate.holds, List.contains_iff_mem, List.mem_map]
        exact (or_iff_right (List.cons_ne_nil t ts)).symm
  have byTags : (c.tagList.map .hasTag).all (Predicate.holds r.type r.data.tags place) = true ↔
      ∀ t ∈ c.tagList, t ∈ r.data.tags := by
    simp [Predicate.holds]
  rw [Bool.eq_iff_iff, decide_eq_true_eq, matches_iff, predicate, Predicate.holds_conjunction,
    List.all_append, Bool.and_eq_true]
  exact and_congr byType byTags

end Criterion

namespace Query
variable (typePrefix : String) (q : Query)

/-- The texts of a query as its predicate quotes them. -/
def literals : List String :=
  match q with
  | .all => []
  | .criteria cs => cs.flatMap (Criterion.literals typePrefix)

theorem literals_eq : q.literals typePrefix = q.alternatives.flatMap (Criterion.literals typePrefix) := by
  cases q <;> rfl

/-- The filter of a query; none where everything is selected. -/
def filters : List Predicate :=
  if q.alternatives.isEmpty then []
  else [.disjunction (q.alternatives.map (Criterion.predicate typePrefix))]

theorem quotationsOfAll_filters : quotationsOfAll (q.filters typePrefix) = q.literals typePrefix := by
  have each : ∀ cs : List Criterion, quotationsOfAll (cs.map (Criterion.predicate typePrefix)) =
      cs.flatMap (Criterion.literals typePrefix) := by
    intro cs
    induction cs with
    | nil => rfl
    | cons c cs ih =>
        rw [List.map_cons, quotationsOfAll, ih, c.quotations_predicate, List.flatMap_cons]
  rw [filters, literals_eq]
  cases q.alternatives with
  | nil => rfl
  | cons c cs =>
      rw [List.isEmpty_cons, if_neg Bool.false_ne_true, quotationsOfAll, quotationsOfAll,
        List.append_nil, Predicate.quotations_disjunction, each]

theorem namesTypes_of_mem_filters (p : Predicate) (hp : p ∈ q.filters typePrefix) :
    p.NamesTypes := by
  unfold filters at hp
  split at hp
  · cases hp
  · rw [List.mem_singleton.1 hp]
    apply Predicate.namesTypes_disjunction
    intro r hr
    obtain ⟨c, -, rfl⟩ := List.mem_map.1 hr
    exact c.namesTypes_predicate typePrefix

theorem all_holds_filters (r : Record) (place : Nat) :
    (q.filters typePrefix).all (Predicate.holds r.type r.data.tags place) =
      decide (q.Selects typePrefix r) := by
  rw [filters, Bool.eq_iff_iff, decide_eq_true_eq, selects_iff_alternatives]
  cases hList : q.alternatives with
  | nil => simp
  | cons c cs =>
      simp only [List.isEmpty_cons, Bool.false_eq_true, if_false, List.all_cons, List.all_nil,
        Bool.and_true, Predicate.holds_disjunction, List.any_map, List.any_eq_true,
        Function.comp, Criterion.holds_predicate, decide_eq_true_eq, reduceCtorEq, false_or]

/-- Why a query has no programs, if it has none: it asks for the last event of several criteria, or
some text cannot stand between quotes. -/
def fault? : Option Failure :=
  if q.supported then ((q.literals typePrefix).findSome? bad?).map BadLiteral.toFailure
  else some (.unsupportedQuery onlyLastUnsupported)

theorem supported_single (c : Criterion) : (criteria [c]).supported = true := by
  simp [supported, alternatives]

/-- Whether a criterion asks for the last event alone is no reason against a query of its own. -/
theorem fault?_single (c : Criterion) (flag : Bool) :
    (criteria [{ c with onlyLast := flag }]).fault? typePrefix =
      (criteria [c]).fault? typePrefix := by
  rw [fault?, fault?, supported_single, supported_single]
  rfl

theorem not_mem_literals (h : q.fault? typePrefix = none) (s : String)
    (hs : s ∈ q.literals typePrefix) : '"' ∉ s.toList := by
  unfold fault? at h
  split at h
  · rw [Option.map_eq_none_iff, List.findSome?_eq_none_iff] at h
    exact Predicate.not_mem_of_bad?_eq_none s (h s hs)
  · cases h

theorem plan_eq : q.plan typePrefix =
    if q.supported then .ok ⟨(q.filters typePrefix).head?, q.onlyLast⟩
    else .error (.unsupportedQuery onlyLastUnsupported) := by
  rw [plan, filters]
  cases hList : q.alternatives with
  | nil => simp [supported, onlyLast, hList]
  | cons c cs => rfl

theorem head?_filters_toList : (q.filters typePrefix).head?.toList = q.filters typePrefix := by
  unfold filters
  split <;> rfl

end Query

/-! ## Programs -/

theorem Program.text_eq (program : Program) :
    program.text = match (quotationsOfAll program.filters).findSome? bad? with
      | some bad => .error bad.toFailure
      | none => .ok program.written := by
  rw [Program.text, Program.render_eq_vetted, vetted]
  cases (quotationsOfAll program.filters).findSome? bad? <;> rfl

namespace Query
variable (typePrefix : String) (q : Query)

/-- A result for a query, unless it has no programs. -/
def orFault {α : Type} (result : α) : Except Failure α :=
  match q.fault? typePrefix with
  | some e => .error e
  | none => .ok result

theorem orFault_eq_ok_iff {α : Type} (result x : α) :
    q.orFault typePrefix result = .ok x ↔ q.fault? typePrefix = none ∧ result = x := by
  unfold orFault
  cases q.fault? typePrefix <;> simp

theorem orFault_map {α β : Type} (result : α) (f : α → β) :
    (q.orFault typePrefix result).map f = q.orFault typePrefix (f result) := by
  unfold orFault
  cases q.fault? typePrefix <;> rfl

/-- A program whose filters are that of the query and filters for positions. -/
structure Runs (program : Program) (positions : List Predicate) : Prop where
  filters_eq : program.filters = q.filters typePrefix ++ positions
  isPosition : ∀ p ∈ positions, p.IsPosition

namespace Runs
variable {typePrefix : String} {q : Query} {program : Program} {positions : List Predicate}
  (hRuns : q.Runs typePrefix program positions)
include hRuns

theorem quotationsOfAll_eq : quotationsOfAll program.filters = q.literals typePrefix := by
  have nothing : quotationsOfAll positions = [] := by
    rw [Predicate.quotationsOfAll_eq_flatMap, List.flatMap_eq_nil_iff]
    intro p hp
    exact p.quotations_of_isPosition (hRuns.isPosition p hp)
  rw [hRuns.filters_eq, Predicate.quotationsOfAll_append, quotationsOfAll_filters, nothing,
    List.append_nil]

theorem namesTypes (p : Predicate) (hp : p ∈ program.filters) : p.NamesTypes := by
  rw [hRuns.filters_eq] at hp
  rcases List.mem_append.1 hp with hQuery | hPosition
  · exact q.namesTypes_of_mem_filters typePrefix p hQuery
  · exact p.namesTypes_of_isPosition (hRuns.isPosition p hPosition)

theorem selects_eq (r : Record) (place : Nat) :
    program.selects r.type r.data.tags place = (decide (q.Selects typePrefix r) &&
      positions.all (Predicate.holds r.type r.data.tags place)) := by
  rw [Program.selects, hRuns.filters_eq, List.all_append, all_holds_filters]

end Runs

/-- Programs made from the plan of a query are written unless the query has no programs. -/
theorem text_of_plan (make : QueryPlan → Program) (positions : List Predicate)
    (hRuns : q.Runs typePrefix (make ⟨(q.filters typePrefix).head?, q.onlyLast⟩) positions) :
    (do let plan ← q.plan typePrefix; (make plan).text) =
      q.orFault typePrefix (make ⟨(q.filters typePrefix).head?, q.onlyLast⟩).written := by
  rw [plan_eq, orFault, fault?]
  split
  · simp only [bind, Except.bind]
    rw [Program.text_eq, hRuns.quotationsOfAll_eq]
    cases (q.literals typePrefix).findSome? bad? <;> rfl
  · rfl

end Query
end BoundaryLog
