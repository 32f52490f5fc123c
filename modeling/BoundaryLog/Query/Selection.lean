import BoundaryLog.Query.Basic
import BoundaryLog.Record

/-! # What a query selects

The meaning of queries and reads on a log, said without the query language: events are numbered
from 1, the query and the bound pick events, the direction orders them, and the flag for the last
event or the limit cuts them off. -/
set_option autoImplicit false
namespace BoundaryLog

/-- Whether a record matches a criterion: its type is a namespace followed by one of the accepted
types, and it has every required tag.  A side that is missing or empty restricts nothing. -/
def Criterion.Matches (typePrefix : String) (c : Criterion) (r : Record) : Prop :=
  (∀ types ∈ c.types, types.toList = [] ∨ ∃ t ∈ types.toList, typePrefix ++ t = r.type) ∧
    ∀ tags ∈ c.tags, ∀ t ∈ tags.toList, t ∈ r.data.tags

instance (typePrefix : String) (c : Criterion) (r : Record) :
    Decidable (c.Matches typePrefix r) := by unfold Criterion.Matches; infer_instance

namespace Query

/-- Whether a record is selected.  Without criteria every record is. -/
def Selects (typePrefix : String) (q : Query) (r : Record) : Prop :=
  match q with
  | .all => True
  | .criteria cs => cs = [] ∨ ∃ c ∈ cs, c.Matches typePrefix r

instance (typePrefix : String) (q : Query) (r : Record) : Decidable (q.Selects typePrefix r) :=
  match q with
  | .all => inferInstanceAs (Decidable True)
  | .criteria cs => inferInstanceAs (Decidable (cs = [] ∨ ∃ c ∈ cs, c.Matches typePrefix r))

/-- Whether some criterion asks for the last event alone. -/
def AsksLast (q : Query) : Prop :=
  match q with
  | .all => False
  | .criteria cs => ∃ c ∈ cs, c.onlyLast = true

instance (q : Query) : Decidable q.AsksLast :=
  match q with
  | .all => inferInstanceAs (Decidable False)
  | .criteria cs => inferInstanceAs (Decidable (∃ c ∈ cs, c.onlyLast = true))

end Query

/-- The selected records with their positions. -/
def Query.selected (typePrefix : String) (q : Query) (records : List Record) :
    List (Record × Nat) :=
  (records.zipIdx 1).filter fun (r, _) => q.Selects typePrefix r

/-- Whether a read goes over a position. -/
def Traversal.Covers (traversal : Traversal) (place : Nat) : Prop :=
  match traversal.bound with
  | none => True
  | some p => if traversal.backwards then place ≤ p.value else p.value ≤ place

instance (traversal : Traversal) (place : Nat) : Decidable (traversal.Covers place) := by
  unfold Traversal.Covers
  split <;> infer_instance

/-- The selected records that a read returns, with their positions. -/
def Query.traverse (typePrefix : String) (traversal : Traversal) (q : Query)
    (records : List Record) : List (Record × Nat) :=
  let covered := (q.selected typePrefix records).filter fun (_, place) => traversal.Covers place
  let ordered := if traversal.backwards ∨ q.AsksLast then covered.reverse else covered
  if q.AsksLast then ordered.take 1
  else
    match traversal.limit with
    | none => ordered
    | some n => ordered.take n.value

/-! ## In terms of the lists of a query

A query is compiled from the list of its criteria and the lists of their labels, in which a side that is
missing looks like one that is empty. -/

theorem Criterion.matches_iff (typePrefix : String) (c : Criterion) (r : Record) :
    c.Matches typePrefix r ↔
      (c.typeList = [] ∨ ∃ t ∈ c.typeList, typePrefix ++ t = r.type) ∧
        ∀ t ∈ c.tagList, t ∈ r.data.tags := by
  obtain ⟨types, tags, onlyLast⟩ := c
  cases types <;> cases tags <;> simp [Matches, typeList, tagList]

namespace Query
variable (typePrefix : String) (q : Query)

theorem selects_iff_alternatives (r : Record) :
    q.Selects typePrefix r ↔
      q.alternatives = [] ∨ ∃ c ∈ q.alternatives, c.Matches typePrefix r := by
  cases q with
  | all => exact iff_of_true trivial (Or.inl rfl)
  | criteria cs => exact Iff.rfl

theorem asksLast_iff : q.AsksLast ↔ q.onlyLast = true := by
  cases q with
  | all => exact iff_of_false id Bool.false_ne_true
  | criteria cs => exact List.any_eq_true.symm

theorem traverse_eq (traversal : Traversal) (records : List Record) :
    q.traverse typePrefix traversal records =
      let covered := (q.selected typePrefix records).filter fun (_, place) =>
        traversal.Covers place
      let ordered := if traversal.backwards || q.onlyLast then covered.reverse else covered
      if q.onlyLast then ordered.take 1
      else
        match traversal.limit with
        | none => ordered
        | some n => ordered.take n.value := by
  unfold traverse
  simp only [asksLast_iff, Bool.or_eq_true]

end Query
end BoundaryLog
