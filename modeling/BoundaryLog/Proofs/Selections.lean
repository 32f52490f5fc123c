import BoundaryLog.Query.Selection

/-! # What is selected in a log that grows

A query admits events as their authors know them, and selects the records of exactly these events.
A selected event keeps its position when the log grows, and a newly selected one stands behind all
that was there before. -/
set_option autoImplicit false
namespace BoundaryLog

/-! ## Events and their records -/

/-- Whether an event has an accepted type and every required tag.  A side that is missing or empty
restricts nothing. -/
def Criterion.Admits (c : Criterion) (e : Event) : Prop :=
  (∀ types ∈ c.types, types.toList = [] ∨ e.type ∈ types.toList) ∧
    ∀ tags ∈ c.tags, ∀ t ∈ tags.toList, t ∈ e.tags.toList

instance (c : Criterion) (e : Event) : Decidable (c.Admits e) :=
  inferInstanceAs (Decidable (_ ∧ _))

/-- Whether an event is admitted.  Without criteria every event is. -/
def Query.Admits (q : Query) (e : Event) : Prop :=
  match q with
  | .all => True
  | .criteria cs => cs = [] ∨ ∃ c ∈ cs, c.Admits e

instance (q : Query) (e : Event) : Decidable (q.Admits e) :=
  match q with
  | .all => inferInstanceAs (Decidable True)
  | .criteria cs => inferInstanceAs (Decidable (cs = [] ∨ ∃ c ∈ cs, c.Admits e))

theorem Criterion.matches_record_iff (c : Criterion) (source typePrefix : String) (t : Instant)
    (e : Event) : c.Matches typePrefix (e.record source typePrefix t) ↔ c.Admits e := by
  have types (labels : List String) :
      (∃ type ∈ labels, typePrefix ++ type = typePrefix ++ e.type) ↔ e.type ∈ labels := by
    simp only [String.append_right_inj, exists_eq_right]
  simp only [Matches, Admits, Event.record, types]

theorem Query.selects_record_iff (q : Query) (source typePrefix : String) (t : Instant) (e : Event) :
    q.Selects typePrefix (e.record source typePrefix t) ↔ q.Admits e := by
  cases q with
  | all => exact Iff.rfl
  | criteria cs => simp only [Selects, Admits, Criterion.matches_record_iff]

/-! ## Growing logs -/

/-- A read without a bound goes over every position. -/
theorem Traversal.filter_covers_of_unbounded (traversal : Traversal) (h : traversal.bound = none)
    (entries : List (Record × Nat)) :
    (entries.filter fun (_, place) => traversal.Covers place) = entries := by
  apply List.filter_eq_self.2
  intro entry _
  apply decide_eq_true
  rw [Covers, h]
  trivial

/-- The last of ascending entries has the highest position. -/
theorem le_of_getLast?_of_pairwise {found : List (Record × Nat)}
    (ordered : found.Pairwise fun a b => a.2 < b.2) {last : Record × Nat}
    (hLast : found.getLast? = some last) : ∀ entry ∈ found, entry.2 ≤ last.2 := by
  obtain ⟨earlier, rfl⟩ := List.getLast?_eq_some_iff.1 hLast
  intro entry hEntry
  rcases List.mem_append.1 hEntry with hEarlier | hSame
  · exact Nat.le_of_lt
      ((List.pairwise_append.1 ordered).2.2 entry hEarlier last (List.mem_singleton_self last))
  · exact Nat.le_of_eq (congrArg Prod.snd (List.mem_singleton.1 hSame))

namespace Query
variable (typePrefix : String) (q : Query)

theorem mem_selected_iff (records : List Record) (entry : Record × Nat) :
    entry ∈ q.selected typePrefix records ↔
      entry ∈ records.zipIdx 1 ∧ q.Selects typePrefix entry.1 := by
  rw [selected, List.mem_filter, decide_eq_true_eq]

theorem selected_append (old new : List Record) :
    q.selected typePrefix (old ++ new) = q.selected typePrefix old ++
      (new.zipIdx (1 + old.length)).filter fun (r, _) => q.Selects typePrefix r := by
  rw [selected, List.zipIdx_append, List.filter_append]
  rfl

theorem mem_selected_append (old new : List Record) (entry : Record × Nat)
    (h : entry ∈ q.selected typePrefix (old ++ new)) :
    entry ∈ q.selected typePrefix old ∨ entry.1 ∈ new ∧ q.Selects typePrefix entry.1 := by
  rw [selected_append] at h
  rcases List.mem_append.1 h with hOld | hNew
  · exact Or.inl hOld
  · obtain ⟨hMem, hSelects⟩ := List.mem_filter.1 hNew
    exact Or.inr ⟨List.fst_mem_of_mem_zipIdx hMem, of_decide_eq_true hSelects⟩

/-- A selected event that has come since stands behind the old log. -/
theorem exists_mem_selected_append (old new : List Record) (r : Record) (hr : r ∈ new)
    (hSelects : q.Selects typePrefix r) :
    ∃ place, old.length < place ∧ (r, place) ∈ q.selected typePrefix (old ++ new) := by
  rw [← List.zipIdx_map_fst (1 + old.length) new] at hr
  obtain ⟨entry, hEntry, rfl⟩ := List.mem_map.1 hr
  refine ⟨entry.2, ?_, ?_⟩
  · have := List.le_snd_of_mem_zipIdx hEntry
    omega
  · rw [selected_append]
    exact List.mem_append_right _ (List.mem_filter.2 ⟨hEntry, decide_eq_true hSelects⟩)

theorem selected_append_of_none (old new : List Record)
    (h : ∀ r ∈ new, ¬ q.Selects typePrefix r) :
    q.selected typePrefix (old ++ new) = q.selected typePrefix old := by
  have nothing : ((new.zipIdx (1 + old.length)).filter fun (r, _) => q.Selects typePrefix r) =
      [] := by
    rw [List.filter_eq_nil_iff]
    intro entry hEntry hSelects
    exact h entry.1 (List.fst_mem_of_mem_zipIdx hEntry) (of_decide_eq_true hSelects)
  rw [selected_append, nothing, List.append_nil]

theorem pairwise_selected (records : List Record) :
    (q.selected typePrefix records).Pairwise fun a b => a.2 < b.2 := by
  have ordered : (records.zipIdx 1).Pairwise fun a b => a.2 < b.2 := by
    rw [← List.pairwise_map (f := Prod.snd) (R := (· < ·)), List.zipIdx_map_snd]
    exact List.pairwise_lt_range'
  exact ordered.filter _

theorem le_of_getLast?_selected (records : List Record) (last : Record × Nat)
    (hLast : (q.selected typePrefix records).getLast? = some last) :
    last.2 ≤ records.length ∧ ∀ entry ∈ q.selected typePrefix records, entry.2 ≤ last.2 := by
  have hMem := (q.mem_selected_iff typePrefix records last).1 (List.mem_of_getLast? hLast)
  constructor
  · have := List.snd_lt_add_of_mem_zipIdx hMem.1
    omega
  · exact le_of_getLast?_of_pairwise (q.pairwise_selected typePrefix records) hLast

/-- A read backwards of one event finds the last selected one. -/
theorem traverse_backwards_one (records : List Record) :
    q.traverse typePrefix ⟨none, true, some .one⟩ records =
      (q.selected typePrefix records).getLast?.toList := by
  have first : (q.selected typePrefix records).reverse.take 1 =
      (q.selected typePrefix records).getLast?.toList := by
    rw [List.take_one, List.head?_reverse]
  rw [traverse_eq, Traversal.filter_covers_of_unbounded _ rfl]
  cases q.onlyLast <;> exact first

theorem traverse_full_of_selected_eq (old new : List Record)
    (h : q.selected typePrefix new = q.selected typePrefix old) :
    q.traverse typePrefix .full new = q.traverse typePrefix .full old := by
  rw [traverse, traverse, h]

theorem mem_of_mem_traverse (traversal : Traversal) (records : List Record) (entry : Record × Nat)
    (h : entry ∈ q.traverse typePrefix traversal records) :
    entry ∈ q.selected typePrefix records := by
  have ordered : ∀ (flag : Bool) (covered : List (Record × Nat)),
      entry ∈ (if flag then covered.reverse else covered) → entry ∈ covered := by
    intro flag covered hMem
    cases flag with
    | false => exact hMem
    | true => exact List.mem_reverse.1 hMem
  apply (List.mem_filter (p := fun e : Record × Nat => decide (traversal.Covers e.2))).1 _ |>.1
  rw [traverse_eq] at h
  cases hLast : q.onlyLast with
  | true =>
      simp only [hLast, if_true] at h
      exact ordered _ _ (List.mem_of_mem_take h)
  | false =>
      simp only [hLast, Bool.false_eq_true, if_false] at h
      cases hLimit : traversal.limit with
      | none =>
          simp only [hLimit] at h
          exact ordered _ _ h
      | some n =>
          simp only [hLimit] at h
          exact ordered _ _ (List.mem_of_mem_take h)

theorem place_of_mem_traverse (traversal : Traversal) (records : List Record)
    (entry : Record × Nat) (h : entry ∈ q.traverse typePrefix traversal records) :
    1 ≤ entry.2 ∧ entry.2 ≤ records.length := by
  have hMem := q.mem_of_mem_traverse typePrefix traversal records entry h
  have hNumbered := ((q.mem_selected_iff typePrefix records entry).1 hMem).1
  have within := List.snd_lt_add_of_mem_zipIdx hNumbered
  exact ⟨List.le_snd_of_mem_zipIdx hNumbered, by omega⟩

end Query

end BoundaryLog
