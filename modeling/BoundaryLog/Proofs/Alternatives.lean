import BoundaryLog.Proofs.BadLiterals
import BoundaryLog.Proofs.Limits

/-! # Criteria are alternatives

A query selects what one of its criteria matches, so two lists of criteria together select what one
of them selects, and neither the order nor the number of times that a criterion stands in a list
matters.  More tags match less and more types match more.  A read without a limit goes over more
entries if more is selected, and a guard holds in fewer logs.  All of this is about lists of criteria
that programs can be written for, and of which none asks for the last event alone. -/
set_option autoImplicit false
namespace BoundaryLog

theorem quotable_append_iff (s t : String) : Quotable (s ++ t) ↔ Quotable s ∧ Quotable t := by
  simp only [Quotable, String.toList_append, List.forall_mem_append]

/-! ## Criteria with one label more -/

theorem LabelSet.mem_insert_getD (set : Option LabelSet) (label s : String) :
    s ∈ ((set.getD empty).insert label).toList ↔
      s = label ∨ s ∈ (set.map toList).getD [] := by
  rw [insert, mem_insertSorted]
  cases set <;> rfl

namespace Criterion
variable (typePrefix : String) (c : Criterion)

def addTag (tag : String) : Criterion := { c with tags := some ((c.tags.getD .empty).insert tag) }

def addType (type : String) : Criterion :=
  { c with types := some ((c.types.getD .empty).insert type) }

theorem mem_tagList_addTag (tag s : String) :
    s ∈ (c.addTag tag).tagList ↔ s = tag ∨ s ∈ c.tagList :=
  LabelSet.mem_insert_getD c.tags tag s

theorem mem_typeList_addType (type s : String) :
    s ∈ (c.addType type).typeList ↔ s = type ∨ s ∈ c.typeList :=
  LabelSet.mem_insert_getD c.types type s

theorem matches_of_addTag (tag : String) (r : Record) (h : (c.addTag tag).Matches typePrefix r) :
    c.Matches typePrefix r := by
  rw [matches_iff] at h ⊢
  refine ⟨h.1, ?_⟩
  intro t ht
  exact h.2 t ((c.mem_tagList_addTag tag t).2 (Or.inr ht))

/-- A further type is a further alternative, if there was a restriction at all. -/
theorem matches_addType (type : String) (hTypes : c.typeList ≠ []) (r : Record)
    (h : c.Matches typePrefix r) : (c.addType type).Matches typePrefix r := by
  rw [matches_iff] at h ⊢
  refine ⟨Or.inr ?_, h.2⟩
  obtain ⟨t, ht, hStored⟩ := h.1.resolve_left hTypes
  exact ⟨t, (c.mem_typeList_addType type t).2 (Or.inr ht), hStored⟩

theorem mem_literals_iff (s : String) :
    s ∈ c.literals typePrefix ↔ (∃ t ∈ c.typeList, typePrefix ++ t = s) ∨ s ∈ c.tagList := by
  rw [literals_eq, List.mem_append, List.mem_map]

/-- Whether all texts of a criterion may stand between quotes. -/
def Quotable : Prop := ∀ s ∈ c.literals typePrefix, BoundaryLog.Quotable s

instance : Decidable (c.Quotable typePrefix) := List.decidableBAll _ (c.literals typePrefix)

theorem quotable_addTag (tag : String) (hTag : BoundaryLog.Quotable tag)
    (h : c.Quotable typePrefix) : (c.addTag tag).Quotable typePrefix := by
  intro s hs
  rcases ((c.addTag tag).mem_literals_iff typePrefix s).1 hs with hType | hMem
  · exact h s ((c.mem_literals_iff typePrefix s).2 (Or.inl hType))
  · rcases (c.mem_tagList_addTag tag s).1 hMem with rfl | hOld
    · exact hTag
    · exact h s ((c.mem_literals_iff typePrefix s).2 (Or.inr hOld))

/-- The namespace stands between quotes already, before the types that there are. -/
theorem quotable_addType (type : String) (hType : BoundaryLog.Quotable type)
    (hTypes : c.typeList ≠ []) (h : c.Quotable typePrefix) :
    (c.addType type).Quotable typePrefix := by
  obtain ⟨known, hKnown⟩ := List.exists_mem_of_ne_nil _ hTypes
  have knownIn := h _ ((c.mem_literals_iff typePrefix _).2 (Or.inl ⟨known, hKnown, rfl⟩))
  have hPrefix := ((quotable_append_iff typePrefix known).1 knownIn).1
  intro s hs
  rcases ((c.addType type).mem_literals_iff typePrefix s).1 hs with ⟨t, ht, rfl⟩ | hTag
  · rcases (c.mem_typeList_addType type t).1 ht with rfl | hOld
    · exact (quotable_append_iff typePrefix t).2 ⟨hPrefix, hType⟩
    · exact h _ ((c.mem_literals_iff typePrefix _).2 (Or.inl ⟨t, hOld, rfl⟩))
  · exact h s ((c.mem_literals_iff typePrefix s).2 (Or.inr hTag))

end Criterion

/-! ## Lists of criteria -/

namespace Query
variable {typePrefix : String} {cs others : List Criterion}

/-- Criteria, some of them, that programs can be written for in a namespace, and of which none asks
for the last event alone. -/
structure Plain (typePrefix : String) (cs : List Criterion) : Prop where
  nonempty : cs ≠ []
  many : ∀ c ∈ cs, c.onlyLast = false
  quotable : ∀ c ∈ cs, c.Quotable typePrefix

instance : Decidable (Plain typePrefix cs) :=
  decidable_of_iff
    (cs ≠ [] ∧ (∀ c ∈ cs, c.onlyLast = false) ∧ ∀ c ∈ cs, c.Quotable typePrefix)
    ⟨fun ⟨nonempty, many, quotable⟩ => ⟨nonempty, many, quotable⟩,
      fun h => ⟨h.nonempty, h.many, h.quotable⟩⟩

namespace Plain

theorem onlyLast (h : Plain typePrefix cs) : (criteria cs).onlyLast = false := by
  rw [Query.onlyLast, List.any_eq_false]
  intro c hc
  rw [h.many c hc]
  exact Bool.false_ne_true

theorem fault? (h : Plain typePrefix cs) : (criteria cs).fault? typePrefix = none := by
  rw [Query.fault?, supported, h.onlyLast, Bool.false_and, Bool.not_false, if_pos rfl,
    Option.map_eq_none_iff, List.findSome?_eq_none_iff]
  intro s hs
  obtain ⟨c, hc, hMem⟩ := List.mem_flatMap.1 hs
  exact (Predicate.bad?_eq_none_iff s).2 (h.quotable c hc s hMem)

theorem append (h : Plain typePrefix cs) (hOthers : Plain typePrefix others) :
    Plain typePrefix (cs ++ others) where
  nonempty := List.append_ne_nil_of_left_ne_nil h.nonempty others
  many := List.forall_mem_append.2 ⟨h.many, hOthers.many⟩
  quotable := List.forall_mem_append.2 ⟨h.quotable, hOthers.quotable⟩

theorem of_same (h : Plain typePrefix cs) (same : ∀ c, c ∈ others ↔ c ∈ cs) :
    Plain typePrefix others where
  nonempty := by
    obtain ⟨c, hc⟩ := List.exists_mem_of_ne_nil _ h.nonempty
    exact List.ne_nil_of_mem ((same c).2 hc)
  many := fun c hc => h.many c ((same c).1 hc)
  quotable := fun c hc => h.quotable c ((same c).1 hc)

theorem replace {before after : List Criterion} {c : Criterion}
    (h : Plain typePrefix (before ++ c :: after)) (c' : Criterion) (hMany : c'.onlyLast = c.onlyLast)
    (hQuotable : c.Quotable typePrefix → c'.Quotable typePrefix) :
    Plain typePrefix (before ++ c' :: after) := by
  obtain ⟨-, many, quotable⟩ := h
  obtain ⟨manyBefore, manyAfter⟩ := List.forall_mem_append.1 many
  obtain ⟨manyHere, manyAfter⟩ := List.forall_mem_cons.1 manyAfter
  obtain ⟨quotableBefore, quotableAfter⟩ := List.forall_mem_append.1 quotable
  obtain ⟨quotableHere, quotableAfter⟩ := List.forall_mem_cons.1 quotableAfter
  constructor
  · exact List.append_ne_nil_of_right_ne_nil _ (List.cons_ne_nil _ _)
  · exact List.forall_mem_append.2 ⟨manyBefore,
      List.forall_mem_cons.2 ⟨hMany.trans manyHere, manyAfter⟩⟩
  · exact List.forall_mem_append.2 ⟨quotableBefore,
      List.forall_mem_cons.2 ⟨hQuotable quotableHere, quotableAfter⟩⟩

theorem selects_iff (h : Plain typePrefix cs) (r : Record) :
    (criteria cs).Selects typePrefix r ↔ ∃ c ∈ cs, c.Matches typePrefix r :=
  or_iff_right h.nonempty

theorem selects_append_iff (h : Plain typePrefix cs) (hOthers : Plain typePrefix others)
    (r : Record) : (criteria (cs ++ others)).Selects typePrefix r ↔
      (criteria cs).Selects typePrefix r ∨ (criteria others).Selects typePrefix r := by
  rw [(h.append hOthers).selects_iff, h.selects_iff, hOthers.selects_iff]
  simp only [List.mem_append, or_and_right, exists_or]

theorem selects_of_same (h : Plain typePrefix cs) (same : ∀ c, c ∈ others ↔ c ∈ cs) (r : Record) :
    (criteria others).Selects typePrefix r ↔ (criteria cs).Selects typePrefix r := by
  simp only [h.selects_iff, (h.of_same same).selects_iff, same]

end Plain

theorem selects_replace {before after : List Criterion} (narrow wide : Criterion) (r : Record)
    (hMatches : narrow.Matches typePrefix r → wide.Matches typePrefix r)
    (h : (criteria (before ++ narrow :: after)).Selects typePrefix r) :
    (criteria (before ++ wide :: after)).Selects typePrefix r := by
  rcases h with hNil | ⟨c, hc, hSelected⟩
  · exact absurd hNil (List.append_ne_nil_of_right_ne_nil _ (List.cons_ne_nil _ _))
  · right
    simp only [List.mem_append, List.mem_cons] at hc ⊢
    rcases hc with hBefore | rfl | hAfter
    · exact ⟨c, Or.inl hBefore, hSelected⟩
    · exact ⟨wide, Or.inr (Or.inl rfl), hMatches hSelected⟩
    · exact ⟨c, Or.inr (Or.inr hAfter), hSelected⟩

/-! ## Reads of queries that select more -/

section Traverse
variable {q wide : Query} (records : List Record)

theorem mem_traverse_iff (hMany : q.onlyLast = false) (bound : Option Position) (backwards : Bool)
    (entry : Record × Nat) :
    entry ∈ q.traverse typePrefix ⟨bound, backwards, none⟩ records ↔
      entry ∈ records.zipIdx 1 ∧ q.Selects typePrefix entry.1 ∧
        (⟨bound, backwards, none⟩ : Traversal).Covers entry.2 := by
  rw [traverse_unlimited typePrefix hMany, ← and_assoc, ← mem_selected_iff]
  have covered (entries : List (Record × Nat)) :
      (entry ∈ entries.filter fun other =>
        (⟨bound, backwards, none⟩ : Traversal).Covers other.2) ↔
        entry ∈ entries ∧ (⟨bound, backwards, none⟩ : Traversal).Covers entry.2 := by
    rw [List.mem_filter, decide_eq_true_eq]
  cases backwards with
  | false => exact covered _
  | true => exact List.mem_reverse.trans (covered _)

theorem traverse_sublist (hMany : q.onlyLast = false) (hWide : wide.onlyLast = false)
    (h : ∀ r, q.Selects typePrefix r → wide.Selects typePrefix r) (bound : Option Position)
    (backwards : Bool) :
    (q.traverse typePrefix ⟨bound, backwards, none⟩ records).Sublist
      (wide.traverse typePrefix ⟨bound, backwards, none⟩ records) := by
  have selected : (q.selected typePrefix records).Sublist (wide.selected typePrefix records) := by
    apply List.monotone_filter_right
    intro entry hSelects
    exact decide_eq_true (h entry.1 (of_decide_eq_true hSelects))
  have covered := selected.filter fun entry =>
    decide ((⟨bound, backwards, none⟩ : Traversal).Covers entry.2)
  rw [traverse_unlimited typePrefix hMany, traverse_unlimited typePrefix hWide]
  cases backwards with
  | false => exact covered
  | true => exact covered.reverse

theorem traverse_congr (hLast : q.onlyLast = wide.onlyLast)
    (h : ∀ r, q.Selects typePrefix r ↔ wide.Selects typePrefix r) (traversal : Traversal) :
    q.traverse typePrefix traversal records = wide.traverse typePrefix traversal records := by
  simp only [traverse_eq, selected, hLast, h]

end Traverse
end Query

/-! ## What a feed yields -/

namespace Feed

/-- What a feed yields for a record at a place. -/
def shown (typePrefix : String) (entry : Record × Nat) : Except Failure RecordedEvent :=
  item typePrefix (.ok (entry.1.envelope entry.2))

theorem items_rows (typePrefix : String) (q : Query) (traversal : Traversal)
    (records : List Record) :
    items ⟨(q.rows typePrefix traversal records).map .ok, typePrefix⟩ =
      (q.traverse typePrefix traversal records).map (shown typePrefix) := by
  rw [items, Query.rows, List.map_map, List.map_map]
  rfl

theorem place_of_shown (typePrefix : String) (entry : Record × Nat) (e : RecordedEvent)
    (h : (shown typePrefix entry).toOption = some e) : e.position.value = entry.2 := by
  apply Row.place_of_shows typePrefix entry e
  rw [Row.Shows]
  rw [shown, item] at h
  cases hDecode : Row.decode typePrefix (entry.1.envelope entry.2) with
  | ok found =>
      rw [hDecode] at h
      exact congrArg Except.ok (Option.some.inj h)
  | error fault =>
      rw [hDecode] at h
      cases h

/-- The events that a feed yields until its end. -/
def events (f : Feed) : List RecordedEvent := f.items.filterMap Except.toOption

theorem pairwise_events (f : Feed) (typePrefix : String) (entries : List (Record × Nat))
    (hItems : f.items = entries.map (shown typePrefix))
    (ordered : entries.Pairwise fun a b => a.2 < b.2) :
    f.events.Pairwise fun a b => a.position.value < b.position.value := by
  rw [events, hItems, List.filterMap_map, List.pairwise_filterMap]
  apply ordered.imp
  intro a b hLess e he e' he'
  rw [place_of_shown typePrefix a e he, place_of_shown typePrefix b e' he']
  exact hLess

end Feed

/-! ## Guards of queries that select more -/

namespace Boundary
variable (typePrefix : String) {narrow wide : Query} (expected : Expectation)
  (records : List Record)

theorem crossed_mono (h : ∀ r, narrow.Selects typePrefix r → wide.Selects typePrefix r)
    (hCrossed : Crossed typePrefix ⟨narrow, expected⟩ records) :
    Crossed typePrefix ⟨wide, expected⟩ records := by
  obtain ⟨entry, hMem, hForbids, hSelects⟩ := (crossed_iff typePrefix _ records).1 hCrossed
  exact (crossed_iff typePrefix _ records).2 ⟨entry, hMem, hForbids, h _ hSelects⟩

/-- Nothing is forbidden where anything is expected. -/
theorem verdict_of_fault?_eq_none (q : Query) (hFault : q.fault? typePrefix = none) :
    verdict typePrefix ⟨q, expected⟩ records =
      if Crossed typePrefix ⟨q, expected⟩ records then .error expected.violation.1 else .ok () := by
  by_cases hAny : expected = .any
  · subst hAny
    rw [verdict_of_any typePrefix _ records rfl, if_neg]
    rintro ⟨_, _, hForbids⟩
    exact hForbids
  · exact verdict_of_no_fault typePrefix ⟨q, expected⟩ records hAny hFault

theorem verdict_congr (hNarrow : narrow.fault? typePrefix = none)
    (hWide : wide.fault? typePrefix = none)
    (h : ∀ r, narrow.Selects typePrefix r ↔ wide.Selects typePrefix r) :
    verdict typePrefix ⟨narrow, expected⟩ records = verdict typePrefix ⟨wide, expected⟩ records := by
  have same : Crossed typePrefix ⟨narrow, expected⟩ records ↔
      Crossed typePrefix ⟨wide, expected⟩ records :=
    ⟨crossed_mono typePrefix expected records fun r => (h r).1,
      crossed_mono typePrefix expected records fun r => (h r).2⟩
  rw [verdict_of_fault?_eq_none typePrefix expected records narrow hNarrow,
    verdict_of_fault?_eq_none typePrefix expected records wide hWide]
  simp only [same]

/-- What a boundary lets through, a boundary around less lets through. -/
theorem verdict_mono (hNarrow : narrow.fault? typePrefix = none)
    (hWide : wide.fault? typePrefix = none)
    (h : ∀ r, narrow.Selects typePrefix r → wide.Selects typePrefix r)
    (hAccepted : verdict typePrefix ⟨wide, expected⟩ records = .ok ()) :
    verdict typePrefix ⟨narrow, expected⟩ records = .ok () := by
  rw [verdict_of_fault?_eq_none typePrefix expected records wide hWide] at hAccepted
  rw [verdict_of_fault?_eq_none typePrefix expected records narrow hNarrow, if_neg]
  intro hCrossed
  rw [if_pos (crossed_mono typePrefix expected records h hCrossed)] at hAccepted
  cases hAccepted

end Boundary

namespace Gateway
variable (g : Gateway) (d : Deployment MemoryLog)

section Appends
variable (events : List Event) (boundary other : Boundary)

/-- Boundaries on which the verdict is the same have the same appends. -/
theorem append_congr (h : boundary.verdict g.config.typePrefix d.backend.records =
      other.verdict g.config.typePrefix d.backend.records) :
    (g.append events boundary d).1 = (g.append events other d).1 ∧
      (g.append events boundary d).2.backend.records =
        (g.append events other d).2.backend.records := by
  have sameVerdict : g.verdict events boundary d.backend.records =
      g.verdict events other d.backend.records := by
    simp only [verdict, h]
  obtain ⟨answer, records, -⟩ := g.append_answers events boundary d
  obtain ⟨answer', records', -⟩ := g.append_answers events other d
  rw [answer, answer', records, records', sameVerdict]
  exact ⟨rfl, rfl⟩

theorem append_accepted_of_verdict
    (h : boundary.verdict g.config.typePrefix d.backend.records = .ok () →
      other.verdict g.config.typePrefix d.backend.records = .ok ())
    (hAccepted : (g.append events boundary d).1 = .ok ()) :
    (g.append events other d).1 = .ok () := by
  rw [(g.append_answers events boundary d).answer_eq] at hAccepted
  rw [(g.append_answers events other d).answer_eq]
  by_cases hEvents : events = []
  · rw [verdict, if_pos hEvents] at hAccepted
    cases hAccepted
  cases hIndex : events.findIdx? (·.type = "") with
  | some index =>
      rw [verdict, if_neg hEvents, hIndex] at hAccepted
      cases hAccepted
  | none =>
      rw [verdict, if_neg hEvents, hIndex] at hAccepted ⊢
      exact h hAccepted

end Appends

variable (hHeld : d.backend.heldRows = none)
include hHeld

theorem read_plain {cs : List Criterion} (h : Query.Plain g.config.typePrefix cs)
    (traversal : Traversal) :
    (g.read (.criteria cs) traversal d).1 =
      .ok ⟨((Query.criteria cs).rows g.config.typePrefix traversal d.backend.records).map .ok,
        g.config.typePrefix⟩ := by
  have hText : (Query.criteria cs).scanText g.config.typePrefix traversal = .ok _ :=
    (Query.scanText_eq_ok_iff _ _ _ _).2 ⟨h.fault?, rfl⟩
  exact (g.read_spec _ traversal d _ hText hHeld).1

/-- Lists with the same criteria have the same reads. -/
theorem read_plain_of_same {cs others : List Criterion} (h : Query.Plain g.config.typePrefix cs)
    (same : ∀ c, c ∈ others ↔ c ∈ cs) (traversal : Traversal) :
    ∃ feed, (g.read (.criteria cs) traversal d).1 = .ok feed ∧
      (g.read (.criteria others) traversal d).1 = .ok feed := by
  have hOthers := h.of_same same
  refine ⟨_, g.read_plain d hHeld h traversal, ?_⟩
  rw [g.read_plain d hHeld hOthers traversal, Query.rows, Query.rows,
    Query.traverse_congr d.backend.records (hOthers.onlyLast.trans h.onlyLast.symm)
      (h.selects_of_same same)]

/-- A read without a limit yields what it yields for narrower criteria, and more. -/
theorem read_plain_sublist {cs wide : List Criterion} (h : Query.Plain g.config.typePrefix cs)
    (hWide : Query.Plain g.config.typePrefix wide)
    (hSelects : ∀ r, (Query.criteria cs).Selects g.config.typePrefix r →
      (Query.criteria wide).Selects g.config.typePrefix r)
    (bound : Option Position) (backwards : Bool) :
    ∃ feed more, (g.read (.criteria cs) ⟨bound, backwards, none⟩ d).1 = .ok feed ∧
      (g.read (.criteria wide) ⟨bound, backwards, none⟩ d).1 = .ok more ∧
      feed.items.Sublist more.items := by
  refine ⟨_, _, g.read_plain d hHeld h _, g.read_plain d hHeld hWide _, ?_⟩
  rw [Feed.items_rows, Feed.items_rows]
  exact (Query.traverse_sublist _ h.onlyLast hWide.onlyLast hSelects bound backwards).map _

/-- A read forwards of two lists of criteria together yields, for each of the lists, what the read of
that list yields, and nothing else. -/
theorem read_plain_append {left right : List Criterion} (h : Query.Plain g.config.typePrefix left)
    (hRight : Query.Plain g.config.typePrefix right) (bound : Option Position) :
    ∃ both one two, (g.read (.criteria (left ++ right)) ⟨bound, false, none⟩ d).1 = .ok both ∧
      (g.read (.criteria left) ⟨bound, false, none⟩ d).1 = .ok one ∧
      (g.read (.criteria right) ⟨bound, false, none⟩ d).1 = .ok two ∧
      (∀ item, item ∈ both.items ↔ item ∈ one.items ∨ item ∈ two.items) ∧
      both.events.Pairwise fun a b => a.position.value < b.position.value := by
  have hBoth := h.append hRight
  refine ⟨_, _, _, g.read_plain d hHeld hBoth _, g.read_plain d hHeld h _,
    g.read_plain d hHeld hRight _, ?_, ?_⟩
  · have entries : ∀ entry, entry ∈ (Query.criteria (left ++ right)).traverse g.config.typePrefix
        ⟨bound, false, none⟩ d.backend.records ↔
        entry ∈ (Query.criteria left).traverse g.config.typePrefix ⟨bound, false, none⟩
          d.backend.records ∨
        entry ∈ (Query.criteria right).traverse g.config.typePrefix ⟨bound, false, none⟩
          d.backend.records := by
      intro entry
      rw [Query.mem_traverse_iff _ hBoth.onlyLast, Query.mem_traverse_iff _ h.onlyLast,
        Query.mem_traverse_iff _ hRight.onlyLast, h.selects_append_iff hRight]
      tauto
    intro item
    simp only [Feed.items_rows, List.mem_map, entries, or_and_right, exists_or]
  · exact Feed.pairwise_events _ _ _ (Feed.items_rows _ _ _ _)
      (Query.pairwise_traverse _ hBoth.onlyLast d.backend.records false bound)

/-- On whatever log, lists of criteria that programs can be written for, and of which none asks for
the last event alone, are put together as alternatives.  Without a limit, a read forwards of two lists
together yields what the reads of either list yield and nothing else, and its events are at strictly
ascending positions.  Lists with the same criteria, in whatever order and however often, have the same
reads, of every kind, and the same appends, with the same records.  In a read without a limit a
further tag of a criterion adds nothing, and a further type of a criterion that has types takes
nothing away.  And an append that is accepted within the boundary of both lists together is accepted
within that of either list. -/
theorem criteria_are_alternatives (left right : List Criterion)
    (hLeft : Query.Plain g.config.typePrefix left)
    (hRight : Query.Plain g.config.typePrefix right) :
    (∀ bound, ∃ both one two,
      (g.read (.criteria (left ++ right)) ⟨bound, false, none⟩ d).1 = .ok both ∧
      (g.read (.criteria left) ⟨bound, false, none⟩ d).1 = .ok one ∧
      (g.read (.criteria right) ⟨bound, false, none⟩ d).1 = .ok two ∧
      (∀ item, item ∈ both.items ↔ item ∈ one.items ∨ item ∈ two.items) ∧
      both.events.Pairwise fun a b => a.position.value < b.position.value) ∧
    (∀ others : List Criterion, (∀ c, c ∈ others ↔ c ∈ left) →
      (∀ traversal, ∃ feed, (g.read (.criteria left) traversal d).1 = .ok feed ∧
        (g.read (.criteria others) traversal d).1 = .ok feed) ∧
      ∀ events expected,
        (g.append events ⟨.criteria others, expected⟩ d).1 =
          (g.append events ⟨.criteria left, expected⟩ d).1 ∧
        (g.append events ⟨.criteria others, expected⟩ d).2.backend.records =
          (g.append events ⟨.criteria left, expected⟩ d).2.backend.records) ∧
    (∀ before c after, left = before ++ c :: after → ∀ bound backwards,
      (∀ tag, Quotable tag → ∃ feed more,
        (g.read (.criteria (before ++ c.addTag tag :: after)) ⟨bound, backwards, none⟩ d).1 =
          .ok feed ∧
        (g.read (.criteria left) ⟨bound, backwards, none⟩ d).1 = .ok more ∧
        feed.items.Sublist more.items) ∧
      (∀ type, Quotable type → c.typeList ≠ [] → ∃ feed more,
        (g.read (.criteria left) ⟨bound, backwards, none⟩ d).1 = .ok feed ∧
        (g.read (.criteria (before ++ c.addType type :: after)) ⟨bound, backwards, none⟩ d).1 =
          .ok more ∧
        feed.items.Sublist more.items)) ∧
    ∀ events expected,
      (g.append events ⟨.criteria (left ++ right), expected⟩ d).1 = .ok () →
      (g.append events ⟨.criteria left, expected⟩ d).1 = .ok () ∧
        (g.append events ⟨.criteria right, expected⟩ d).1 = .ok () := by
  have hBoth := hLeft.append hRight
  refine ⟨?_, ?_, ?_, ?_⟩
  · exact g.read_plain_append d hHeld hLeft hRight
  · intro others same
    have hOthers := hLeft.of_same same
    constructor
    · exact g.read_plain_of_same d hHeld hLeft same
    · intro events expected
      apply g.append_congr
      exact Boundary.verdict_congr _ expected _ hOthers.fault? hLeft.fault?
        (hLeft.selects_of_same same)
  · rintro before c after rfl bound backwards
    constructor
    · intro tag hTag
      have narrow := hLeft.replace (c.addTag tag) rfl (c.quotable_addTag _ tag hTag)
      exact g.read_plain_sublist d hHeld narrow hLeft
        (fun r => Query.selects_replace _ _ r (c.matches_of_addTag _ tag r)) bound backwards
    · intro type hType hTypes
      have wide := hLeft.replace (c.addType type) rfl (c.quotable_addType _ type hType hTypes)
      exact g.read_plain_sublist d hHeld hLeft wide
        (fun r => Query.selects_replace _ _ r (c.matches_addType _ type hTypes r)) bound backwards
  · intro events expected hAccepted
    constructor
    · refine g.append_accepted_of_verdict d events _ _ (fun h => ?_) hAccepted
      exact Boundary.verdict_mono _ expected _ hLeft.fault? hBoth.fault?
        (fun r hr => (hLeft.selects_append_iff hRight r).2 (Or.inl hr)) h
    · refine g.append_accepted_of_verdict d events _ _ (fun h => ?_) hAccepted
      exact Boundary.verdict_mono _ expected _ hRight.fault? hBoth.fault?
        (fun r hr => (hLeft.selects_append_iff hRight r).2 (Or.inr hr)) h

end Gateway

/-! All three events of the day are sales or voided sales, and an append that expects nothing after
them is accepted within either boundary. -/

namespace Gateway.Sales

def voided : Criterion := Criterion.new.restrictTypes ["voided"]

theorem sales_and_voids_are_alternatives :
    (∃ both, (desk.read (.criteria ([sold] ++ [voided])) .full day).1 = .ok both ∧
      both.remaining = 3 ∧ both.events.Pairwise fun a b => a.position.value < b.position.value) ∧
    (desk.append [Event.new "sold" .null]
      ⟨.criteria [sold], .exactly ⟨3, by decide, by decide⟩⟩ day).1 = .ok () := by
  have hSold : Query.Plain desk.config.typePrefix [sold] := by decide +kernel
  have hVoided : Query.Plain desk.config.typePrefix [voided] := by decide +kernel
  obtain ⟨together, -, -, accepted⟩ :=
    criteria_are_alternatives desk day rfl [sold] [voided] hSold hVoided
  constructor
  · obtain ⟨both, -, -, hBoth, -, -, -, ordered⟩ := together none
    refine ⟨both, hBoth, ?_, ordered⟩
    have known := desk.read_plain day rfl (hSold.append hVoided) .full
    obtain rfl := Except.ok.inj (hBoth.symm.trans known)
    rfl
  · apply (accepted _ _ _).1
    rw [(desk.append_answers _ _ day).answer_eq]
    rfl

end Gateway.Sales
end BoundaryLog
