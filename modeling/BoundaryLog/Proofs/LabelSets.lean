import BoundaryLog.Proofs.DistinctTexts
import Mathlib.Data.List.Dedup
import Mathlib.Data.List.Sort

/-! # Sets of labels stand for their members

A set of labels is told by its members, since they are in ascending order and each is there once.  The
order is that of the numbers of the characters, compared from the front.  So everything that is built
from a set depends only on which labels were given: the record of an event does, and so does the program
of a query, whose labels may be given in any order and repeatedly.  Both depend on all of them. -/
set_option autoImplicit false
namespace BoundaryLog

/-! ## Members -/

/-- The numbers of the characters of a text. -/
def Text.codePoints (s : String) : List Nat := s.toList.map Char.toNat

theorem Text.codePoints_lt_of_lt {s t : String} (h : s < t) : codePoints s < codePoints t :=
  List.map_lt (fun _ _ below => below) (String.lt_iff.1 h)

/-- Whether two lists of labels have the same members. -/
def SameLabels (labels others : List String) : Prop := ∀ x, x ∈ labels ↔ x ∈ others

theorem sameLabels_iff_subset (labels others : List String) :
    SameLabels labels others ↔ labels ⊆ others ∧ others ⊆ labels :=
  ⟨fun same => ⟨fun x => (same x).1, fun x => (same x).2⟩,
    fun ⟨there, back⟩ x => ⟨@there x, @back x⟩⟩

instance (labels others : List String) : Decidable (SameLabels labels others) :=
  decidable_of_iff _ (sameLabels_iff_subset labels others).symm

namespace LabelSet
variable (labels others : List String)

/-- Whether a set is that of the members of a list, in ascending order by code point. -/
structure IsSetOf (s : LabelSet) : Prop where
  ascending : (s.toList.map Text.codePoints).Pairwise (· < ·)
  nodup : s.toList.Nodup
  contains_iff : ∀ x, s.contains x = true ↔ x ∈ labels
  size_eq : s.size = labels.dedup.length
  rebuilt : ofList s.toList = s

theorem nodup_toList (s : LabelSet) : s.toList.Nodup := by
  refine s.ascending.imp ?_
  rintro a _ below rfl
  exact String.lt_irrefl a below

theorem isSetOf_ofList : (ofList labels).IsSetOf labels where
  ascending := List.pairwise_map.2 ((ofList labels).ascending.imp Text.codePoints_lt_of_lt)
  nodup := nodup_toList _
  contains_iff := fun x => List.contains_iff_mem.trans (mem_ofList labels x)
  size_eq := by
    have perm : (ofList labels).toList.Perm labels.dedup := by
      rw [List.perm_ext_iff_of_nodup (nodup_toList _) (List.nodup_dedup labels)]
      intro x
      rw [mem_ofList, List.mem_dedup]
    exact perm.length_eq
  rebuilt := ofList_toList _

theorem eq_of_mem_iff {s t : LabelSet} (h : ∀ x, x ∈ s.toList ↔ x ∈ t.toList) : s = t := by
  have same : s.toList = t.toList := s.ascending.eq_of_mem_iff t.ascending h
  exact (LabelSet.mk.injEq ..).mpr same

variable {labels others}

theorem ofList_eq_iff : ofList labels = ofList others ↔ SameLabels labels others := by
  constructor
  · intro same x
    rw [← mem_ofList, same, mem_ofList]
  · intro same
    apply eq_of_mem_iff
    intro x
    rw [mem_ofList, mem_ofList]
    exact same x

theorem toList_ofList_eq_iff :
    (ofList labels).toList = (ofList others).toList ↔ SameLabels labels others := by
  rw [← ofList_eq_iff]
  exact ⟨fun same => (LabelSet.mk.injEq ..).mpr same, congrArg toList⟩

end LabelSet

/-! ## Records and criteria -/

theorem Event.record_setTags_eq_iff (e : Event) (source typePrefix : String) (t : Instant)
    (labels others : List String) :
    (e.setTags labels).record source typePrefix t = (e.setTags others).record source typePrefix t ↔
      SameLabels labels others := by
  constructor
  · intro same
    exact LabelSet.toList_ofList_eq_iff.1 (congrArg (fun r : Record => r.data.tags) same)
  · intro same
    rw [setTags, setTags, LabelSet.ofList_eq_iff.2 same]

namespace Criterion
variable {labels others : List String}

theorem isEmpty_ofList (labels : List String) :
    (LabelSet.ofList labels).isEmpty = true ↔ labels = [] := by
  rw [LabelSet.isEmpty, List.isEmpty_iff, List.eq_nil_iff_forall_not_mem,
    List.eq_nil_iff_forall_not_mem]
  simp only [LabelSet.mem_ofList]

theorem restriction_eq (labels : List String) :
    restriction labels = if labels = [] then none else some (LabelSet.ofList labels) := by
  simp only [restriction, isEmpty_ofList]

theorem toList_restriction (labels : List String) :
    ((restriction labels).map LabelSet.toList).getD [] = (LabelSet.ofList labels).toList := by
  rw [restriction_eq]
  by_cases hEmpty : labels = []
  · rw [if_pos hEmpty, hEmpty]
    rfl
  · rw [if_neg hEmpty]
    rfl

theorem restriction_eq_none_iff : restriction labels = none ↔ labels = [] := by
  rw [restriction_eq]
  by_cases hEmpty : labels = []
  · rw [if_pos hEmpty]
    exact iff_of_true rfl hEmpty
  · rw [if_neg hEmpty]
    exact iff_of_false nofun hEmpty

theorem eq_ofList_of_restriction {s : LabelSet} (h : restriction labels = some s) :
    s = LabelSet.ofList labels := by
  rw [restriction_eq] at h
  split at h
  · cases h
  · exact (Option.some.inj h).symm

/-- Whether what restricts a criterion is the set of some labels, or nothing if there are none. -/
structure IsRestriction (restricted : Option LabelSet) (labels : List String) : Prop where
  none_iff : restricted = none ↔ labels = []
  isSetOf : ∀ s, restricted = some s → s.IsSetOf labels

theorem isRestriction_restriction (labels : List String) :
    IsRestriction (restriction labels) labels where
  none_iff := restriction_eq_none_iff
  isSetOf s hSet := by
    rw [eq_ofList_of_restriction hSet]
    exact LabelSet.isSetOf_ofList labels

theorem restriction_eq_iff : restriction labels = restriction others ↔ SameLabels labels others := by
  constructor
  · intro same
    rw [← LabelSet.toList_ofList_eq_iff, ← toList_restriction, same, toList_restriction]
  · intro same
    rw [restriction, restriction, LabelSet.ofList_eq_iff.2 same]

theorem restrictTypes_eq_iff (c : Criterion) :
    c.restrictTypes labels = c.restrictTypes others ↔ SameLabels labels others := by
  rw [← restriction_eq_iff, restrictTypes, restrictTypes, mk.injEq]
  exact and_iff_left ⟨rfl, rfl⟩

theorem requireTags_eq_iff (c : Criterion) :
    c.requireTags labels = c.requireTags others ↔ SameLabels labels others := by
  rw [← restriction_eq_iff, requireTags, requireTags, mk.injEq]
  exact (and_iff_right rfl).trans (and_iff_left rfl)

end Criterion

/-! ## Queries as they are given -/

/-- A criterion as it is given: lists of types and of tags, in any order and with repetitions. -/
structure Draft where
  types : List String
  tags : List String
  onlyLast : Bool

namespace Draft
variable (d o : Draft)

def criterion : Criterion :=
  let c := (Criterion.new.restrictTypes d.types).requireTags d.tags
  if d.onlyLast then c.lastOnly else c

/-- Whether two drafts name the same types and the same tags. -/
structure NamesSame : Prop where
  types : SameLabels d.types o.types
  tags : SameLabels d.tags o.tags

theorem criterion_eq : d.criterion =
    ⟨Criterion.restriction d.types, Criterion.restriction d.tags, d.onlyLast⟩ := by
  unfold criterion
  cases d.onlyLast <;> rfl

theorem typeList_criterion : d.criterion.typeList = (LabelSet.ofList d.types).toList := by
  rw [criterion_eq]
  exact Criterion.toList_restriction d.types

theorem tagList_criterion : d.criterion.tagList = (LabelSet.ofList d.tags).toList := by
  rw [criterion_eq]
  exact Criterion.toList_restriction d.tags

variable {d o}

theorem criterion_eq_of_namesSame (h : d.NamesSame o) (hLast : d.onlyLast = o.onlyLast) :
    d.criterion = o.criterion := by
  rw [criterion_eq, criterion_eq, Criterion.restriction_eq_iff.2 h.types,
    Criterion.restriction_eq_iff.2 h.tags, hLast]

end Draft

/-- The query of some drafts. -/
def Query.ofDrafts (drafts : List Draft) : Query := .criteria (drafts.map Draft.criterion)

theorem Query.ofDrafts_eq {drafts others : List Draft}
    (h : List.Forall₂ (fun d o => d.NamesSame o ∧ d.onlyLast = o.onlyLast) drafts others) :
    ofDrafts drafts = ofDrafts others := by
  have each : List.Forall₂ (fun d o => d.criterion = o.criterion) drafts others :=
    h.imp fun d o ⟨same, last⟩ => Draft.criterion_eq_of_namesSame same last
  rw [← List.forall₂_map_right_iff, ← List.forall₂_map_left_iff, List.forall₂_eq_eq_eq] at each
  exact congrArg Query.criteria each

/-! ## What predicates tell of labels -/

namespace Predicate

/-- Whether a predicate tests the type or a tag alone. -/
def IsLabelTest : Predicate → Prop
  | .typeIn _ | .hasTag _ => True
  | _ => False

/-- The operands of a conjunction. -/
def operands : Predicate → List Predicate
  | .always => []
  | .and ps => ps
  | p => [p]

theorem operands_conjunction (ps : List Predicate) (hps : ∀ p ∈ ps, p.IsLabelTest) :
    (conjunction ps).operands = ps := by
  match ps with
  | [] => rfl
  | [p] =>
      have test := hps p List.mem_cons_self
      cases p with
      | typeIn _ | hasTag _ => rfl
      | _ => exact test.elim
  | _ :: _ :: _ => rfl

/-- The operands of a disjunction. -/
def branches : Predicate → List Predicate
  | .or ps => ps
  | p => [p]

/-- Conjunctions of tests are no disjunctions, so they stay apart when they are joined. -/
theorem branches_disjunction (parts : List (List Predicate))
    (hParts : ∀ ps ∈ parts, ∀ p ∈ ps, p.IsLabelTest) :
    (disjunction (parts.map conjunction)).branches = parts.map conjunction := by
  match parts with
  | [] => rfl
  | [[]] => rfl
  | [[p]] =>
      have test := hParts [p] List.mem_cons_self p List.mem_cons_self
      cases p with
      | typeIn _ | hasTag _ => rfl
      | _ => exact test.elim
  | [_ :: _ :: _] => rfl
  | _ :: _ :: _ => rfl

def typesOf : Predicate → List String
  | .typeIn types => types
  | _ => []

def tagsOf : Predicate → List String
  | .hasTag tag => [tag]
  | _ => []

end Predicate

namespace Criterion
variable (typePrefix : String) (c : Criterion)

/-- The tests that the predicate of a criterion is the conjunction of. -/
def tests : List Predicate :=
  (if c.typeList.isEmpty then [] else [.typeIn (c.typeList.map (typePrefix ++ ·))]) ++
    c.tagList.map .hasTag

theorem isLabelTest_of_mem_tests (p : Predicate) (hp : p ∈ c.tests typePrefix) : p.IsLabelTest := by
  rcases List.mem_append.1 hp with hType | hTag
  · split at hType
    · cases hType
    · rw [List.mem_singleton.1 hType]
      trivial
  · obtain ⟨t, -, rfl⟩ := List.mem_map.1 hTag
    trivial

variable {typePrefix c} {other : Criterion}

theorem typesOf_tests :
    (c.tests typePrefix).flatMap Predicate.typesOf = c.typeList.map (typePrefix ++ ·) := by
  have tags : (c.tagList.map Predicate.hasTag).flatMap Predicate.typesOf = [] := by
    rw [List.flatMap_map]
    exact List.flatMap_eq_nil_iff.2 fun _ _ => rfl
  rw [tests, List.flatMap_append, tags, List.append_nil]
  cases c.typeList with
  | nil => rfl
  | cons type types => exact List.append_nil _

theorem tagsOf_tests : (c.tests typePrefix).flatMap Predicate.tagsOf = c.tagList := by
  have tags : (c.tagList.map Predicate.hasTag).flatMap Predicate.tagsOf = c.tagList := by
    rw [List.flatMap_map]
    exact List.flatMap_singleton' c.tagList
  rw [tests, List.flatMap_append, tags]
  cases c.typeList <;> rfl

/-- The predicate of a criterion tells its types and its tags. -/
theorem lists_of_predicate {other : Criterion}
    (h : c.predicate typePrefix = other.predicate typePrefix) :
    c.typeList = other.typeList ∧ c.tagList = other.tagList := by
  have tests : c.tests typePrefix = other.tests typePrefix := by
    rw [← Predicate.operands_conjunction _ (c.isLabelTest_of_mem_tests typePrefix),
      ← Predicate.operands_conjunction _ (other.isLabelTest_of_mem_tests typePrefix)]
    exact congrArg Predicate.operands h
  constructor
  · have types := congrArg (List.flatMap Predicate.typesOf) tests
    rw [typesOf_tests, typesOf_tests] at types
    exact List.map_injective_iff.2 (fun _ _ same => (String.append_right_inj _).1 same) types
  · have tags := congrArg (List.flatMap Predicate.tagsOf) tests
    rw [tagsOf_tests, tagsOf_tests] at tags
    exact tags

end Criterion

namespace Query

/-- The filters of a query tell the predicates of its criteria. -/
theorem branches_filters (q : Query) (typePrefix : String) :
    (q.filters typePrefix).flatMap Predicate.branches =
      q.alternatives.map (Criterion.predicate typePrefix) := by
  have split : q.alternatives.map (Criterion.predicate typePrefix) =
      (q.alternatives.map (Criterion.tests typePrefix)).map Predicate.conjunction := by
    rw [List.map_map]
    rfl
  have whole := Predicate.branches_disjunction (q.alternatives.map (Criterion.tests typePrefix)) (by
    intro ps hps
    obtain ⟨c, -, rfl⟩ := List.mem_map.1 hps
    exact c.isLabelTest_of_mem_tests typePrefix)
  rw [← split] at whole
  unfold filters
  split
  case isTrue hEmpty => rw [List.isEmpty_iff.1 hEmpty]; rfl
  case isFalse => rw [List.flatMap_singleton, whole]

/-- The text of a read tells which types and which tags each draft names. -/
theorem namesSame_of_scanText {drafts others : List Draft} {typePrefix text : String}
    {traversal : Traversal} (hText : (ofDrafts drafts).scanText typePrefix traversal = .ok text)
    (hOther : (ofDrafts others).scanText typePrefix traversal = .ok text) :
    List.Forall₂ Draft.NamesSame drafts others := by
  have filters := (ofDrafts drafts).filters_unique typePrefix traversal _ text hText hOther
  have predicates := congrArg (List.flatMap Predicate.branches) filters
  rw [branches_filters, branches_filters] at predicates
  change (drafts.map Draft.criterion).map _ = (others.map Draft.criterion).map _ at predicates
  rw [List.map_map, List.map_map] at predicates
  have each : List.Forall₂ (fun d o : Draft => d.criterion.predicate typePrefix =
      o.criterion.predicate typePrefix) drafts others := by
    rw [← List.forall₂_map_right_iff, ← List.forall₂_map_left_iff, List.forall₂_eq_eq_eq]
    exact predicates
  refine each.imp fun d o same => ?_
  obtain ⟨types, tags⟩ := Criterion.lists_of_predicate same
  rw [Draft.typeList_criterion, Draft.typeList_criterion] at types
  rw [Draft.tagList_criterion, Draft.tagList_criterion] at tags
  exact ⟨LabelSet.toList_ofList_eq_iff.1 types, LabelSet.toList_ofList_eq_iff.1 tags⟩

end Query

/-! ## Labels and their members -/

/-- A set of labels stands for the members of the list that it was made of.  It has them in ascending
order by code point and each once, and lists with the same members make the same set, as does the set's
own list; so it is with the types and the tags of a criterion.  The record of an event and the programs
of a query, or the failure for which it has none, depend on the members alone: order and repetition
change nothing.  And they depend on all of them: a record tells the tags, and the text of a read tells
the types and the tags of each criterion. -/
theorem label_sets_stand_for_members :
    (∀ labels : List String, (LabelSet.ofList labels).IsSetOf labels) ∧
      (∀ labels others : List String,
        LabelSet.ofList labels = LabelSet.ofList others ↔ SameLabels labels others) ∧
      (∀ (c : Criterion) (labels : List String),
        Criterion.IsRestriction (c.restrictTypes labels).types labels ∧
          Criterion.IsRestriction (c.requireTags labels).tags labels) ∧
      (∀ (c : Criterion) (labels others : List String),
        (c.restrictTypes labels = c.restrictTypes others ↔ SameLabels labels others) ∧
          (c.requireTags labels = c.requireTags others ↔ SameLabels labels others)) ∧
      (∀ (e : Event) (source typePrefix : String) (t : Instant) (labels others : List String),
        (e.setTags labels).record source typePrefix t =
            (e.setTags others).record source typePrefix t ↔ SameLabels labels others) ∧
      (∀ drafts others : List Draft,
        List.Forall₂ (fun d o => d.NamesSame o ∧ d.onlyLast = o.onlyLast) drafts others →
          ∀ typePrefix : String,
            (∀ traversal, (Query.ofDrafts drafts).scanText typePrefix traversal =
              (Query.ofDrafts others).scanText typePrefix traversal) ∧
            ∀ expected, Boundary.guard? typePrefix ⟨Query.ofDrafts drafts, expected⟩ =
              Boundary.guard? typePrefix ⟨Query.ofDrafts others, expected⟩) ∧
      ∀ (drafts others : List Draft) (typePrefix text : String) (traversal : Traversal),
        (Query.ofDrafts drafts).scanText typePrefix traversal = .ok text →
          (Query.ofDrafts others).scanText typePrefix traversal = .ok text →
            List.Forall₂ Draft.NamesSame drafts others := by
  refine ⟨LabelSet.isSetOf_ofList, fun _ _ => LabelSet.ofList_eq_iff, ?_, ?_,
    Event.record_setTags_eq_iff, ?_, ?_⟩
  · intro c labels
    exact ⟨Criterion.isRestriction_restriction labels, Criterion.isRestriction_restriction labels⟩
  · intro c labels others
    exact ⟨c.restrictTypes_eq_iff, c.requireTags_eq_iff⟩
  · intro drafts others hSame typePrefix
    rw [Query.ofDrafts_eq hSame]
    exact ⟨fun _ => rfl, fun _ => rfl⟩
  · intro drafts others typePrefix text traversal hText hOther
    exact Query.namesSame_of_scanText hText hOther

/-- A criterion given out of order and with repetitions, and the same one written with care. -/
def hasty : Draft := ⟨["B", "A", "B"], ["é", "z", "Z", "é"], false⟩

def careful : Draft := ⟨["A", "B"], ["Z", "z", "é"], false⟩

theorem hasty_draft_stands_for_careful_one :
    (∃ text, (Query.ofDrafts [hasty]).scanText "ns." .full = .ok text ∧
        (Query.ofDrafts [careful]).scanText "ns." .full = .ok text) ∧
      Boundary.guard? "ns." ⟨Query.ofDrafts [hasty], .none⟩ =
        Boundary.guard? "ns." ⟨Query.ofDrafts [careful], .none⟩ ∧
      List.Forall₂ Draft.NamesSame [hasty] [careful] ∧
      (LabelSet.ofList hasty.tags).toList = ["Z", "z", "é"] := by
  obtain ⟨-, -, -, -, -, depends, told⟩ := label_sets_stand_for_members
  have same : hasty.NamesSame careful ∧ hasty.onlyLast = careful.onlyLast :=
    ⟨⟨by decide, by decide⟩, rfl⟩
  obtain ⟨texts, guards⟩ := depends [hasty] [careful] (.cons same .nil) "ns."
  have hText := ((Query.ofDrafts [careful]).scanText_eq_ok_iff "ns." .full _).2 ⟨rfl, rfl⟩
  exact ⟨⟨_, (texts .full).trans hText, hText⟩, guards .none,
    told _ _ _ _ _ ((texts .full).trans hText) hText, by decide⟩

end BoundaryLog
