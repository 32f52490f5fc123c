import BoundaryLog.Proofs.Plans

/-! # The literal that a program fails on

A predicate quotes texts at its leaves, however deep these are and whether or not the connectives
above them are written.  Writing a program fails exactly if one of these texts holds a forbidden
character, and the failure names the first such text from left to right and the first such character
in it.  The predicate of a query quotes its criteria in turn, of each the types in their namespace and
then the tags, both in ascending order. -/
set_option autoImplicit false
namespace BoundaryLog

/-- Whether a character cannot stand between quotes: a quote, a backslash or a control character. -/
def Forbidden (c : Char) : Prop :=
  c = '"' ∨ c = '\\' ∨ c.toNat < 0x20 ∨ 0x7f ≤ c.toNat ∧ c.toNat ≤ 0x9f

instance (c : Char) : Decidable (Forbidden c) := inferInstanceAs (Decidable (_ ∨ _))

/-- Whether a text may stand between quotes. -/
def Quotable (s : String) : Prop := ∀ c ∈ s.toList, ¬ Forbidden c

instance (s : String) : Decidable (Quotable s) := List.decidableBAll _ s.toList

/-- Whether a fault names the first of some texts that cannot stand between quotes, and the first
character in it that cannot. -/
def BadLiteral.FirstOf (texts : List String) (bad : BadLiteral) : Prop :=
  (∃ before after, texts = before ++ bad.literal :: after ∧ ∀ s ∈ before, Quotable s) ∧
  Forbidden bad.character ∧
  ∃ front back, bad.literal.toList = front ++ bad.character :: back ∧ ∀ c ∈ front, ¬ Forbidden c

namespace Predicate

/-- Whether a text stands between quotes somewhere in a predicate. -/
inductive Quotes (s : String) : Predicate → Prop where
  | typeIn {types : List String} (h : s ∈ types) : Quotes s (.typeIn types)
  | hasTag : Quotes s (.hasTag s)
  | and {operands : List Predicate} {p : Predicate} (hp : p ∈ operands) (h : Quotes s p) :
      Quotes s (.and operands)
  | or {operands : List Predicate} {p : Predicate} (hp : p ∈ operands) (h : Quotes s p) :
      Quotes s (.or operands)
  | not {operand : Predicate} (h : Quotes s operand) : Quotes s (.not operand)

/-! ## What is quoted -/

theorem mem_quotationsOfAll_iff (s : String) (ps : List Predicate) :
    s ∈ quotationsOfAll ps ↔ ∃ p ∈ ps, s ∈ p.quotations := by
  rw [quotationsOfAll_eq_flatMap, List.mem_flatMap]

theorem quotes_of_mem_quotations (s : String) (p : Predicate) (h : s ∈ p.quotations) :
    Quotes s p := by
  induction p with
  | always => cases h
  | typeIn types => exact .typeIn h
  | hasTag tag =>
      obtain rfl := List.mem_singleton.1 h
      exact .hasTag
  | position comparison bound => cases h
  | and operands ih =>
      obtain ⟨p, hp, hs⟩ := (mem_quotationsOfAll_iff s operands).1 h
      exact .and hp (ih p hp hs)
  | or operands ih =>
      obtain ⟨p, hp, hs⟩ := (mem_quotationsOfAll_iff s operands).1 h
      exact .or hp (ih p hp hs)
  | not operand ih => exact .not (ih h)

/-- The texts that are vetted are those at the leaves. -/
theorem mem_quotations_iff (s : String) (p : Predicate) : s ∈ p.quotations ↔ p.Quotes s := by
  constructor
  · exact quotes_of_mem_quotations s p
  · intro h
    induction h with
    | typeIn h => exact h
    | hasTag => exact List.mem_singleton_self s
    | and hp _ ih => exact mem_quotationsOfAll hp ih
    | or hp _ ih => exact mem_quotationsOfAll hp ih
    | not _ ih => exact ih

/-! ## The first fault -/

theorem isForbidden_iff (c : Char) : isForbidden c = true ↔ Forbidden c := by
  simp [isForbidden, Forbidden, Text.isControl, or_assoc]

theorem bad?_eq_none_iff (s : String) : bad? s = none ↔ Quotable s := by
  simp only [bad?, Option.map_eq_none_iff, List.find?_eq_none, isForbidden_iff, Quotable]

theorem bad?_eq_some_iff (s : String) (bad : BadLiteral) :
    bad? s = some bad ↔ s = bad.literal ∧ Forbidden bad.character ∧
      ∃ front back, s.toList = front ++ bad.character :: back ∧ ∀ c ∈ front, ¬ Forbidden c := by
  obtain ⟨literal, character⟩ := bad
  simp only [bad?, Option.map_eq_some_iff, List.find?_eq_some_iff_append, isForbidden_iff,
    Bool.not_eq_true', ← Bool.not_eq_true, BadLiteral.mk.injEq]
  constructor
  · rintro ⟨c, ⟨hForbidden, hSplit⟩, rfl, rfl⟩
    exact ⟨rfl, hForbidden, hSplit⟩
  · rintro ⟨rfl, hForbidden, hSplit⟩
    exact ⟨character, ⟨hForbidden, hSplit⟩, rfl, rfl⟩

theorem findSome?_bad?_eq_some_iff (texts : List String) (bad : BadLiteral) :
    texts.findSome? bad? = some bad ↔ bad.FirstOf texts := by
  simp only [List.findSome?_eq_some_iff, bad?_eq_none_iff, bad?_eq_some_iff]
  constructor
  · rintro ⟨before, s, after, hTexts, ⟨rfl, hForbidden, hSplit⟩, hBefore⟩
    exact ⟨⟨before, after, hTexts, hBefore⟩, hForbidden, hSplit⟩
  · rintro ⟨⟨before, after, hTexts, hBefore⟩, hForbidden, hSplit⟩
    exact ⟨before, bad.literal, after, hTexts, ⟨rfl, hForbidden, hSplit⟩, hBefore⟩

end Predicate

namespace Program
variable (program : Program)

theorem text_eq_error_iff (e : Failure) :
    program.text = .error e ↔
      ∃ bad, BadLiteral.FirstOf (Predicate.quotationsOfAll program.filters) bad ∧
        e = bad.toFailure := by
  simp only [← Predicate.findSome?_bad?_eq_some_iff]
  rw [text_eq]
  cases (Predicate.quotationsOfAll program.filters).findSome? Predicate.bad? with
  | none => simp
  | some bad => simp [eq_comm]

theorem exists_text_error_iff :
    (∃ e, program.text = .error e) ↔
      ∃ p ∈ program.filters, ∃ s, p.Quotes s ∧ ∃ c ∈ s.toList, Forbidden c := by
  have vetted : (∃ e, program.text = .error e) ↔
      ¬ (Predicate.quotationsOfAll program.filters).findSome? Predicate.bad? = none := by
    rw [text_eq]
    cases (Predicate.quotationsOfAll program.filters).findSome? Predicate.bad? <;> simp
  rw [vetted, List.findSome?_eq_none_iff]
  simp only [Predicate.bad?_eq_none_iff, Predicate.mem_quotationsOfAll_iff,
    Predicate.mem_quotations_iff, Quotable]
  grind

end Program

/-! ## The order of the texts of a query -/

namespace Criterion
variable (c : Criterion)

theorem ascending_labels (set : Option LabelSet) :
    ((set.map LabelSet.toList).getD []).Pairwise (· < ·) := by
  cases set with
  | none => exact List.Pairwise.nil
  | some set => exact set.ascending

/-- A namespace before every type leaves their order as it is. -/
theorem ascending_types_in (typePrefix : String) :
    (c.typeList.map (typePrefix ++ ·)).Pairwise (· < ·) := by
  refine List.pairwise_map.2 ((ascending_labels c.types).imp ?_)
  intro a b h
  rw [String.lt_iff, String.toList_append, String.toList_append]
  exact List.append_left_lt (String.lt_iff.1 h)

theorem ascending_tags : c.tagList.Pairwise (· < ·) := ascending_labels c.tags

end Criterion

theorem Query.quotations_of_plan (typePrefix : String) (q : Query) (plan : QueryPlan)
    (hPlan : q.plan typePrefix = .ok plan) :
    Predicate.quotationsOfAll plan.predicate.toList = q.literals typePrefix := by
  rw [plan_eq] at hPlan
  split at hPlan
  · cases hPlan
    rw [head?_filters_toList, quotationsOfAll_filters]
  · cases hPlan

namespace Program

/-- Whatever program is written, it fails if and only if a text that stands between quotes somewhere
in its filters holds a forbidden character.  The failure is that of a literal, and it names the first
such text, filter by filter and from left to right in each, with the first such character in it.  The
predicate of a query has the texts of one criterion after the other: the types in their namespace and
then the tags, in ascending order. -/
theorem text_fails_at_first_bad_literal :
    (∀ program : Program, (∃ e, program.text = .error e) ↔
      ∃ p ∈ program.filters, ∃ s, p.Quotes s ∧ ∃ c ∈ s.toList, Forbidden c) ∧
    (∀ (program : Program) (e : Failure), program.text = .error e ↔
      ∃ bad, BadLiteral.FirstOf (Predicate.quotationsOfAll program.filters) bad ∧
        e = .invalidLiteral bad.literal
          ("contains forbidden character " ++ Text.quotedChar bad.character)) ∧
    ∀ (typePrefix : String) (q : Query) (plan : QueryPlan), q.plan typePrefix = .ok plan →
      Predicate.quotationsOfAll plan.predicate.toList =
        (q.alternatives.flatMap fun c => c.typeList.map (typePrefix ++ ·) ++ c.tagList) ∧
      ∀ c ∈ q.alternatives, (c.typeList.map (typePrefix ++ ·)).Pairwise (· < ·) ∧
        c.tagList.Pairwise (· < ·) := by
  refine ⟨exists_text_error_iff, text_eq_error_iff, ?_⟩
  intro typePrefix q plan hPlan
  constructor
  · rw [q.quotations_of_plan typePrefix plan hPlan, Query.literals_eq]
    exact congrArg (List.flatMap · q.alternatives) (funext (Criterion.literals_eq typePrefix))
  · intro c _
    exact ⟨c.ascending_types_in typePrefix, c.ascending_tags⟩

/-- The first filter has a text that may stand between quotes, the second one two that may not, of
which the first has two forbidden characters. -/
def spoiledProgram : Program :=
  ⟨[.not (.and [.hasTag "fine"]), .or [.typeIn ["a\"b\\"], .hasTag "\\"]], false, none, .isEmpty⟩

def unsortedQuery : Query :=
  .criteria [(Criterion.new.restrictTypes ["B", "A"]).requireTags ["y", "x", "y"], Criterion.new]

theorem spoiled_program_fails_at_first_bad_literal :
    spoiledProgram.text =
        .error (.invalidLiteral "a\"b\\" ("contains forbidden character " ++ Text.quotedChar '"')) ∧
      ∃ plan, unsortedQuery.plan "ns." = .ok plan ∧
        Predicate.quotationsOfAll plan.predicate.toList = ["ns.A", "ns.B", "x", "y"] := by
  obtain ⟨-, named, ordered⟩ := text_fails_at_first_bad_literal
  constructor
  · refine (named spoiledProgram _).2 ⟨⟨"a\"b\\", '"'⟩, ⟨⟨["fine"], ["\\"], rfl, ?_⟩, ?_, ?_⟩, rfl⟩
    · decide
    · decide
    · exact ⟨['a'], ['b', '\\'], rfl, List.forall_mem_singleton.2 (by decide)⟩
  · refine ⟨_, rfl, (ordered "ns." unsortedQuery _ rfl).1.trans ?_⟩
    decide +kernel

end Program
end BoundaryLog
