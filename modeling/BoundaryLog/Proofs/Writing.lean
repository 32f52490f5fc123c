import BoundaryLog.Query.Plan

/-! # What writing a program comes to

Writing a predicate does two things at once: it looks for a text that cannot stand between quotes,
and it puts the words together.  Here the two are apart.  `quotations` are the texts that are put
between quotes, from left to right; `written` is the text that comes out if all of them can stand
there.  Writing succeeds exactly then, and fails with the first one that cannot. -/
set_option autoImplicit false
namespace BoundaryLog
namespace Predicate

/-- Induction over a predicate, all operands of a connective at once. -/
@[induction_eliminator]
theorem inductionOperands {motive : Predicate → Prop}
    (always : motive .always) (typeIn : ∀ types, motive (.typeIn types))
    (hasTag : ∀ tag, motive (.hasTag tag))
    (position : ∀ comparison bound, motive (.position comparison bound))
    (and : ∀ operands, (∀ p ∈ operands, motive p) → motive (.and operands))
    (or : ∀ operands, (∀ p ∈ operands, motive p) → motive (.or operands))
    (not : ∀ operand, motive operand → motive (.not operand)) (p : Predicate) : motive p :=
  p.rec (motive_2 := fun ps => ∀ p ∈ ps, motive p) always typeIn hasTag position and or not
    (fun _ h => absurd h List.not_mem_nil)
    fun _ _ head tail _ h => (List.mem_cons.1 h).elim (fun e => e ▸ head) (tail _)

/-! ## The two sides of writing -/

/-- The fault of a text that cannot stand between quotes. -/
def bad? (s : String) : Option BadLiteral := (s.toList.find? isForbidden).map (⟨s, ·⟩)

/-- A result, unless some text cannot stand between quotes; the first such text is named. -/
def vetted {α : Type} (texts : List String) (result : α) : Except BadLiteral α :=
  match texts.findSome? bad? with
  | some bad => .error bad
  | none => .ok result

def inQuotes (s : String) : String := "\"" ++ s ++ "\""

def tagText (tag : String) : String := "e.data.tags CONTAINS " ++ inQuotes tag

mutual

/-- The texts that stand between quotes, from left to right. -/
def quotations : Predicate → List String
  | .always | .position _ _ => []
  | .typeIn types => types
  | .hasTag tag => [tag]
  | .and operands | .or operands => quotationsOfAll operands
  | .not operand => quotations operand

def quotationsOfAll : List Predicate → List String
  | [] => []
  | p :: ps => quotations p ++ quotationsOfAll ps

end

mutual

/-- A predicate in the query language, whatever stands between quotes. -/
def written : Predicate → String
  | .always => "true"
  | .typeIn types => "[" ++ Text.joinWith "," (types.map inQuotes) ++ "] CONTAINS e.type"
  | .hasTag tag => tagText tag
  | .position comparison bound =>
      positionExpression ++ " " ++ comparison.symbol ++ " " ++ bound.text
  | .and operands => connected " AND " "true" (writtenAll operands)
  | .or operands => connected " OR " "false" (writtenAll operands)
  | .not operand => "NOT " ++ parenthesized (written operand)

def writtenAll : List Predicate → List String
  | [] => []
  | p :: ps => written p :: writtenAll ps

end

theorem quotationsOfAll_eq_flatMap (ps : List Predicate) :
    quotationsOfAll ps = ps.flatMap quotations := by
  induction ps with
  | nil => rfl
  | cons p ps ih => rw [quotationsOfAll, ih, List.flatMap_cons]

theorem mem_quotationsOfAll {p : Predicate} {ps : List Predicate} (hp : p ∈ ps) {s : String}
    (hs : s ∈ p.quotations) : s ∈ quotationsOfAll ps := by
  rw [quotationsOfAll_eq_flatMap]
  exact List.mem_flatMap.2 ⟨p, hp, hs⟩

theorem writtenAll_eq_map (ps : List Predicate) : writtenAll ps = ps.map written := by
  induction ps with
  | nil => rfl
  | cons p ps ih => rw [writtenAll, ih, List.map_cons]

/-! ## Vetting -/

section Vetting
variable {α β γ : Type}

theorem vetted_bind_pure (texts : List String) (result : α) (f : α → β) :
    (do let x ← vetted texts result; return f x) = vetted texts (f result) := by
  unfold vetted
  cases texts.findSome? bad? <;> rfl

/-- Two vettings one after the other are one vetting of all the texts in order. -/
theorem vetted_bind_vetted (first second : List String) (a : α) (b : β) (f : α → β → γ) :
    (do let x ← vetted first a; let y ← vetted second b; return f x y) =
      vetted (first ++ second) (f a b) := by
  unfold vetted
  rw [List.findSome?_append]
  cases first.findSome? bad? with
  | some bad => rfl
  | none => cases second.findSome? bad? <;> rfl

theorem vetted_eq_ok_iff (texts : List String) (result x : α) :
    vetted texts result = .ok x ↔ texts.findSome? bad? = none ∧ result = x := by
  unfold vetted
  cases texts.findSome? bad? <;> simp

end Vetting

theorem not_mem_of_bad?_eq_none (s : String) (h : bad? s = none) : '"' ∉ s.toList := by
  intro hMem
  rw [bad?, Option.map_eq_none_iff, List.find?_eq_none] at h
  exact h '"' hMem rfl

theorem not_mem_of_vetted {α : Type} (texts : List String) (result x : α)
    (h : vetted texts result = .ok x) (s : String) (hs : s ∈ texts) : '"' ∉ s.toList := by
  rw [vetted_eq_ok_iff, List.findSome?_eq_none_iff] at h
  exact not_mem_of_bad?_eq_none s (h.1 s hs)

/-! ## Writing -/

theorem literal_eq (s : String) : literal s = vetted [s] (inQuotes s) := by
  unfold literal vetted bad? inQuotes
  cases hFind : s.toList.find? isForbidden <;> simp [hFind]

theorem literals_eq (texts : List String) :
    literals texts = vetted texts (texts.map inQuotes) := by
  induction texts with
  | nil => rfl
  | cons s rest ih =>
      rw [literals, literal_eq, ih, vetted_bind_vetted]
      rfl

theorem renderAll_eq (ps : List Predicate)
    (h : ∀ p ∈ ps, p.render = vetted p.quotations p.written) :
    renderAll ps = vetted (quotationsOfAll ps) (writtenAll ps) := by
  induction ps with
  | nil => rfl
  | cons p ps ih =>
      have head := h p (List.mem_cons_self ..)
      have tail := ih fun q hq => h q (List.mem_cons_of_mem p hq)
      rw [renderAll, head, tail, vetted_bind_vetted]
      rfl

/-- Writing a predicate is vetting its quotations. -/
theorem render_eq (p : Predicate) : p.render = vetted p.quotations p.written := by
  induction p with
  | always => rfl
  | typeIn types =>
      rw [render, literals_eq, vetted_bind_pure]
      rfl
  | hasTag tag =>
      rw [render, literal_eq, vetted_bind_pure]
      rfl
  | position comparison bound => rfl
  | and operands ih =>
      rw [render, renderAll_eq operands ih, vetted_bind_pure]
      rfl
  | or operands ih =>
      rw [render, renderAll_eq operands ih, vetted_bind_pure]
      rfl
  | not operand ih =>
      rw [render, ih, vetted_bind_pure]
      rfl

end Predicate

namespace Program

/-- The text of a program, whatever stands between quotes. -/
def written (program : Program) : String :=
  "FROM e IN events" ++ filtersText (Predicate.writtenAll program.filters) ++
    orderText program.descending ++ topText program.top ++ " PROJECT INTO " ++
    program.projection.text

theorem render_eq_vetted (program : Program) :
    program.render =
      Predicate.vetted (Predicate.quotationsOfAll program.filters) program.written := by
  have all := Predicate.renderAll_eq program.filters fun p _ => p.render_eq
  rw [render, all, Predicate.vetted_bind_pure]
  rfl

theorem render_eq_ok_iff (program : Program) (text : String) :
    program.render = .ok text ↔
      (Predicate.quotationsOfAll program.filters).findSome? Predicate.bad? = none ∧
        program.written = text := by
  rw [render_eq_vetted, Predicate.vetted_eq_ok_iff]

/-- No quote stands between the quotes of a program that is written. -/
theorem not_mem_of_render {program : Program} {text : String} (h : program.render = .ok text)
    (s : String) (hs : s ∈ Predicate.quotationsOfAll program.filters) : '"' ∉ s.toList := by
  rw [render_eq_vetted] at h
  exact Predicate.not_mem_of_vetted _ _ _ h s hs

end Program
end BoundaryLog
