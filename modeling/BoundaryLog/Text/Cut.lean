/-! # Cutting a text at a given piece

What follows a piece at the front, what precedes a piece at the back, and the two sides of its
last occurrence. -/
set_option autoImplicit false
namespace BoundaryLog.Text

/-- What follows `piece` when the text begins with it. -/
def after? : List Char → List Char → Option (List Char)
  | [], cs => some cs
  | _ :: _, [] => none
  | p :: ps, c :: cs => if p = c then after? ps cs else none

/-- What precedes `piece` when the text ends with it. -/
def before? (piece cs : List Char) : Option (List Char) :=
  (after? piece.reverse cs.reverse).map List.reverse

/-- The text before and after the last occurrence of `piece`. -/
def cutLast? (piece : List Char) : List Char → Option (List Char × List Char)
  | [] => (after? piece []).map fun rest => ([], rest)
  | c :: cs =>
      match cutLast? piece cs with
      | some (before, rest) => some (c :: before, rest)
      | none => (after? piece (c :: cs)).map fun rest => ([], rest)

theorem after?_append (piece rest : List Char) : after? piece (piece ++ rest) = some rest := by
  induction piece with
  | nil => rfl
  | cons p ps ih => simp [after?, ih]

theorem eq_append_of_after? :
    ∀ (piece cs rest : List Char), after? piece cs = some rest → cs = piece ++ rest
  | [], _, _, h => by simpa [after?] using h
  | _ :: _, [], _, h => by simp [after?] at h
  | p :: ps, c :: cs, rest, h => by
      by_cases hc : p = c
      · simp only [after?, hc, if_true] at h
        rw [hc, eq_append_of_after? ps cs rest h]
        rfl
      · simp [after?, hc] at h

theorem after?_eq_some_iff (piece cs rest : List Char) :
    after? piece cs = some rest ↔ cs = piece ++ rest :=
  ⟨eq_append_of_after? piece cs rest, fun h => h ▸ after?_append piece rest⟩

theorem before?_eq_some_iff (piece cs rest : List Char) :
    before? piece cs = some rest ↔ cs = rest ++ piece := by
  rw [before?, Option.map_eq_some_iff]
  constructor
  · rintro ⟨back, hBack, rfl⟩
    rw [after?_eq_some_iff] at hBack
    simpa using congrArg List.reverse hBack
  · rintro rfl
    exact ⟨rest.reverse, by rw [after?_eq_some_iff]; simp, by simp⟩

/-- The two sides of the last occurrence, with the piece between them, are the whole text. -/
theorem eq_append_of_cutLast? (piece : List Char) :
    ∀ (cs before rest : List Char),
      cutLast? piece cs = some (before, rest) → cs = before ++ piece ++ rest
  | [], before, rest, h => by
      obtain ⟨r, hr, hEq⟩ := Option.map_eq_some_iff.1 h
      obtain ⟨rfl, rfl⟩ := Prod.mk.inj hEq
      simpa using (after?_eq_some_iff piece [] r).1 hr
  | c :: cs, before, rest, h => by
      rw [cutLast?] at h
      split at h
      · next b r hCut =>
          obtain ⟨rfl, rfl⟩ := Prod.mk.inj (Option.some.inj h)
          rw [eq_append_of_cutLast? piece cs b r hCut]
          simp
      · obtain ⟨r, hr, hEq⟩ := Option.map_eq_some_iff.1 h
        obtain ⟨rfl, rfl⟩ := Prod.mk.inj hEq
        simpa using (after?_eq_some_iff piece (c :: cs) r).1 hr

end BoundaryLog.Text
