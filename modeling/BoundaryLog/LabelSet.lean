/-! # Sets of labels

Tags and event types come as sets of texts.  A set keeps its members in ascending order by code
point and each once, so that two sets with the same members are equal and everything built from a
set depends on its members alone. -/
set_option autoImplicit false
namespace BoundaryLog

structure LabelSet where
  toList : List String
  ascending : toList.Pairwise (· < ·)
  deriving DecidableEq

namespace LabelSet

/-- Put a label into an ascending list. -/
def insertSorted (label : String) : List String → List String
  | [] => [label]
  | x :: xs =>
      if label < x then label :: x :: xs
      else if label = x then x :: xs
      else x :: insertSorted label xs

theorem mem_insertSorted (label x : String) (xs : List String) :
    x ∈ insertSorted label xs ↔ x = label ∨ x ∈ xs := by
  induction xs with
  | nil => simp [insertSorted]
  | cons y ys ih =>
      rw [insertSorted]
      split
      · simp
      · split
        · next h => simp [h]
        · simp only [List.mem_cons, ih]
          exact or_left_comm

theorem pairwise_insertSorted (label : String) (xs : List String)
    (h : xs.Pairwise (· < ·)) : (insertSorted label xs).Pairwise (· < ·) := by
  induction xs with
  | nil => simp [insertSorted]
  | cons y ys ih =>
      obtain ⟨hy, hys⟩ := List.pairwise_cons.1 h
      rw [insertSorted]
      split
      · next hlt =>
          refine List.pairwise_cons.2 ⟨fun z hz => ?_, h⟩
          rcases List.mem_cons.1 hz with rfl | hz
          · exact hlt
          · exact String.lt_trans hlt (hy z hz)
      · next hnlt =>
          split
          · exact h
          · next hne =>
              refine List.pairwise_cons.2 ⟨fun z hz => ?_, ih hys⟩
              rcases (mem_insertSorted label z ys).1 hz with rfl | hz
              · exact Std.lt_of_le_of_ne (Std.not_lt.1 hnlt) (Ne.symm hne)
              · exact hy z hz

def empty : LabelSet := ⟨[], List.Pairwise.nil⟩

def insert (label : String) (s : LabelSet) : LabelSet :=
  ⟨insertSorted label s.toList, pairwise_insertSorted label s.toList s.ascending⟩

/-- The set of the members of a list. -/
def ofList (labels : List String) : LabelSet := labels.foldr insert empty

def contains (s : LabelSet) (label : String) : Bool := s.toList.contains label

def size (s : LabelSet) : Nat := s.toList.length

def isEmpty (s : LabelSet) : Bool := s.toList.isEmpty

theorem mem_ofList (labels : List String) (x : String) :
    x ∈ (ofList labels).toList ↔ x ∈ labels := by
  induction labels with
  | nil => simp [ofList, empty]
  | cons y ys ih =>
      have step : (ofList (y :: ys)).toList = insertSorted y (ofList ys).toList := rfl
      rw [step, mem_insertSorted, ih, List.mem_cons]

theorem insertSorted_of_lt (label : String) (xs : List String) (h : ∀ x ∈ xs, label < x) :
    insertSorted label xs = label :: xs := by
  cases xs with
  | nil => rfl
  | cons x xs => exact if_pos (h x List.mem_cons_self)

/-- A set is the set of its own members. -/
theorem ofList_toList (s : LabelSet) : ofList s.toList = s := by
  have same : ∀ xs : List String, xs.Pairwise (· < ·) → (ofList xs).toList = xs := by
    intro xs ascending
    induction xs with
    | nil => rfl
    | cons x xs ih =>
        obtain ⟨least, rest⟩ := List.pairwise_cons.1 ascending
        have step : (ofList (x :: xs)).toList = insertSorted x (ofList xs).toList := rfl
        rw [step, ih rest, insertSorted_of_lt x xs least]
  obtain ⟨xs, ascending⟩ := s
  exact (LabelSet.mk.injEq ..).mpr (same xs ascending)

end LabelSet
end BoundaryLog
