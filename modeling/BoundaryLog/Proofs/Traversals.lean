import BoundaryLog.Proofs.Selections

/-! # What a read leaves for the next one

A read without a limit goes over the selected events in the order of its direction, and its bound
takes off the front of that order.  So a read whose bound lies next to one of the entries finds
exactly the entries behind it, whatever the gaps between selected events are, and what is appended
to the log comes at the end of a read forwards. -/
set_option autoImplicit false
namespace BoundaryLog

namespace Traversal

/-- Whether a read in a direction comes to a position before another one. -/
def Precedes (backwards : Bool) (a b : Nat) : Prop := if backwards then b < a else a < b

theorem Precedes.asymm {backwards : Bool} {a b : Nat} (h : Precedes backwards a b) :
    ¬ Precedes backwards b a := by
  cases backwards with
  | false => exact Nat.lt_asymm h
  | true => exact Nat.lt_asymm h

/-- A read that goes over a position goes over all that comes after it. -/
theorem covers_of_precedes (traversal : Traversal) {a b : Nat} (ha : traversal.Covers a)
    (h : Precedes traversal.backwards a b) : traversal.Covers b := by
  obtain ⟨bound, backwards, limit⟩ := traversal
  cases bound with
  | none => trivial
  | some p =>
      cases backwards with
      | false => exact Nat.le_trans ha (Nat.le_of_lt h)
      | true => exact Nat.le_trans (Nat.le_of_lt h) ha

end Traversal

namespace Position

/-- The position next to one in the direction of reading, if there is one. -/
def beyond (backwards : Bool) (p : Position) : Option Position :=
  ofNat? (if backwards then p.value - 1 else p.value + 1)

/-- A read from the next position on goes over what comes after a position. -/
theorem covers_beyond (backwards : Bool) (p next : Position)
    (h : p.beyond backwards = some next) (limit : Option Count) (place : Nat) :
    (⟨some next, backwards, limit⟩ : Traversal).Covers place ↔
      Traversal.Precedes backwards p.value place := by
  have value := (ofNat?_eq_some_iff _ next).1 h
  have positive := next.positive
  cases backwards with
  | false =>
      have value : next.value = p.value + 1 := value
      change next.value ≤ place ↔ p.value < place
      omega
  | true =>
      have value : next.value = p.value - 1 := value
      change place ≤ next.value ↔ place < p.value
      omega

theorem exists_beyond_true (p : Position) (h : p ≠ first) : ∃ next, p.beyond true = some next := by
  have notOne : p.value ≠ 1 := fun hOne => h (eq_of_value hOne)
  have positive := p.positive
  have bounded := p.bounded
  exact ⟨⟨p.value - 1, by omega, by omega⟩, (ofNat?_eq_some_iff _ _).2 rfl⟩

theorem exists_beyond_false (p : Position) (h : p.value + 1 < countBound) :
    ∃ next, p.beyond false = some next ∧ next.value = p.value + 1 :=
  ⟨⟨p.value + 1, Nat.succ_pos _, h⟩, (ofNat?_eq_some_iff _ _).2 rfl, rfl⟩

end Position

/-- Of entries in the order of a read, the read from next to one of them goes over those behind it. -/
theorem Traversal.filter_covers_beyond (backwards : Bool) (before after : List (Record × Nat))
    (entry : Record × Nat)
    (ordered : (before ++ entry :: after).Pairwise fun a b => Precedes backwards a.2 b.2)
    (p next : Position) (hp : p.value = entry.2) (hNext : p.beyond backwards = some next) :
    ((before ++ entry :: after).filter fun (_, place) =>
      (⟨some next, backwards, none⟩ : Traversal).Covers place) = after := by
  have covers := p.covers_beyond backwards next hNext none
  rw [hp] at covers
  obtain ⟨-, later, earlier⟩ := List.pairwise_append.1 ordered
  have nothingBefore : ((before ++ [entry]).filter fun (_, place) =>
      (⟨some next, backwards, none⟩ : Traversal).Covers place) = [] := by
    rw [List.filter_eq_nil_iff]
    intro other hOther hCovers
    have behind := (covers other.2).1 (of_decide_eq_true hCovers)
    rcases List.mem_append.1 hOther with hBefore | hSame
    · exact (earlier other hBefore entry List.mem_cons_self).asymm behind
    · rw [List.mem_singleton.1 hSame] at behind
      exact behind.asymm behind
  have allAfter : (after.filter fun (_, place) =>
      (⟨some next, backwards, none⟩ : Traversal).Covers place) = after := by
    apply List.filter_eq_self.2
    intro other hOther
    exact decide_eq_true ((covers other.2).2 ((List.pairwise_cons.1 later).1 other hOther))
  rw [List.append_cons, List.filter_append, nothingBefore, allAfter, List.nil_append]

/-! ## Reads without a limit -/

namespace Query
section Entries
variable (typePrefix : String) {q : Query} (hMany : q.onlyLast = false) (records : List Record)
  (backwards : Bool) (bound : Option Position)
include hMany

theorem traverse_limited (size : Count) :
    q.traverse typePrefix ⟨bound, backwards, some size⟩ records =
      (q.traverse typePrefix ⟨bound, backwards, none⟩ records).take size.value := by
  simp only [traverse_eq, hMany]
  rfl

theorem traverse_unlimited :
    q.traverse typePrefix ⟨bound, backwards, none⟩ records =
      let covered := (q.selected typePrefix records).filter fun (_, place) =>
        (⟨bound, backwards, none⟩ : Traversal).Covers place
      if backwards then covered.reverse else covered := by
  simp only [traverse_eq, hMany, Bool.or_false, Bool.false_eq_true, if_false]

theorem traverse_bounded :
    q.traverse typePrefix ⟨bound, backwards, none⟩ records =
      (q.traverse typePrefix ⟨none, backwards, none⟩ records).filter fun (_, place) =>
        (⟨bound, backwards, none⟩ : Traversal).Covers place := by
  rw [traverse_unlimited typePrefix hMany, traverse_unlimited typePrefix hMany,
    Traversal.filter_covers_of_unbounded ⟨none, backwards, none⟩ rfl]
  cases backwards with
  | false => rfl
  | true => exact List.filter_reverse.symm

theorem traverse_backwards :
    q.traverse typePrefix ⟨none, true, none⟩ records =
      (q.traverse typePrefix .full records).reverse := by
  rw [Traversal.full, traverse_unlimited typePrefix hMany, traverse_unlimited typePrefix hMany,
    Traversal.filter_covers_of_unbounded _ rfl, Traversal.filter_covers_of_unbounded _ rfl]
  rfl

theorem pairwise_traverse :
    (q.traverse typePrefix ⟨bound, backwards, none⟩ records).Pairwise fun a b =>
      Traversal.Precedes backwards a.2 b.2 := by
  have ordered := (q.pairwise_selected typePrefix records).filter fun (_, place) =>
    decide ((⟨bound, backwards, none⟩ : Traversal).Covers place)
  rw [traverse_unlimited typePrefix hMany]
  cases backwards with
  | false => exact ordered
  | true => exact List.pairwise_reverse.2 ordered

theorem length_traverse_le :
    (q.traverse typePrefix ⟨bound, backwards, none⟩ records).length ≤ records.length := by
  have selected : (q.selected typePrefix records).length ≤ records.length :=
    Nat.le_trans (List.length_filter_le _ _) (Nat.le_of_eq List.length_zipIdx)
  rw [traverse_unlimited typePrefix hMany]
  cases backwards with
  | false => exact Nat.le_trans (List.length_filter_le _ _) selected
  | true =>
      apply Nat.le_trans (Nat.le_of_eq List.length_reverse)
      exact Nat.le_trans (List.length_filter_le _ _) selected

/-- Behind an entry that a read comes to, the read from next to it goes on with the same entries. -/
theorem traverse_beyond (before after : List (Record × Nat)) (entry : Record × Nat)
    (hSplit : q.traverse typePrefix ⟨bound, backwards, none⟩ records = before ++ entry :: after)
    (p next : Position) (hp : p.value = entry.2) (hNext : p.beyond backwards = some next) :
    q.traverse typePrefix ⟨some next, backwards, none⟩ records = after := by
  have bounded := traverse_bounded typePrefix hMany records backwards bound
  have ordered := pairwise_traverse typePrefix hMany records backwards bound
  rw [hSplit] at bounded ordered
  have covered : (⟨bound, backwards, none⟩ : Traversal).Covers entry.2 := by
    have hMem : entry ∈ before ++ entry :: after := List.mem_append_right _ List.mem_cons_self
    rw [bounded] at hMem
    exact of_decide_eq_true (List.mem_filter.1 hMem).2
  -- the new bound leaves out more than the old one, so it may be applied to what that one left
  have narrowed : q.traverse typePrefix ⟨some next, backwards, none⟩ records =
      (before ++ entry :: after).filter fun (_, place) =>
        (⟨some next, backwards, none⟩ : Traversal).Covers place := by
    rw [traverse_bounded typePrefix hMany, bounded, List.filter_filter]
    apply List.filter_congr
    rintro ⟨r, place⟩ -
    rw [Bool.eq_iff_iff, Bool.and_eq_true, decide_eq_true_eq, decide_eq_true_eq,
      p.covers_beyond backwards next hNext, hp]
    constructor
    · intro h
      exact ⟨h, Traversal.covers_of_precedes _ covered h⟩
    · exact And.left
  rw [narrowed]
  exact Traversal.filter_covers_beyond backwards before after entry ordered p next hp hNext

/-- A read backwards ends with the first position. -/
theorem nil_of_backwards_first (before after : List (Record × Nat)) (entry : Record × Nat)
    (hSplit : q.traverse typePrefix ⟨bound, true, none⟩ records = before ++ entry :: after)
    (hFirst : entry.2 = 1) : after = [] := by
  have ordered := pairwise_traverse typePrefix hMany records true bound
  rw [hSplit] at ordered
  have later := (List.pairwise_cons.1 (List.pairwise_append.1 ordered).2.1).1
  rw [List.eq_nil_iff_forall_not_mem]
  intro other hOther
  have below : other.2 < entry.2 := later other hOther
  have hMem : other ∈ q.traverse typePrefix ⟨bound, true, none⟩ records := by
    rw [hSplit]
    exact List.mem_append_right _ (List.mem_cons_of_mem _ hOther)
  have positive := (q.place_of_mem_traverse typePrefix _ records other hMem).1
  omega

/-- What is appended comes at the end of a read whose bound does not lie behind the log. -/
theorem traverse_append (old new : List Record) (hBound : ∀ p ∈ bound, p.value ≤ old.length + 1) :
    q.traverse typePrefix ⟨bound, false, none⟩ (old ++ new) =
      q.traverse typePrefix ⟨bound, false, none⟩ old ++
        (new.zipIdx (1 + old.length)).filter fun (r, _) => q.Selects typePrefix r := by
  have covered : ∀ entry ∈ (new.zipIdx (1 + old.length)).filter fun (r, _) =>
      decide (q.Selects typePrefix r),
      decide ((⟨bound, false, none⟩ : Traversal).Covers entry.2) = true := by
    intro entry hEntry
    have behind := List.le_snd_of_mem_zipIdx (List.mem_filter.1 hEntry).1
    apply decide_eq_true
    cases bound with
    | none => trivial
    | some p =>
        have reached := hBound p rfl
        change p.value ≤ entry.2
        omega
  rw [traverse_unlimited typePrefix hMany, traverse_unlimited typePrefix hMany, selected_append,
    List.filter_append, List.filter_eq_self.2 covered]
  rfl

end Entries
end Query

end BoundaryLog
