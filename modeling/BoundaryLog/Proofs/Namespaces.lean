import BoundaryLog.Row

/-! # Types without their namespace

A stored type is a namespace followed by a type, and a reader takes off as many bytes as its own
namespace has, whatever they are.  What is left begins where those bytes end; nothing is left when
they end inside a character or behind the text. -/
set_option autoImplicit false
namespace BoundaryLog.Row

/-- Whether a text is what is left of another one after so many bytes of its UTF-8 form. -/
def IsLeft (bytes : Nat) (text rest : String) : Prop :=
  (∃ front, text = front ++ rest ∧ front.utf8ByteSize = bytes) ∨
    (rest = "" ∧ ∀ front back, text = front ++ back → front.utf8ByteSize ≠ bytes)

def byteSize (cs : List Char) : Nat := (String.ofList cs).utf8ByteSize

@[simp] theorem byteSize_nil : byteSize [] = 0 := rfl

@[simp] theorem byteSize_cons (c : Char) (cs : List Char) :
    byteSize (c :: cs) = c.utf8Size + byteSize cs := by
  simp [byteSize, String.ofList_cons]

theorem byteSize_toList (s : String) : byteSize s.toList = s.utf8ByteSize := by
  simp [byteSize]

theorem dropBytes_append (front rest : List Char) :
    dropBytes (byteSize front) (front ++ rest) = rest := by
  induction front with
  | nil => simp [dropBytes]
  | cons c front ih =>
      have positive := c.utf8Size_pos
      obtain ⟨n, hn⟩ : ∃ n, byteSize (c :: front) = n + 1 :=
        Nat.exists_eq_add_one.2 (by simp; omega)
      have fits : c.utf8Size ≤ n + 1 := by simp at hn; omega
      have others : n + 1 - c.utf8Size = byteSize front := by simp at hn; omega
      rw [hn, List.cons_append, dropBytes, if_pos fits, others, ih]

/-- Where no character begins after the bytes that are dropped, nothing is left. -/
theorem dropBytes_eq_nil (bytes : Nat) (cs : List Char)
    (h : ∀ front back, cs = front ++ back → byteSize front ≠ bytes) : dropBytes bytes cs = [] := by
  induction cs generalizing bytes with
  | nil => cases bytes <;> rfl
  | cons c cs ih =>
      cases bytes with
      | zero => exact absurd rfl (h [] (c :: cs) rfl)
      | succ n =>
          rw [dropBytes]
          split
          · next fits =>
              apply ih
              intro front back hSplit hSize
              apply h (c :: front) back (by rw [hSplit]; rfl)
              rw [byteSize_cons]
              omega
          · rfl

theorem isLeft_dropNamespace (typePrefix stored : String) :
    IsLeft typePrefix.utf8ByteSize stored (dropNamespace typePrefix stored) := by
  by_cases h : ∃ front back : List Char, stored.toList = front ++ back ∧
      byteSize front = typePrefix.utf8ByteSize
  · obtain ⟨front, back, hSplit, hSize⟩ := h
    left
    refine ⟨String.ofList front, ?_, hSize⟩
    rw [dropNamespace, ← hSize, hSplit, dropBytes_append, ← String.ofList_append, ← hSplit,
      String.ofList_toList]
  · right
    constructor
    · rw [dropNamespace, dropBytes_eq_nil]
      intro front back hSplit hSize
      exact h ⟨front, back, hSplit, hSize⟩
    · intro front back hSplit hSize
      apply h ⟨front.toList, back.toList, by rw [hSplit, String.toList_append], ?_⟩
      rw [byteSize_toList, hSize]

/-- A namespace of the same length is taken off whole. -/
theorem dropNamespace_append (typePrefix front type : String)
    (h : front.utf8ByteSize = typePrefix.utf8ByteSize) :
    dropNamespace typePrefix (front ++ type) = type := by
  rw [dropNamespace, String.toList_append, ← h, ← byteSize_toList, dropBytes_append,
    String.ofList_toList]

end BoundaryLog.Row
