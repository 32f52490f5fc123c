import BoundaryLog.Decimal.Binary64

/-! # JSON values

Payloads and metadata are opaque documents, and database rows arrive as documents.  A number is
kept as a whole number or as a binary64 number, so that it is written as it was read.  The members
of an object stand in ascending order of their names, each name once; `Json.ofMembers` brings any
list of members into that order. -/
set_option autoImplicit false
namespace BoundaryLog

inductive Number where
  | integer (n : Int)
  | real (x : Decimal.Binary64)
  deriving DecidableEq

inductive Json where
  | null
  | bool (b : Bool)
  | number (n : Number)
  | string (s : String)
  | array (items : List Json)
  | object (members : List (String × Json))

namespace Json

mutual

def decEq : (a b : Json) → Decidable (a = b)
  | .null, .null => isTrue rfl
  | .bool a, .bool b => decidable_of_iff (a = b) (by simp)
  | .number a, .number b => decidable_of_iff (a = b) (by simp)
  | .string a, .string b => decidable_of_iff (a = b) (by simp)
  | .array xs, .array ys => have := decEqItems xs ys; decidable_of_iff (xs = ys) (by simp)
  | .object xs, .object ys => have := decEqMembers xs ys; decidable_of_iff (xs = ys) (by simp)
  | .null, .bool _ | .null, .number _ | .null, .string _ | .null, .array _ | .null, .object _ =>
      isFalse nofun
  | .bool _, .null | .bool _, .number _ | .bool _, .string _ | .bool _, .array _
  | .bool _, .object _ => isFalse nofun
  | .number _, .null | .number _, .bool _ | .number _, .string _ | .number _, .array _
  | .number _, .object _ => isFalse nofun
  | .string _, .null | .string _, .bool _ | .string _, .number _ | .string _, .array _
  | .string _, .object _ => isFalse nofun
  | .array _, .null | .array _, .bool _ | .array _, .number _ | .array _, .string _
  | .array _, .object _ => isFalse nofun
  | .object _, .null | .object _, .bool _ | .object _, .number _ | .object _, .string _
  | .object _, .array _ => isFalse nofun

def decEqItems : (xs ys : List Json) → Decidable (xs = ys)
  | [], [] => isTrue rfl
  | [], _ :: _ | _ :: _, [] => isFalse nofun
  | x :: xs, y :: ys =>
      have := decEq x y
      have := decEqItems xs ys
      decidable_of_iff (x = y ∧ xs = ys) (by simp)

def decEqMembers : (xs ys : List (String × Json)) → Decidable (xs = ys)
  | [], [] => isTrue rfl
  | [], _ :: _ | _ :: _, [] => isFalse nofun
  | (k, x) :: xs, (l, y) :: ys =>
      have := decEq x y
      have := decEqMembers xs ys
      decidable_of_iff ((k = l ∧ x = y) ∧ xs = ys) (by simp)

end

instance : DecidableEq Json := decEq

instance : Inhabited Json := ⟨.null⟩

/-- Put a member in its place, instead of an earlier one of that name. -/
def insertMember (name : String) (value : Json) : List (String × Json) → List (String × Json)
  | [] => [(name, value)]
  | (k, v) :: rest =>
      if name < k then (name, value) :: (k, v) :: rest
      else if name = k then (name, value) :: rest
      else (k, v) :: insertMember name value rest

/-- The object with the given members; of two with one name the later counts. -/
def ofMembers (members : List (String × Json)) : Json :=
  .object (members.foldl (fun ms m => insertMember m.1 m.2 ms) [])

def lookup (members : List (String × Json)) (name : String) : Option Json :=
  List.lookup name members

def ofInt (n : Int) : Json := .number (.integer n)

def ofNat (n : Nat) : Json := ofInt n

def ofStrings (texts : List String) : Json := .array (texts.map .string)

end Json
end BoundaryLog
