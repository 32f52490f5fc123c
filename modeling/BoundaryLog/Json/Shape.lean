import BoundaryLog.Json.Listing

/-! # Reading records from JSON

A record is read from an object, whose members are taken in ascending order of their names, or from
an array, whose elements are the fields in their declared order.  Reading reports the first thing
wrong; a field that is missing altogether is reported only when everything present is right. -/
set_option autoImplicit false
namespace BoundaryLog.Json

/-- Why a value does not have the shape of a record. -/
inductive ShapeFault where
  | wrongKind (found : Json) (expected : String)
  | missingField (name : String)
  | tooFew (found : Nat) (record : String) (fields : Nat)
  | tooMany (found : Nat)
  deriving DecidableEq

def ShapeFault.message : ShapeFault → String
  | .wrongKind found expected => "invalid type: " ++ found.kind ++ ", expected " ++ expected
  | .missingField name => "missing field `" ++ name ++ "`"
  | .tooFew found record fields =>
      "invalid length " ++ toString found ++ ", expected struct " ++ record ++ " with " ++
        toString fields ++ (if fields = 1 then " element" else " elements")
  | .tooMany found => "invalid length " ++ toString found ++ ", expected fewer elements in array"

/-- How the value of a field is read. -/
abbrev Field (α : Type) := Json → Except ShapeFault α

def anything : Field Json := .ok

def asText : Field String
  | .string s => .ok s
  | v => .error (.wrongKind v "a string")

def textItems : List Json → Except ShapeFault (List String)
  | [] => .ok []
  | v :: rest => do
      let s ← asText v
      let texts ← textItems rest
      return s :: texts

def asTexts : Field (List String)
  | .array items => textItems items
  | v => .error (.wrongKind v "a sequence")

/-- A field for which null stands for nothing. -/
def nullable {α : Type} (read : Field α) : Field (Option α)
  | .null => .ok none
  | v => do
      let x ← read v
      return some x

/-! ## Objects -/

/-- The member of an object with the given name, if it is there. -/
def member {α : Type} (members : List (String × Json)) (name : String) (read : Field α) :
    Except ShapeFault (Option α) :=
  match lookup members name with
  | none => .ok none
  | some v => do
      let x ← read v
      return some x

def required {α : Type} (name : String) : Option α → Except ShapeFault α
  | none => .error (.missingField name)
  | some x => .ok x

/-! ## Arrays -/

/-- The element of an array that stands for a field; `fallback` is for a short array. -/
def element {α : Type} (items : List Json) (index : Nat) (fallback : Except ShapeFault α)
    (read : Field α) : Except ShapeFault α :=
  match items[index]? with
  | none => fallback
  | some v => read v

/-- The fault of an array that ends before a field that must be there. -/
def endsEarly {α : Type} (record : String) (fields index : Nat) : Except ShapeFault α :=
  .error (.tooFew index record fields)

/-- An array must not go on after the last field. -/
def noFurther (items : List Json) (fields : Nat) : Except ShapeFault Unit :=
  if items.length ≤ fields then .ok () else .error (.tooMany items.length)

end BoundaryLog.Json
