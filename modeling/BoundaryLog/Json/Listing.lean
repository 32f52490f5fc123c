import BoundaryLog.Json.Writer
import BoundaryLog.Text.Quoted

/-! # Naming JSON values in messages

`listing` spells a value out, each part under the name of its kind; `kind` gives a value's kind
with its content when that is short. -/
set_option autoImplicit false
namespace BoundaryLog.Json

mutual

def listing : Json → String
  | .null => "Null"
  | .bool true => "Bool(true)"
  | .bool false => "Bool(false)"
  | .number n => "Number(" ++ n.text ++ ")"
  | .string s => "String(" ++ Text.quoted s ++ ")"
  | .array items => "Array [" ++ itemsListing items ++ "]"
  | .object members => "Object \x7b" ++ membersListing members ++ "\x7d"

def itemsListing : List Json → String
  | [] => ""
  | [x] => listing x
  | x :: y :: rest => listing x ++ ", " ++ itemsListing (y :: rest)

def membersListing : List (String × Json) → String
  | [] => ""
  | [(k, x)] => Text.quoted k ++ ": " ++ listing x
  | (k, x) :: y :: rest =>
      Text.quoted k ++ ": " ++ listing x ++ ", " ++ membersListing (y :: rest)

end

def optionalListing : Option Json → String
  | none => "None"
  | some v => "Some(" ++ listing v ++ ")"

def kind : Json → String
  | .null => "null"
  | .bool true => "boolean `true`"
  | .bool false => "boolean `false`"
  | .number (.integer n) => "integer `" ++ toString n ++ "`"
  | .number (.real x) => "floating point `" ++ x.text ++ "`"
  | .string s => "string " ++ Text.quoted s
  | .array _ => "sequence"
  | .object _ => "map"

end BoundaryLog.Json
