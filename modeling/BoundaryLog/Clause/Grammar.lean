import BoundaryLog.Clause.Formula

/-! # The grammar of expressions

Which tokens denote which expression, said without a reader:

    alternatives  ::=  conditions ("OR" conditions)*
    conditions    ::=  condition ("AND" condition)*
    condition     ::=  "NOT" condition  |  simple
    simple        ::=  "(" e.id AS INT + 1 ")" operator number  |  "(" alternatives ")"
                    |  "[" text ("," text)* "]" CONTAINS e.type  |  e.data.tags CONTAINS text
                    |  true  |  false

Both repetitions group to the left, so their rules recur on the left: a further operand is joined to
all that stands before it. -/
set_option autoImplicit false
namespace BoundaryLog.Clause

/-- The kinds of phrases, from the one that binds weakest. -/
inductive Phrase where
  | alternatives
  | conditions
  | condition
  | simple
  deriving DecidableEq

/-- Whether tokens are quoted texts with commas between them, at least one. -/
inductive Lists : List Token → List String → Prop where
  | one (s : String) : Lists [.text s] [s]
  | more (s : String) {ts : List Token} {others : List String} (h : Lists ts others) :
      Lists (.text s :: .comma :: ts) (s :: others)

/-- Whether tokens, all of them, are a phrase that stands for an expression. -/
inductive Denotes : Phrase → List Token → Formula → Prop where
  | alternative {ts : List Token} {e : Formula} (h : Denotes .conditions ts e) :
      Denotes .alternatives ts e
  | or {ts us : List Token} {left right : Formula} (hLeft : Denotes .alternatives ts left)
      (hRight : Denotes .conditions us right) :
      Denotes .alternatives (ts ++ .word "OR" :: us) (.or left right)
  | condition {ts : List Token} {e : Formula} (h : Denotes .condition ts e) :
      Denotes .conditions ts e
  | and {ts us : List Token} {left right : Formula} (hLeft : Denotes .conditions ts left)
      (hRight : Denotes .condition us right) :
      Denotes .conditions (ts ++ .word "AND" :: us) (.and left right)
  | not {ts : List Token} {e : Formula} (h : Denotes .condition ts e) :
      Denotes .condition (.word "NOT" :: ts) (.not e)
  | simple {ts : List Token} {e : Formula} (h : Denotes .simple ts e) : Denotes .condition ts e
  | position (operator : Operator) (bound : Count) :
      Denotes .simple
        [.openParen, .word "e.id", .word "AS", .word "INT", .plus, .number .one, .closeParen,
          .op operator, .number bound]
        (.position operator bound)
  | parenthesized {ts : List Token} {e : Formula} (h : Denotes .alternatives ts e) :
      Denotes .simple (.openParen :: (ts ++ [.closeParen])) e
  | types {ts : List Token} {types : List String} (h : Lists ts types) :
      Denotes .simple (.openBracket :: (ts ++ [.closeBracket, .word "CONTAINS", .word "e.type"]))
        (.typeIn types)
  | tag (s : String) :
      Denotes .simple [.word "e.data.tags", .word "CONTAINS", .text s] (.hasTag s)
  | yes : Denotes .simple [.word "true"] (.constant true)
  | no : Denotes .simple [.word "false"] (.constant false)

end BoundaryLog.Clause
