import Formulary.Text

/-!
# Tokens of infix formulas

A token is a piece of a formula together with its kind. Only the kind decides how a token is
treated; the text of an operator is looked up when its binding strength is needed.
-/

namespace Formulary

inductive Token.Kind where
  | number
  | identifier
  | operator
  | opener
  | closer
  deriving DecidableEq, Repr

structure Token where
  kind : Token.Kind
  text : Text
  deriving DecidableEq, Repr

namespace Token

/-- The name under which a kind is written in records and messages. -/
def Kind.label : Kind → String
  | .number => "NUMBER"
  | .identifier => "VARIABLE"
  | .operator => "OPERATOR"
  | .opener => "LPAREN"
  | .closer => "RPAREN"

def Kind.ofLabel? : String → Option Kind
  | "NUMBER" => some .number
  | "VARIABLE" => some .identifier
  | "OPERATOR" => some .operator
  | "LPAREN" => some .opener
  | "RPAREN" => some .closer
  | _ => none

def Kind.isOperand : Kind → Bool
  | .number | .identifier => true
  | _ => false

theorem Kind.isOperand_iff {kind : Kind} :
    kind.isOperand ↔ kind = .number ∨ kind = .identifier := by
  cases kind <;> simp [isOperand]

def Kind.isParen : Kind → Bool
  | .opener | .closer => true
  | _ => false

/-- How a token is shown: its kind and its text in parentheses. -/
def render (token : Token) : String :=
  "(" ++ token.kind.label ++ ", " ++ String.ofList token.text ++ ")"

/-- Tokens are ordered by the name of their kind, then by their text, by code point. -/
def le (left right : Token) : Bool :=
  let first := left.kind.label.toList
  let second := right.kind.label.toList
  if first = second then Text.le left.text right.text else Text.le first second

def sort (tokens : List Token) : List Token :=
  tokens.mergeSort le

end Token

/-- How tightly an operator binds; other texts are no operators. -/
def precedence? : Text → Option Nat
  | ['+'] | ['-'] => some 1
  | ['*'] | ['/'] => some 2
  | ['^'] => some 3
  | _ => none

/-- Of two equal operators the left one is applied first, except for powers. -/
def isLeftAssociative (operator : Text) : Bool :=
  operator != ['^']

end Formulary
