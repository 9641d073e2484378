import Formulary.Token

/-!
# What can go wrong with a formula

Each way in which reading, storing or evaluating a formula fails is a constructor of `Fault`, with
the data that a caller may want to show; the wording stands in `Fault.message` alone.
-/

namespace Formulary

/-- Why a text, a token list or a postfix list is no formula. -/
inductive SyntaxFault where
  /-- The text has no character that is not blank. -/
  | blankText
  /-- A character that starts no token, with its position in the text without blanks. -/
  | illegalCharacter (char : Char) (position : Nat)
  /-- The text is cut to its end, and no token was found. -/
  | noValidTokens
  /-- There are no tokens to be ordered. -/
  | noTokens
  /-- A closing parenthesis closes nothing. -/
  | missingOpener
  /-- An opening parenthesis is never closed. -/
  | missingCloser
  /-- There are no tokens to build a tree from. -/
  | noListing
  /-- An operator comes before its two operands. -/
  | missingOperand
  /-- The operands and operators make no tree, or several. -/
  | notOneTree
  deriving DecidableEq, Repr

inductive ArgumentFault where
  | noTree
  | noEnvironment
  | noEntryId
  | noFormulaId
  | noFormula
  deriving DecidableEq, Repr

inductive Fault where
  /-- The formula is malformed. -/
  | malformed (cause : SyntaxFault)
  /-- A variable of the formula has no value. -/
  | missingVariable (name : Text)
  /-- A divisor is zero. -/
  | divisionByZero
  /-- The caller left an argument out. -/
  | badArgument (cause : ArgumentFault)
  /-- No formula is stored under the id. -/
  | notFound (id : Int)
  /-- The binding strength of a text that is no operator was asked for. -/
  | unknownOperator (operator : Text)
  /-- A text that is no operator was applied. -/
  | unsupportedOperator (operator : Text)
  /-- A parenthesis stands in a postfix list. -/
  | strayParen (kind : Token.Kind)
  /-- An operator node lacks an operand. -/
  | missingChild (operator : Text)
  /-- A walk over a tree looked for a result that was not there. -/
  | emptyStack
  /-- An integer is beyond the greatest double. -/
  | integerTooLarge
  /-- A variable is bound to no number at all. -/
  | notANumber
  /-- Something that has to be there is missing, or a part outside this library failed. -/
  | outage
  deriving DecidableEq, Repr

def SyntaxFault.message : SyntaxFault → String
  | .blankText => "Expression cannot be null or empty"
  | .illegalCharacter char position =>
    "Illegal character '" ++ char.toString ++ "' at position " ++ toString position
  | .noValidTokens => "Expression contains no valid tokens"
  | .noTokens => "Token list cannot be null or empty"
  | .missingOpener => "Unbalanced parentheses: missing left parenthesis"
  | .missingCloser => "Unbalanced parentheses: missing right parenthesis"
  | .noListing => "Postfix token list cannot be null or empty"
  | .missingOperand => "Invalid postfix expression: insufficient operands for operator"
  | .notOneTree => "Invalid postfix expression: should result in exactly one root node"

def ArgumentFault.message : ArgumentFault → String
  | .noTree => "Expression tree root cannot be null"
  | .noEnvironment => "Variables map cannot be null"
  | .noEntryId => "ID cannot be null"
  | .noFormulaId => "Equation ID cannot be null"
  | .noFormula => "Infix expression cannot be null or empty"

namespace Fault

def message : Fault → String
  | malformed cause => cause.message
  | missingVariable name =>
    "Variable '" ++ String.ofList name ++ "' is not provided in the variable map"
  | divisionByZero => "Division by zero"
  | badArgument cause => cause.message
  | notFound id => "Equation with ID " ++ toString id ++ " not found"
  | unknownOperator operator => "Unknown operator: " ++ String.ofList operator
  | unsupportedOperator operator => "Unsupported operator: " ++ String.ofList operator
  | strayParen kind => "Unexpected token in postfix expression: " ++ kind.label
  | missingChild operator => "Operator '" ++ String.ofList operator ++ "' requires two children"
  | emptyStack => "pop from empty list"
  | integerTooLarge => "int too large to convert to float"
  | notANumber => "float() argument must be a string or a real number, not 'NoneType'"
  | outage => "outage"

/-- The short code of a fault that a caller is meant to handle; the others have none. -/
def code? : Fault → Option String
  | malformed _ => some "SYNTAX"
  | missingVariable _ => some "MISSING_VARIABLE"
  | divisionByZero => some "DIVISION_BY_ZERO"
  | badArgument _ => some "CALLER_ARGUMENT"
  | notFound _ => some "NOT_FOUND"
  | _ => none

/-- The integer in a message is written in decimal, with a minus sign if it is negative. -/
example : (notFound (-12)).message = "Equation with ID -12 not found" := by decide +kernel

end Fault

end Formulary
