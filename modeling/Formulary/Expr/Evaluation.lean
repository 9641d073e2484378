import Formulary.Binary64.Power
import Formulary.Binary64.Reading
import Formulary.Expr.Walk

/-!
# Evaluation

An expression is evaluated in double arithmetic. A symbol that reads as a literal has its value and
is never looked up; every other symbol is a variable. Both operands of an operator are evaluated,
the left one first, and the first failure ends the evaluation.
-/

namespace Formulary

/-- What a variable may be bound to. Integers are exact until they are read. -/
inductive Binding where
  | real (value : Float)
  | integer (value : Int)
  | nothing

def Binding.read : Binding → Except Fault Float
  | real value => .ok value
  | integer value =>
    match Binary64.ofInt? value with
    | some nearest => .ok nearest
    | none => .error .integerTooLarge
  | nothing => .error .notANumber

/-- The bindings of variables; a variable may be unbound. -/
abbrev Environment := Text → Option Binding

def Environment.ofList (bindings : List (Text × Binding)) : Environment :=
  fun name => bindings.lookup name

def Environment.ofReals (bindings : List (Text × Float)) : Environment :=
  fun name => (bindings.lookup name).map .real

/-- The value of an operator. Only a division by zero fails, and an operator that does not exist. -/
def applyOperator (operator : Text) (left right : Float) : Except Fault Float :=
  match operator with
  | ['+'] => .ok (left + right)
  | ['-'] => .ok (left - right)
  | ['*'] => .ok (left * right)
  | ['/'] => if right == 0.0 then .error .divisionByZero else .ok (left / right)
  | ['^'] => .ok (Binary64.power left right)
  | _ => .error (.unsupportedOperator operator)

def evaluateSymbol (environment : Environment) (symbol : Text) : Except Fault Float :=
  match Binary64.literal? symbol with
  | some value => .ok value
  | none =>
    match environment symbol with
    | some binding => binding.read
    | none => .error (.missingVariable symbol)

namespace Expr

def evaluate (environment : Environment) (tree : Expr) : Except Fault Float :=
  walk (.error .emptyStack) (evaluateSymbol environment) (fun sign _ _ => applyOperator sign) tree

/-- The value of a tree, where both the tree and the environment may be missing. -/
def evaluate? (environment : Option Environment) (tree : Option Expr) : Except Fault Float :=
  match tree, environment with
  | none, _ => .error (.badArgument .noTree)
  | some _, none => .error (.badArgument .noEnvironment)
  | some tree, some environment => tree.evaluate environment

/-- The variables of a tree from left to right, each once. -/
def variableNames (tree : Expr) : List Text :=
  collect (fun symbol => !Binary64.isLiteral symbol) [tree] []

end Expr

end Formulary
