import Formulary.CommandLine.Options
import Formulary.Expr.Description
import Formulary.Expr.Evaluation
import Formulary.Expr.Parse
import Formulary.Json.Printer
import Formulary.Text.Quoted

/-!
# The report on one formula

The first command reads a formula and bindings of its variables and prints a report: the variables,
the height, the value, and, where asked for, other views of the tree. The report is JSON, which is
written by a function that calls itself for each list and record inside another. Where these calls
do not fit on the stack, the report is lost, although the formula was read and evaluated.
-/

namespace Formulary.CommandLine

inductive Report.Choice where
  | binding
  | showListing
  | showCanonical
  | showTree
  | parseOnly
  | help
  deriving DecidableEq, Repr

structure Report.Parts where
  listing : Bool
  canonical : Bool
  tree : Bool
  result : Bool
  deriving DecidableEq, Repr

structure Report where
  source : Text
  variableNames : List Text
  depth : Nat
  listing : Option (List Text)
  canonical : Option Text
  tree : Option Json
  result : Option Json

namespace Report

def specs : List (Spec Choice) :=
  [⟨"--var".toList, .binding, true⟩, ⟨"-v".toList, .binding, true⟩,
   ⟨"--show-postfix".toList, .showListing, false⟩, ⟨"--show-hash".toList, .showCanonical, false⟩,
   ⟨"--show-tree".toList, .showTree, false⟩, ⟨"--no-eval".toList, .parseOnly, false⟩,
   ⟨"--help".toList, .help, false⟩]

def refuse (complaint : String) (text : Text) : UsageFault :=
  .badValue "--var" (complaint ++ String.ofList (Text.quoted text))

/-- A binding that is written `name=value`. -/
def readBinding (item : Text) : Except UsageFault (Text × Float) :=
  let name := Text.trim (item.takeWhile (· != '='))
  match item.dropWhile (· != '=') with
  | [] => .error (refuse "expected name=value, got " item)
  | _ :: value =>
    if name.isEmpty then .error (refuse "expected name=value, got " item)
    else
      match Binary64.readTyped? value with
      | some x => .ok (name, x)
      | none => .error (refuse "not a number: " value)

/-- Bindings that are written `name=value`; of two with one name the last one counts. -/
def readBindings (items : List Text) : Except UsageFault (List (Text × Float)) := do
  let bindings ← items.mapM readBinding
  return bindings.foldl (fun found binding => setField binding.1 binding.2 found) []

def make (parts : Parts) (bindings : List (Text × Float)) (formula : Text) :
    Except Fault Report := do
  let tokens ← Token.ofText formula
  let listing ← Rpn.ofInfix tokens
  let tree ← Expr.ofListing listing
  let result ←
    if parts.result then
      match tree.evaluate (Environment.ofReals bindings) with
      | .ok value => .ok (some (Json.ofDouble value))
      | .error fault => .error fault
    else .ok none
  return {
    source := Text.trim formula
    variableNames := tree.variableNames
    depth := tree.depth
    listing := if parts.listing then some (listing.map Token.text) else none
    canonical := if parts.canonical then some tree.canonical else none
    tree := if parts.tree then some tree.describe else none
    result }

/-- A field that is there only if its value is. -/
def optionalField (name : String) (value : Option Json) : List (String × Json) :=
  match value with
  | some value => [(name, value)]
  | none => []

def toJson (report : Report) : Json :=
  .object (
    [("infix", .string report.source), ("variables", .ofTexts report.variableNames),
      ("depth", .integer report.depth)] ++
    optionalField "postfix" (report.listing.map Json.ofTexts) ++
    optionalField "hash" (report.canonical.map Json.string) ++
    optionalField "tree" report.tree ++
    optionalField "result" report.result)

inductive Outcome where
  /-- The command line cannot be used. -/
  | misused (fault : UsageFault)
  /-- The formula is refused. -/
  | failed (fault : Fault)
  | printed (report : Report)
  /-- The report is nested too deeply to be written. -/
  | overrun (report : Report)
  | helped

namespace Outcome

def exitCode : Outcome → Nat
  | misused _ => 2
  | failed _ | overrun _ => 1
  | printed _ | helped => 0

def output : Outcome → Text
  | printed report => Json.write report.toJson ++ ['\n']
  | _ => []

/-- What the command logs, each message behind its level. -/
def log : Outcome → List String
  | failed fault =>
    match fault.code? with
    | some code => ["ERROR eval_expr failed code=" ++ code ++ " message=" ++ fault.message]
    | none => []
  | _ => []

end Outcome

/-- The outcome for a report, if so many lists and records can be open at once. -/
def print (room : Nat) (report : Report) : Outcome :=
  if report.toJson.nesting ≤ room then .printed report else .overrun report

def run (room : Nat) (parts : Parts) (items : List Text) (formula : Text) : Outcome :=
  match readBindings items with
  | .error fault => .misused fault
  | .ok bindings =>
    match make parts bindings formula with
    | .ok report => print room report
    | .error fault => .failed fault

def partsOf (arguments : Arguments Choice) : Parts where
  listing := arguments.has .showListing
  canonical := arguments.has .showCanonical
  tree := arguments.has .showTree
  result := !arguments.has .parseOnly

def commandWithin (room : Nat) (line : List Text) : Outcome :=
  match Spec.parse specs line with
  | .error fault => .misused fault
  | .ok arguments =>
    if arguments.has .help then .helped
    else
      match arguments.positional with
      | [] => .misused (.missingArgument "expression")
      | [formula] => run room (partsOf arguments) (arguments.valuesOf .binding) formula
      | _ :: extra => .misused (.extraArguments extra)

/-- The room for the report: of the thousand calls that may be under way at once, those that are
left where the writer is called. -/
def roomOfStack : Nat :=
  1000 - 14

def command : List Text → Outcome :=
  commandWithin roomOfStack

end Report

end Formulary.CommandLine
