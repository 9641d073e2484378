import Formulary.Text.Similarity

/-!
# Options on a command line

A command line is a list of arguments. Options begin with a dash and may stand anywhere before `--`;
a long one has its value behind `=` or in the next argument, and short ones may share an argument,
the rest of which is the value of the first that takes one. All other arguments are positional.
-/

namespace Formulary.CommandLine

inductive UsageFault where
  /-- No option has the name; some that have a similar one. -/
  | noSuchOption (name : Text) (similar : List Text)
  | needsValue (name : Text)
  | takesNoValue (name : Text)
  | missingArgument (name : String)
  | extraArguments (arguments : List Text)
  /-- The value of a parameter is refused, with a complaint. -/
  | badValue (parameter : String) (complaint : String)
  deriving DecidableEq, Repr

def listed (texts : List Text) : String :=
  ", ".intercalate (texts.map String.ofList)

def UsageFault.message : UsageFault → String
  | noSuchOption name [] => "No such option: " ++ String.ofList name
  | noSuchOption name similar =>
    "No such option: " ++ String.ofList name ++ " (Possible options: " ++ listed similar ++ ")"
  | needsValue name => "Option '" ++ String.ofList name ++ "' requires an argument."
  | takesNoValue name => "Option '" ++ String.ofList name ++ "' does not take a value."
  | missingArgument name => "Missing argument '" ++ name ++ "'."
  | extraArguments arguments =>
    "Got unexpected extra argument(s) (" ++ " ".intercalate (arguments.map String.ofList) ++ ")"
  | badValue parameter complaint => "Invalid value for " ++ parameter ++ ": " ++ complaint

/-- An option: the name it is given by, what it means, and whether it takes a value. -/
structure Spec (α : Type) where
  name : Text
  meaning : α
  takesValue : Bool

structure Given (α : Type) where
  meaning : α
  value : Text

structure Arguments (α : Type) where
  options : List (Given α)
  positional : List Text

namespace Spec

variable {α : Type}

def find? (specs : List (Spec α)) (name : Text) : Option (Spec α) :=
  List.find? (fun spec => spec.name == name) specs

/-- Whether an argument begins with two dashes. -/
def isLong (argument : Text) : Bool :=
  ['-', '-'].isPrefixOf argument

def longNames (specs : List (Spec α)) : List Text :=
  (specs.map Spec.name).filter isLong

def unknownLong (specs : List (Spec α)) (name : Text) : UsageFault :=
  .noSuchOption name (Text.closeTo name (longNames specs))

/-- The short options in an argument behind its dash. If the last one still needs a value, its name
and its meaning are answered too. -/
def short (specs : List (Spec α)) :
    Text → Except UsageFault (List (Given α) × Option (Text × α))
  | [] => .ok ([], none)
  | c :: rest =>
    match find? specs ['-', c] with
    | none => .error (.noSuchOption ['-', c] [])
    | some spec =>
      if spec.takesValue then
        if rest.isEmpty then .ok ([], some (spec.name, spec.meaning))
        else .ok ([⟨spec.meaning, rest⟩], none)
      else
        match short specs rest with
        | .ok (given, pending) => .ok (⟨spec.meaning, []⟩ :: given, pending)
        | .error fault => .error fault

/-- The options in one argument that begins with a dash, as for `short`. -/
def ofArgument (specs : List (Spec α)) (argument : Text) :
    Except UsageFault (List (Given α) × Option (Text × α)) :=
  let name := argument.takeWhile (· != '=')
  let attached := argument.dropWhile (· != '=')
  match if isLong argument then find? specs name else none with
  | some spec =>
    if spec.takesValue then
      match attached with
      | _ :: value => .ok ([⟨spec.meaning, value⟩], none)
      | [] => .ok ([], some (spec.name, spec.meaning))
    else if attached.isEmpty then .ok ([⟨spec.meaning, []⟩], none)
    else .error (.takesNoValue name)
  | none =>
    if isLong argument then .error (unknownLong specs name) else short specs (argument.drop 1)

def isOption : Text → Bool
  | '-' :: _ :: _ => true
  | _ => false

/-- Read on behind the options and the positional arguments that are found, last one first. -/
def read (specs : List (Spec α)) (options : List (Given α)) (positional : List Text) :
    List Text → Except UsageFault (Arguments α)
  | [] => .ok ⟨options.reverse, positional.reverse⟩
  | argument :: rest =>
    if argument = ['-', '-'] then .ok ⟨options.reverse, positional.reverse ++ rest⟩
    else if isOption argument then
      match ofArgument specs argument, rest with
      | .error fault, _ => .error fault
      | .ok (given, none), rest => read specs (given.reverse ++ options) positional rest
      | .ok (_, some (name, _)), [] => .error (.needsValue name)
      | .ok (given, some (_, meaning)), value :: rest =>
        read specs (⟨meaning, value⟩ :: (given.reverse ++ options)) positional rest
    else read specs options (argument :: positional) rest

def parse (specs : List (Spec α)) (arguments : List Text) : Except UsageFault (Arguments α) :=
  read specs [] [] arguments

end Spec

def Arguments.valuesOf {α : Type} [BEq α] (arguments : Arguments α) (meaning : α) : List Text :=
  (arguments.options.filter fun given => given.meaning == meaning).map Given.value

def Arguments.has {α : Type} [BEq α] (arguments : Arguments α) (meaning : α) : Bool :=
  arguments.options.any fun given => given.meaning == meaning

end Formulary.CommandLine
