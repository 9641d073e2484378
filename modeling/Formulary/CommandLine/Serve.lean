import Formulary.CommandLine.Options
import Formulary.Settings.File

/-!
# Starting the server

The second command collects the settings of the server from a file and from its options, and logs
them. Reading the file and serving are left to the caller.
-/

namespace Formulary.CommandLine

inductive Serve.Choice where
  | config
  | host
  | port
  | debug
  | noDebug
  | level
  | help
  deriving DecidableEq, Repr

/-- What the command is asked for: the name of a file with settings, and settings that override
it. -/
structure Serve where
  file : Option Text
  overrides : Layer
  help : Bool

namespace Serve

def specs : List (Spec Choice) :=
  [⟨"--config".toList, .config, true⟩, ⟨"--host".toList, .host, true⟩,
   ⟨"--port".toList, .port, true⟩, ⟨"--debug".toList, .debug, false⟩,
   ⟨"--no-debug".toList, .noDebug, false⟩, ⟨"--log-level".toList, .level, true⟩,
   ⟨"--help".toList, .help, false⟩]

def override (given : Given Choice) : Except UsageFault (Option (Text × Value)) :=
  match given.meaning with
  | .host => .ok (some ("host".toList, .text given.value))
  | .port =>
    match Settings.integerOfText given.value with
    | .ok port => .ok (some ("port".toList, .integer port))
    | .error cause => .error (.badValue "'--port'" cause.message)
  | .debug => .ok (some ("debug".toList, .bool true))
  | .noDebug => .ok (some ("debug".toList, .bool false))
  | .level => .ok (some ("log_level".toList, .text given.value))
  | .config | .help => .ok none

/-- The last one of the options with each meaning, where the two flags share a meaning. -/
def lastOnes (options : List (Given Choice)) : List (Given Choice) :=
  let setting : Choice → Choice
    | .noDebug => .debug
    | choice => choice
  options.foldr (fun given kept =>
    if kept.any fun later => setting later.meaning == setting given.meaning then kept
    else given :: kept) []

def ofArguments (line : List Text) : Except UsageFault Serve := do
  let arguments ← Spec.parse specs line
  if arguments.has .help then
    return { file := none, overrides := [], help := true }
  let overrides ← (lastOnes arguments.options).mapM override
  if arguments.positional.isEmpty then
    let file := (arguments.valuesOf .config).getLast?.filter fun name => !name.isEmpty
    return { file, overrides := overrides.filterMap id, help := false }
  else throw (.extraArguments arguments.positional)

/-- The settings to serve with, where `find` gives the texts of the files that there are. -/
def settings (request : Serve) (find : Text → Option Text) :
    Except Settings.LoadFault Settings :=
  Settings.loadNamed request.file find request.overrides

/-- What is logged when the server starts, each message behind its level. -/
def log (request : Serve) (settings : Settings) : List String :=
  if settings.level.shows .info then
    ["INFO serve host=" ++ String.ofList settings.host ++ " port=" ++
      toString settings.port.number ++ " debug=" ++ (if settings.debug then "true" else "false") ++
      " config=" ++ String.ofList (request.file.getD "none".toList)]
  else []

end Serve

end Formulary.CommandLine
