import Formulary.CommandLine.Report
import Formulary.CommandLine.Serve

/-!
# The program

`eval` reports on one formula, `serve` collects the settings of the server. The rest of the command
line belongs to the command.
-/

namespace Formulary

def printLog (messages : List String) : IO Unit :=
  messages.forM fun message => IO.eprintln message

def runReport (line : List Text) : IO UInt32 := do
  let outcome := CommandLine.Report.command line
  match outcome with
  | .misused fault => IO.eprintln ("Error: " ++ fault.message)
  | .helped =>
    IO.println ("eval EXPRESSION [--var NAME=VALUE]... [--show-postfix] [--show-hash] " ++
      "[--show-tree] [--no-eval]")
  | .overrun _ => IO.eprintln "Error: the report is nested too deeply to be written"
  | _ => IO.print (String.ofList outcome.output)
  printLog outcome.log
  return UInt32.ofNat outcome.exitCode

def readFile? (name : Text) : IO (Option Text) := do
  try
    let content ← IO.FS.readFile (String.ofList name)
    return some content.toList
  catch _ => return none

/-- Collect the settings of the server and show where it is to be found. -/
def runServe (line : List Text) : IO UInt32 := do
  match CommandLine.Serve.ofArguments line with
  | .error fault =>
    IO.eprintln ("Error: " ++ fault.message)
    return 2
  | .ok request =>
    if request.help then
      IO.println
        "serve [--config FILE] [--host HOST] [--port PORT] [--debug|--no-debug] [--log-level LEVEL]"
      return 0
    let file := Text.ofOption request.file
    let content ← readFile? file
    match request.settings fun _ => content with
    | .error fault =>
      IO.eprintln ((fault.message? file).getD "the settings are not valid")
      return 1
    | .ok settings =>
      printLog (request.log settings)
      return 0

end Formulary

/-- Run the command that comes first on the command line. -/
def main (arguments : List String) : IO UInt32 :=
  match arguments with
  | "eval" :: line => Formulary.runReport (line.map String.toList)
  | "serve" :: line => Formulary.runServe (line.map String.toList)
  | _ => do
    IO.eprintln "Error: the first argument has to be eval or serve"
    return 2
