import FilterQuery.CommandLine.Run
import FilterQuery.Help
/-!
# The program

Reads the arguments, the source of the command and the variables, runs the
command, and ends with its status. Everything else is decided without effects.
-/

namespace FilterQuery.CommandLine

def variableText (name : String) : IO (Option Text) := do
  return (← IO.getEnv name).map String.toList

def terminalSettings : IO Terminal.Settings := do
  let noColor ← variableText "NO_COLOR"
  let color ← variableText "COLOR"
  return ⟨noColor, color, ← (← IO.getStdout).isTty⟩

def faultOf : IO.Error → ReadFault
  | .noFileOrDirectory .. => .notFound
  | .inappropriateType _ 20 _ => .notAFolder
  | .inappropriateType .. => .isAFolder
  | error => .other (toString error).toList

def contentOf : Source → IO Content
  | .standardInput => do
      try return .ok (← (← IO.getStdin).readBinToEnd).toList
      catch error => return .error (faultOf error)
  | .file path => do
      try return .ok (← IO.FS.readBinFile (String.ofList path)).toList
      catch error => return .error (faultOf error)

/-- The help text, without the descriptions of single arguments. -/
def helpText (settings : Terminal.Settings) : Text :=
  "Build and validate filter queries\n\n".toList ++ Help.commands settings.colored ++ ['\n'] ++
    Help.quickstart settings.colored ++ ['\n']

def showRefusal (settings : Terminal.Settings) : Refusal → IO Unit
  | .version => IO.print (String.ofList versionText)
  | .help => IO.print (String.ofList (helpText settings))
  | .nothingGiven => IO.eprint (String.ofList (helpText settings))
  | .unknownCommand => IO.eprintln "error: unrecognized subcommand"
  | .unknownArgument => IO.eprintln "error: unexpected argument"
  | .invalidValue => IO.eprintln "error: invalid value for an argument"
  | .repeatedArgument => IO.eprintln "error: an argument cannot be used multiple times"
  | .missingArgument => IO.eprintln "error: a required argument was not provided"
  | .unexpectedValue => IO.eprintln "error: unexpected value for an argument"

def runCommand (settings : Terminal.Settings) (command : Command) : IO Outcome := do
  let content ← match command.source? with
    | some source => contentOf source
    | none => pure (.ok [])
  return command.run settings content

/-- The command that the arguments give run; the status to end with. -/
def runArguments (arguments : List String) : IO UInt32 := do
  let settings ← terminalSettings
  match Command.read (arguments.map String.toList) with
  | .error refusal =>
      showRefusal settings refusal
      return UInt32.ofNat refusal.status
  | .ok command =>
      let outcome ← runCommand settings command
      IO.print (String.ofList outcome.printed)
      if let some failure := outcome.failure then
        IO.eprintln ("error: " ++ String.ofList failure.message)
      return UInt32.ofNat outcome.status

end FilterQuery.CommandLine

def main (arguments : List String) : IO UInt32 :=
  FilterQuery.CommandLine.runArguments arguments
