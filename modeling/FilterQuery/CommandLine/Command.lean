import FilterQuery.CommandLine.Arguments
import FilterQuery.FilterFile.Format
/-!
# Commands

The commands of the program and how they are given by arguments: the name of a
command, and then what that command takes.
-/

namespace FilterQuery.CommandLine

/-! ## Choices -/

/-- What a command prints: text for a reader, or JSON. -/
inductive Output where
  | text
  | json
deriving DecidableEq, Repr

namespace Output

def all : List Output := [.text, .json]

def name : Output → Text
  | .text => "text".toList
  | .json => "json".toList

def ofName? (text : Text) : Option Output := all.find? fun output => output.name == text

end Output

/-- A shell that commands can be completed in. -/
inductive Shell where
  | bash
  | elvish
  | fish
  | powershell
  | zsh
deriving DecidableEq, Repr

namespace Shell

def all : List Shell := [.bash, .elvish, .fish, .powershell, .zsh]

def name : Shell → Text
  | .bash => "bash".toList
  | .elvish => "elvish".toList
  | .fish => "fish".toList
  | .powershell => "powershell".toList
  | .zsh => "zsh".toList

def ofName? (text : Text) : Option Shell := all.find? fun shell => shell.name == text

end Shell

/-! ## Commands -/

/-- What is asked of building a query from a filter file. -/
structure BuildRequest where
  path : Text
  /-- The format of the file; without one the path decides. -/
  format : Option FileFormat := none
  /-- Percent-encode the query, whatever the file says. -/
  encodeUri : Bool := false
  /-- Start the query with the marker, whatever the file says. -/
  marked : Bool := false
  check : Bool := false
  output : Output := .text
deriving DecidableEq, Repr

/-- A command with its arguments. Without a query, it is read from the standard
input. -/
inductive Command where
  | validate (query : Option Text) (output : Output)
  | tokens (query : Option Text) (output : Output)
  | build (request : BuildRequest)
  | operators (output : Output)
  | schema
  | completions (shell : Shell)
deriving DecidableEq, Repr

/-! ## What commands take -/

def outputName : Text := "output".toList

/-- The name of the option for the format of a filter file. -/
def formatName : Text := "format".toList

def encodeUriFlag : Text := "encode-uri".toList

def markedFlag : Text := "filter-prefix".toList

def checkFlag : Text := "check".toList

def helpFlag : Flag := ⟨"help".toList, ['h'], .showInstead .help⟩

def versionFlag : Flag := ⟨"version".toList, ['v', 'V'], .showInstead .version⟩

def outputOption : ValueOption := ⟨outputName, some 'o', fun text => (Output.ofName? text).isSome⟩

def formatOption : ValueOption :=
  ⟨formatName, none, fun text => (FileFormat.ofName? text).isSome⟩

def topGrammar : Grammar := { flags := [helpFlag, versionFlag] }

def queryGrammar : Grammar where
  flags := [helpFlag]
  options := [outputOption]
  positional := some ⟨false, fun _ => true⟩

def buildGrammar : Grammar where
  flags := [helpFlag, ⟨encodeUriFlag, [], .note⟩, ⟨markedFlag, [], .note⟩, ⟨checkFlag, [], .note⟩]
  options := [formatOption, outputOption]
  positional := some ⟨true, fun path => !path.isEmpty⟩
  wantsArguments := true

def operatorsGrammar : Grammar where
  flags := [helpFlag]
  options := [outputOption]

def schemaGrammar : Grammar := { flags := [helpFlag] }

def completionsGrammar : Grammar where
  flags := [helpFlag]
  positional := some ⟨true, fun text => (Shell.ofName? text).isSome⟩
  wantsArguments := true

/-! ## Reading commands -/

def Given.output (given : Given) : Output :=
  (given.value? outputName >>= Output.ofName?).getD .text

def Given.buildRequest (given : Given) : BuildRequest where
  path := given.positional.getD []
  format := given.value? formatName >>= FileFormat.ofName?
  encodeUri := given.has encodeUriFlag
  marked := given.has markedFlag
  check := given.has checkFlag
  output := given.output

/-- How a command is given: its name, what it takes, and the command that the
arguments make. -/
structure Entry where
  name : Text
  grammar : Grammar
  command : Given → Command

def entries : List Entry := [
  ⟨"validate".toList, queryGrammar, fun given => .validate given.positional given.output⟩,
  ⟨"tokens".toList, queryGrammar, fun given => .tokens given.positional given.output⟩,
  ⟨"build".toList, buildGrammar, fun given => .build given.buildRequest⟩,
  ⟨"operators".toList, operatorsGrammar, fun given => .operators given.output⟩,
  ⟨"schema".toList, schemaGrammar, fun _ => .schema⟩,
  ⟨"completions".toList, completionsGrammar, fun given =>
    .completions ((given.positional >>= Shell.ofName?).getD .bash)⟩]

def helpName : Text := "help".toList

def entryNamed? (name : Text) : Option Entry := entries.find? fun entry => entry.name == name

def isCommandName (word : Text) : Bool := word == helpName || (entryNamed? word).isSome

/-- What is shown for the arguments of the command for help: at most the name of
one command is understood. -/
def refusalOfHelp : List Text → Refusal
  | [] => .help
  | [word] => if isCommandName word then .help else .unknownCommand
  | _ => .unknownCommand

/-- What is shown after two lone hyphens where a command must stand. -/
def refusalAfterSeparator : List Text → Refusal
  | [] => .nothingGiven
  | word :: _ => if isCommandName word then .unknownArgument else .unknownCommand

def Command.read : List Text → Except Refusal Command
  | [] => .error .nothingGiven
  | argument :: rest =>
      match entryNamed? argument with
      | some entry => (entry.grammar.read rest).map entry.command
      | none =>
          if argument = helpName then .error (refusalOfHelp rest)
          else
            match formOf argument with
            | .separator => .error (refusalAfterSeparator rest)
            | .named name value => do
                let _ ← takeNamed topGrammar {} name value
                Command.read rest
            | .lettered letters => do
                let _ ← takeLetters topGrammar {} letters
                Command.read rest
            | .word => .error .unknownCommand

end FilterQuery.CommandLine
