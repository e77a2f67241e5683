import FilterQuery.CommandLine.Command
import FilterQuery.FilterFile
import FilterQuery.Report
import FilterQuery.Schema
import FilterQuery.Text.Utf8
/-!
# Running commands

A command reads at most one source: the standard input, or a file. What it
prints, and whether it fails, depends on what that source gives and on the
settings of the terminal only.
-/

namespace FilterQuery.CommandLine

open Terminal

/-! ## Sources -/

/-- Where a command reads from. -/
inductive Source where
  | standardInput
  | file (path : Text)
deriving DecidableEq, Repr

/-- Why a source cannot be read. -/
inductive ReadFault where
  | notFound
  | notAFolder
  | isAFolder
  | nameTooLong
  | nulInName
  | notText
  | other (message : Text)
deriving DecidableEq, Repr

def ReadFault.message : ReadFault → Text
  | .notFound => "No such file or directory (os error 2)".toList
  | .notAFolder => "Not a directory (os error 20)".toList
  | .isAFolder => "Is a directory (os error 21)".toList
  | .nameTooLong => "File name too long (os error 36)".toList
  | .nulInName => "file name contained an unexpected NUL byte".toList
  | .notText => "stream did not contain valid UTF-8".toList
  | .other message => message

abbrev Content := Except ReadFault (List UInt8)

def Content.text (content : Content) : Except ReadFault Text :=
  match content with
  | .error fault => .error fault
  | .ok bytes =>
      match Text.ofUtf8? bytes with
      | some text => .ok text
      | none => .error .notText

/-! ## Failures -/

/-- Why a command fails. -/
inductive Failure where
  | invalidQuery (count : Nat)
  | noQuery
  | unsupportedFormat (written : Text)
  | unreadable (fault : ReadFault)
  /-- The file is no filter file in the format it is read in. -/
  | notAFilterFile (format : FileFormat)
deriving DecidableEq, Repr

def Failure.message : Failure → Text
  | .invalidQuery count =>
      "query is invalid (".toList ++ Text.ofNat count ++
        (if count = 1 then " error)" else " errors)").toList
  | .noQuery =>
      "no query given\n  hint: pass the query as an argument or pipe it on stdin".toList
  | .unsupportedFormat written =>
      "unsupported filter file format: '".toList ++ written ++
        "'\n  hint: use a .toml or .json file, or pass --format".toList
  | .unreadable fault => "io error: ".toList ++ fault.message
  | .notAFilterFile .toml => "invalid filter file".toList
  | .notAFilterFile .json => "json error".toList

/-- What running a command comes to: what it prints, and why it fails if it
does. Something may be printed before a failure. -/
structure Outcome where
  printed : Text := []
  failure : Option Failure := none
deriving DecidableEq, Repr

namespace Outcome

/-- A command that prints a text and a line feed. -/
def print (text : Text) : Outcome := ⟨text ++ ['\n'], none⟩

def fail (failure : Failure) : Outcome := ⟨[], some failure⟩

def status (outcome : Outcome) : Nat := if outcome.failure.isSome then 1 else 0

end Outcome

/-- The status that the program ends with if it runs no command. -/
def Refusal.status : Refusal → Nat
  | .help | .version => 0
  | _ => 2

/-- What the program prints when it is asked for its version. -/
def versionText : Text := "qk 0.3.0\n".toList

/-! ## Queries -/

/-- The query without the line ends that close piped input. -/
def dropLineEnds (text : Text) : Text :=
  (text.reverse.dropWhile fun c => c == '\n' || c == '\r').reverse

/-- The query given as an argument, or else read. A blank one is none. -/
def queryFrom (argument : Option Text) (content : Content) : Except Failure Text := do
  let query ← match argument with
    | some query => .ok query
    | none =>
        match content.text with
        | .ok text => .ok (dropLineEnds text)
        | .error fault => .error (.unreadable fault)
  if query.allBlank then .error .noQuery else .ok query

/-- Fails if a query has problems. -/
def failureOf (problems : List Problem) : Option Failure :=
  if problems.isEmpty then none else some (.invalidQuery problems.length)

def validationReport (output : Output) (problems : List Problem) : Text :=
  match output with
  | .text => Report.validationText problems
  | .json => Json.write .pretty (Report.validationDatum problems)

/-- A query checked; its problems are printed before the failure. -/
def runValidate (output : Output) (query : Text) : Outcome :=
  let found := problems query
  { Outcome.print (validationReport output found) with failure := failureOf found }

def runTokens (colored : Bool) (output : Output) (query : Text) : Outcome :=
  let lexemes := lex (queryBody query)
  match output with
  | .text => .print (Report.lexemesText colored lexemes)
  | .json => .print (Json.write .pretty (.list (lexemes.map Report.lexemeDatum)))

/-! ## Building -/

def standardInputPath : Text := ['-']

namespace BuildRequest

/-- The format that the file is read in. The standard input is TOML unless
something else is asked for. -/
def fileFormat (request : BuildRequest) : Except Failure FileFormat :=
  match request.format with
  | some format => .ok format
  | none =>
      if request.path = standardInputPath then .ok .toml
      else
        match FileFormat.ofPath request.path with
        | .ok format => .ok format
        | .error written => .error (.unsupportedFormat written)

def source (request : BuildRequest) : Source :=
  if request.path = standardInputPath then .standardInput else .file request.path

/-- The options of the file, with those switched on that are asked for. -/
def options (request : BuildRequest) (file : FilterFile) : Options :=
  ⟨file.options.encodeUri || request.encodeUri, file.options.marked || request.marked⟩

def builder (request : BuildRequest) (file : FilterFile) : Builder :=
  .ofTokens (request.options file) file.tokens

def report (request : BuildRequest) (builder : Builder) : Text :=
  match request.output with
  | .text => builder.build
  | .json =>
      Json.write .pretty
        (.ofFields [("query", .text builder.build), ("tokens", tokensDatum builder.tokens)])

/-- The builder of the query that is checked: percent-encoded text has no lexemes
to look at, so the tokens are replayed without encoding. -/
def plainBuilder (request : BuildRequest) (file : FilterFile) : Builder :=
  .ofTokens { request.options file with encodeUri := false } file.tokens

/-- The query of a file built and printed. It is checked, if that is asked for,
without percent-encoding. -/
def run (request : BuildRequest) (file : FilterFile) : Outcome :=
  match if request.check then failureOf (problems (request.plainBuilder file).build) else none with
  | some failure => .fail failure
  | none => .print (request.report (request.builder file))

def file (request : BuildRequest) (content : Content) : Except Failure FilterFile := do
  let format ← request.fileFormat
  match content.text with
  | .error fault => .error (.unreadable fault)
  | .ok text =>
      match FilterFile.parse? format text with
      | some file => .ok file
      | none => .error (.notAFilterFile format)

end BuildRequest

/-! ## All commands -/

namespace Command

/-- The source that a command reads, if it reads one. -/
def source? : Command → Option Source
  | .validate none _ | .tokens none _ => some .standardInput
  | .build request =>
      match request.fileFormat with
      | .ok _ => some request.source
      | .error _ => none
  | _ => none

/-- A command run, `content` being what its source gives. No completions are
written. -/
def run (settings : Settings) (content : Content) : Command → Outcome
  | .validate query output =>
      match queryFrom query content with
      | .ok query => runValidate output query
      | .error failure => .fail failure
  | .tokens query output =>
      match queryFrom query content with
      | .ok query => runTokens settings.colored output query
      | .error failure => .fail failure
  | .build request =>
      match request.file content with
      | .ok file => request.run file
      | .error failure => .fail failure
  | .operators .text => .print (Report.catalogText settings.colored)
  | .operators .json => .print (Json.write .pretty Report.catalogDatum)
  | .schema => .print (Json.write .pretty Schema.filterFile)
  | .completions _ => {}

end Command

end FilterQuery.CommandLine
