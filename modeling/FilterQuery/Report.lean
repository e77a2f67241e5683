import FilterQuery.Terminal.Style
import FilterQuery.Token.Record
import FilterQuery.Validation
/-!
# Reports

What is told about queries and operators, as text for a reader or as data for
another program. A text report has one line for each thing it tells about; it
ends without a line feed.
-/

namespace FilterQuery.Report

open Terminal

/-! ## Problems of a query -/

/-- The outcome of checking a query as data: whether it is well formed, and if
not, the messages. -/
def validationDatum (problems : List Problem) : Datum :=
  if problems.isEmpty then .ofFields [("valid", .boolean true)]
  else
    .ofFields [("valid", .boolean false),
      ("errors", .list (problems.map fun problem => .text problem.message))]

/-- The outcome of checking a query as text: a message a line. -/
def validationText (problems : List Problem) : Text :=
  if problems.isEmpty then "valid".toList
  else Text.joined ['\n'] (problems.map Problem.message)

/-! ## Lexemes -/

/-- A lexeme as data, with the bytes of the query that it takes up. -/
def lexemeDatum (lexeme : Lexeme) : Datum :=
  .ofFields [("kind", .text lexeme.kind.name), ("text", .text lexeme.text),
    ("span", .ofFields [("start", .integer lexeme.start), ("end", .integer lexeme.stop)])]

/-- How wide the longest name of a kind among the lexemes is. -/
def kindWidth (lexemes : List Lexeme) : Nat :=
  lexemes.foldl (fun width lexeme => max width lexeme.kind.name.length) 0

/-- The line of a lexeme: its number, its kind and its text. -/
def lexemeLine (colored : Bool) (width number : Nat) (lexeme : Lexeme) : Text :=
  (Text.ofNat number).padLeft 3 ++ "  ".toList ++
    Style.context.paintIf colored (lexeme.kind.name.padRight width) ++ "  ".toList ++ lexeme.text

/-- The lines of lexemes, the first one having the given number. -/
def lexemeLines (colored : Bool) (width : Nat) : (number : Nat) → List Lexeme → List Text
  | _, [] => []
  | number, lexeme :: rest =>
      lexemeLine colored width number lexeme :: lexemeLines colored width (number + 1) rest

/-- Lexemes as text, counted from one. -/
def lexemesText (colored : Bool) (lexemes : List Lexeme) : Text :=
  Text.joined ['\n'] (lexemeLines colored (kindWidth lexemes) 1 lexemes)

/-! ## Operators -/

def operatorDatum (operator : Operator) : Datum :=
  .ofFields [("literal", .text operator.literal), ("name", .text operator.name),
    ("family", .text operator.family.name), ("pattern", .boolean operator.isPattern),
    ("list", .boolean operator.takesList)]

/-- The line of an operator: its literal and its name. -/
def operatorLine (colored : Bool) (operator : Operator) : Text :=
  "  ".toList ++ Style.literal.paintIf colored (operator.literal.padRight 5) ++ "  ".toList ++
    operator.name

/-- The heading of a family and the lines of its operators. -/
def familyText (colored : Bool) (family : Family) : Text :=
  let operators := Operator.all.filter fun operator => operator.family == family
  Text.joined ['\n']
    (Style.heading.paintIf colored (family.heading ++ [':']) ::
      operators.map (operatorLine colored))

/-- The catalog of operators as text, family by family. -/
def catalogText (colored : Bool) : Text :=
  Text.joined "\n\n".toList (Family.all.map (familyText colored))

def catalogDatum : Datum := .list (Operator.all.map operatorDatum)

end FilterQuery.Report
