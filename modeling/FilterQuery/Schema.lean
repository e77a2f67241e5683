import FilterQuery.FilterFile
/-!
# The schema of filter files

A description of filter files for programs that check JSON documents. Names of
operators, connectives and parentheses are listed in the order of the catalog;
the fields of a token stand in alphabetical order.
-/

namespace FilterQuery.Schema

def reference (name : String) : Datum :=
  .ofFields [("$ref", .text ("#/definitions/" ++ name).toList)]

def typed (name : String) : Datum := .ofFields [("type", .text name.toList)]

def number (name format : String) : Datum :=
  .ofFields [("type", .text name.toList), ("format", .text format.toList)]

/-- The schema of strings that are one of some names. -/
def choice (names : List Text) : Datum :=
  .ofFields [("type", .text "string".toList), ("enum", .list (names.map .text))]

/-- The schema of strings that are one of some names, with what they mean. -/
def describedChoice (description : String) (names : List Text) : Datum :=
  .ofFields [("description", .text description.toList), ("type", .text "string".toList),
    ("enum", .list (names.map .text))]

def listOf (items : Datum) : Datum :=
  .ofFields [("type", .text "array".toList), ("items", items)]

/-- The schema of a kind of tokens, given its fields in alphabetical order. -/
def tokenKind (description : String) (fields : List (Text × Datum)) : Datum :=
  .ofFields [("description", .text description.toList), ("type", .text "object".toList),
    ("required", .list (fields.map fun field => .text field.1)), ("properties", .record fields)]

def kindField (name : String) : Text × Datum := (Token.typeName, choice [name.toList])

def tokenKinds : List Datum :=
  [tokenKind "`property operator value`"
      [(Token.operatorName, reference "Operator"), (Token.propertyName, typed "string"),
        kindField "condition", (Token.valueName, reference "Scalar")],
    tokenKind "`property operator [v1,v2,...]`"
      [(Token.operatorName, reference "ListOperator"), (Token.propertyName, typed "string"),
        kindField "array_condition", (Token.valuesName, listOf (reference "Scalar"))],
    tokenKind "`&&` or `||`"
      [(Token.operatorName, reference "Connective"), kindField "logical"],
    tokenKind "`(` or `)`"
      [kindField "paren", (Token.valueName, reference "ParenKind")],
    tokenKind "Opaque text inserted by append, concat or add_condition."
      [kindField "raw", (Token.valueName, typed "string")]]

def scalarKinds : List Datum :=
  [typed "boolean", number "integer" "int64", number "number" "double", typed "string"]

def definitions : Datum :=
  .ofFields [
    ("Connective", describedChoice "Logical connective between conditions."
      (Connective.all.map Connective.literal)),
    ("ListOperator", describedChoice
      ("The membership operators, the only ones accepted by " ++
        "[`QueryBuilder::in_list`](crate::QueryBuilder::in_list).")
      (ListOperator.all.map ListOperator.literal)),
    ("Operator", describedChoice
      "A filter operator.\n\nSerialized as its literal token (`\"==\"`, `\"@=*\"`, ...)."
      (Operator.all.map Operator.literal)),
    ("ParenKind", describedChoice "Opening or closing parenthesis."
      (Paren.all.map Paren.literal)),
    ("Scalar", .ofFields [("description", .text "A condition value.".toList),
      ("anyOf", .list scalarKinds)]),
    ("Token", .ofFields [("description", .text "One query fragment.".toList),
      ("oneOf", .list tokenKinds)])]

/-- The schema of an option, which is off if it is left out. -/
def option (description : String) : Datum :=
  .ofFields [("description", .text description.toList), ("default", .boolean false),
    ("type", .text "boolean".toList)]

def properties : Datum :=
  .record [
    (FilterFile.encodeUriName, option "Percent-encode the built query."),
    (FilterFile.markedName, option "Start the built query with `Filters= `."),
    (FilterFile.tokensName, .ofFields [("description", .text "Query fragments in order.".toList),
      ("default", .list []), ("type", .text "array".toList), ("items", reference "Token")])]

/-- The name of the schema language: a scheme and a place. -/
def language : Text := "http:".toList ++ "//json-schema.org/draft-07/schema#".toList

def filterFile : Datum :=
  .ofFields [
    ("$schema", .text language),
    ("title", .text "FilterFile".toList),
    ("description",
      .text "A stored filter: builder options plus the tokens to replay.".toList),
    ("type", .text "object".toList),
    ("properties", properties),
    ("definitions", definitions)]

end FilterQuery.Schema
