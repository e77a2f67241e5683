import FilterQuery.Json.Reader
import FilterQuery.Json.Writer
import FilterQuery.Token
/-!
# Tokens as data

In a document a token is a record whose field `type` names its kind, the other
fields following in a fixed order, or a list of the kind and the values of
those fields. Operators, connectives and parentheses are named by their
literals. All fields of a token are read before any is looked at, so a place
without a value spoils the token wherever it stands.
-/

namespace FilterQuery

/-! ## Field names -/

/-- The name of the field that holds the kind of a token. -/
def Token.typeName : Text := "type".toList

def Token.propertyName : Text := "property".toList

/-- The name of the field that holds an operator or a connective. -/
def Token.operatorName : Text := "operator".toList

def Token.valueName : Text := "value".toList

/-- The name of the field that holds a list of values. -/
def Token.valuesName : Text := "values".toList

def Token.kind : Token → Text
  | .condition .. => "condition".toList
  | .listCondition .. => "array_condition".toList
  | .connective _ => "logical".toList
  | .paren _ => "paren".toList
  | .raw _ => "raw".toList

/-! ## Writing -/

def Scalar.toDatum : Scalar → Datum
  | .boolean value => .boolean value
  | .integer value => .integer value.toInt
  | .float value => .float value
  | .string value => .text value

namespace Token

def fields : Token → List (Text × Datum)
  | .condition property operator value =>
      [(propertyName, .text property), (operatorName, .text operator.literal),
        (valueName, value.toDatum)]
  | .listCondition property operator values =>
      [(propertyName, .text property), (operatorName, .text operator.literal),
        (valuesName, .list (values.map Scalar.toDatum))]
  | .connective c => [(operatorName, .text c.literal)]
  | .paren p => [(valueName, .text p.literal)]
  | .raw text => [(valueName, .text text)]

def toDatum (token : Token) : Datum := .record ((typeName, .text token.kind) :: token.fields)

end Token

def tokensDatum (tokens : List Token) : Datum := .list (tokens.map Token.toDatum)

/-! ## Reading -/

def Scalar.ofDatum? : Datum → Option Scalar
  | .boolean value => some (.boolean value)
  | .integer value => some (.ofInt value)
  | .float value => some (.float value)
  | .text value => some (.string value)
  | _ => none

def scalarsOfDatum? : Datum → Option (List Scalar)
  | .list items => items.mapM Scalar.ofDatum?
  | _ => none

namespace Token

/-- The token of a kind whose other fields, or their values in order, are the
content. -/
def ofContent? (kind : Text) (content : Datum) : Option Token :=
  if kind = "condition".toList then
    match content.parts? [propertyName, operatorName, valueName] with
    | some [property, operator, value] => do
        some (.condition (← property.text?) (← operator.choice? >>= Operator.ofLiteral?)
          (← Scalar.ofDatum? value))
    | _ => none
  else if kind = "array_condition".toList then
    match content.parts? [propertyName, operatorName, valuesName] with
    | some [property, operator, values] => do
        some (.listCondition (← property.text?)
          (← operator.choice? >>= ListOperator.ofLiteral?) (← scalarsOfDatum? values))
    | _ => none
  else if kind = "logical".toList then
    match content.parts? [operatorName] with
    | some [operator] => do some (.connective (← operator.choice? >>= Connective.ofLiteral?))
    | _ => none
  else if kind = "paren".toList then
    match content.parts? [valueName] with
    | some [value] => do some (.paren (← value.choice? >>= Paren.ofLiteral?))
    | _ => none
  else if kind = "raw".toList then
    match content.parts? [valueName] with
    | some [value] => do some (.raw (← value.text?))
    | _ => none
  else none

def ofDatum? (datum : Datum) : Option Token :=
  if !datum.isReadable then none
  else
    match datum with
    | .record fields => do
        let kind ← Datum.field? typeName fields >>= Datum.text?
        ofContent? kind (.record (fields.filter fun field => field.1 != typeName))
    | .list (kind :: values) => do ofContent? (← kind.text?) (.list values)
    | _ => none

end Token

def tokensOfDatum? : Datum → Option (List Token)
  | .list items => items.mapM Token.ofDatum?
  | _ => none

/-! ## JSON -/

/-- The datum that a JSON text is, if it is not nested too deep. -/
def Json.readBounded? (text : Text) : Option Datum := do
  let datum ← Json.read? text
  if datum.depth ≤ Json.depthLimit then some datum else none

def Token.ofJson? (text : Text) : Option Token := Json.readBounded? text >>= Token.ofDatum?

/-- The tokens that a JSON text is a list of. -/
def tokensOfJson? (text : Text) : Option (List Token) :=
  Json.readBounded? text >>= tokensOfDatum?

end FilterQuery
