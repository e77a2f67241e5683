import FilterQuery.Operator
import FilterQuery.Connective
/-!
# Names from outside

Operators, connectives and parentheses can be given as text. A text that names
none of them is an error that keeps the text, and an operator that does not
take a list is an error where a list operator is asked for.
-/

namespace FilterQuery

/-- Why a text does not name what it should. -/
inductive NameError where
  | unknownOperator (text : Text)
  | notAListOperator (operator : Operator)
  | unknownConnective (text : Text)
  | unknownParen (text : Text)
deriving DecidableEq, Repr

/-- The literals of all operators in the order of the catalog. -/
def Operator.literals : Text := Text.joined ", ".toList (Operator.all.map Operator.literal)

/-- The message for a text that does not name what it should. -/
def NameError.message : NameError → Text
  | .unknownOperator text =>
      "unknown operator: '".toList ++ text ++
        "'\n  hint: valid operators are: ".toList ++ Operator.literals
  | .notAListOperator operator =>
      "operator '".toList ++ operator.literal ++
        "' cannot take a list\n  hint: list operators are: ^^, !^^, ^^*, !^^*".toList
  | .unknownConnective text =>
      "invalid connective: '".toList ++ text ++
        "'\n  hint: valid connectives are: &&, ||".toList
  | .unknownParen text =>
      "invalid parenthesis: '".toList ++ text ++ "'\n  hint: expected '(' or ')'".toList

def Operator.parse (text : Text) : Except NameError Operator :=
  match Operator.find? text with
  | some operator => .ok operator
  | none => .error (.unknownOperator text)

def ListOperator.parse (text : Text) : Except NameError ListOperator := do
  let operator ← Operator.parse text
  match operator.toList? with
  | some list => .ok list
  | none => .error (.notAListOperator operator)

def Connective.parse (text : Text) : Except NameError Connective :=
  match Connective.find? text with
  | some connective => .ok connective
  | none => .error (.unknownConnective text)

def Paren.parse (text : Text) : Except NameError Paren :=
  match Paren.ofLiteral? text with
  | some paren => .ok paren
  | none => .error (.unknownParen text)

end FilterQuery
