import FilterQuery.Connective
import FilterQuery.Operator
import FilterQuery.Scalar
/-!
# Tokens

A token is one structured piece of a query: a condition, a condition on a list,
a connective, a parenthesis, or text taken over as it is. Each has a text, and
a list of tokens is written with one space between the texts.
-/

namespace FilterQuery

/-- One piece of a query. -/
inductive Token where
  | condition (property : Text) (operator : Operator) (value : Scalar)
  | listCondition (property : Text) (operator : ListOperator) (values : List Scalar)
  | connective (joiner : Connective)
  | paren (side : Paren)
  | raw (text : Text)
deriving BEq, Repr

def renderCondition (property : Text) (operator : Operator) (value : Scalar) : Text :=
  property ++ ' ' :: operator.literal ++ ' ' :: value.render false

def renderListCondition (property : Text) (operator : ListOperator) (values : List Scalar) :
    Text :=
  property ++ ' ' :: operator.literal ++ ' ' :: '[' :: renderList values ++ [']']

def Token.render : Token → Text
  | .condition property operator value => renderCondition property operator value
  | .listCondition property operator values => renderListCondition property operator values
  | .connective c => c.literal
  | .paren p => p.literal
  | .raw text => text

/-- The texts of the tokens with single spaces between them. -/
def renderTokens (tokens : List Token) : Text := Text.joined [' '] (tokens.map Token.render)

end FilterQuery
