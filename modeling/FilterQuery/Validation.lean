import FilterQuery.Lexeme
import FilterQuery.Marker
import FilterQuery.Operator
import FilterQuery.Problem
/-!
# Well-formed queries

A query is well formed if conditions and connectives alternate and parentheses
balance. A condition is three lexemes, the middle one the literal of an
operator; which property and which value it has does not matter. The walk below
goes through the lexemes once, from left to right. It stops at the first lexeme
that breaks the alternation, and reports afterwards what is missing at the end.
-/

namespace FilterQuery

/-- The part of a query that is checked: without white space at its ends and
without one leading marker. -/
def queryBody (query : Text) : Text := stripMarker query.trim

/-- Whether a lexeme can be the property of a condition. -/
def LexemeKind.isOperand : LexemeKind → Bool
  | .quoted | .word => true
  | .paren _ | .connective _ => false

/-- Whether two lexemes can be the property and the operator of a condition. -/
def startsCondition (property operator : Lexeme) : Bool :=
  property.kind.isOperand && (Operator.ofLiteral? operator.text).isSome

/-- What is reported at the end about `depth` open parentheses. -/
def unclosed (depth : Nat) : List Problem :=
  if depth = 0 then [] else [.unmatchedOpening]

/-- What the walk reports when it stops, a condition being expected. -/
def stopBeforeCondition (depth : Nat) : List Problem := .endsWithConnective :: unclosed depth

/-- What must stand at a place of a query. -/
inductive Expected where
  | condition
  | connective
deriving DecidableEq, Repr

/-- The walk over the lexemes from a place on, `index` lexemes having been
passed and `depth` parentheses being open. -/
def walk : Expected → (depth index : Nat) → List Lexeme → List Problem
  | .condition, depth, _, [] => stopBeforeCondition depth
  | .condition, depth, index, first :: rest =>
      if first.kind = .paren .opening then walk .condition (depth + 1) (index + 1) rest
      else
        match rest with
        | operator :: _ :: rest =>
            if startsCondition first operator then walk .connective depth (index + 3) rest
            else .expectedCondition (index + 1) first.text :: stopBeforeCondition depth
        | _ => .expectedCondition (index + 1) first.text :: stopBeforeCondition depth
  | .connective, depth, _, [] => unclosed depth
  | .connective, depth, index, first :: rest =>
      match first.kind with
      | .connective _ => walk .condition depth (index + 1) rest
      | .paren .closing =>
          match depth with
          | 0 => [.unmatchedClosing (index + 1)]
          | depth + 1 => walk .connective depth (index + 1) rest
      | _ => .expectedConnective (index + 1) first.text :: unclosed depth

def lexemeProblems (lexemes : List Lexeme) : List Problem :=
  walk .condition 0 0 lexemes

/-- The problems of a query, none if it is well formed. An empty query is. -/
def problems (query : Text) : List Problem :=
  let body := queryBody query
  if body.isEmpty then [] else lexemeProblems (lex body)

def isWellFormed (query : Text) : Bool := (problems query).isEmpty

end FilterQuery
