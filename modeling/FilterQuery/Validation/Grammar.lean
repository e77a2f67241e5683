import FilterQuery.Validation
/-!
# The grammar of queries

A query is a term, or a term, a connective and a query. A term is a query in
parentheses, or a condition of three lexemes: a word or a quoted string, the
literal of an operator, and any lexeme at all. The grammar says which lists of
lexemes are queries without saying how to find out.
-/

namespace FilterQuery

def IsCondition (property operator _value : Lexeme) : Prop :=
  (property.kind = .word ∨ property.kind = .quoted) ∧ ∃ o : Operator, operator.text = o.literal

/-- What a list of lexemes can be. -/
inductive Phrase where
  | query
  | term
deriving DecidableEq, Repr

/-- The lists of lexemes that are queries or terms. -/
inductive IsPhrase : Phrase → List Lexeme → Prop
  | alone {lexemes : List Lexeme} : IsPhrase .term lexemes → IsPhrase .query lexemes
  /-- A term, a connective and a query are a query. -/
  | joined {first rest : List Lexeme} {joiner : Lexeme} (c : Connective) :
      IsPhrase .term first → joiner.kind = .connective c → IsPhrase .query rest →
        IsPhrase .query (first ++ joiner :: rest)
  | group {left right : Lexeme} {inside : List Lexeme} :
      left.kind = .paren .opening → IsPhrase .query inside → right.kind = .paren .closing →
        IsPhrase .term (left :: inside ++ [right])
  | condition {property operator value : Lexeme} :
      IsCondition property operator value → IsPhrase .term [property, operator, value]

def IsQuery (lexemes : List Lexeme) : Prop := IsPhrase .query lexemes

end FilterQuery
