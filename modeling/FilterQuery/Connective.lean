import FilterQuery.Text.Lowercase
/-!
# Connectives and parentheses

Conditions are joined by a conjunction or a disjunction and grouped by
parentheses. A connective can also be named by a word, in any letter case.
-/

namespace FilterQuery

/-- What joins two conditions. -/
inductive Connective where
  | and
  | or
deriving DecidableEq, Repr

namespace Connective

def all : List Connective := [.and, .or]

def literal : Connective → Text
  | .and => ['&', '&']
  | .or => ['|', '|']

def word : Connective → Text
  | .and => "and".toList
  | .or => "or".toList

def ofLiteral? (text : Text) : Option Connective := all.find? fun c => c.literal == text

/-- The connective that a literal or a word in any letter case stands for. -/
def find? (text : Text) : Option Connective :=
  let lower := text.lowercase
  all.find? fun c => c.literal == lower || c.word == lower

end Connective

/-- An opening or a closing parenthesis. -/
inductive Paren where
  | opening
  | closing
deriving DecidableEq, Repr

namespace Paren

def all : List Paren := [.opening, .closing]

def char : Paren → Char
  | .opening => '('
  | .closing => ')'

def literal (p : Paren) : Text := [p.char]

def ofLiteral? (text : Text) : Option Paren := all.find? fun p => p.literal == text

end Paren

end FilterQuery
