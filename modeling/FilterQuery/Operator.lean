import FilterQuery.Text.Lowercase
/-!
# Operators

A condition compares a property with a value by one of 36 operators. Every
operator has a literal, the text that stands for it in a query, and no two share
one: reading a literal is the inverse of writing it. The operators fall into
three families: the core ones, their twins that ignore letter case, whose
literals end with `*`, and the comparisons of a number of elements, whose
literals begin with `#`.
-/

namespace FilterQuery

/-- The operators of conditions, in the order in which they are listed. -/
inductive Operator where
  | equals
  | notEquals
  | greaterThan
  | lessThan
  | greaterThanOrEqual
  | lessThanOrEqual
  | startsWith
  | doesNotStartWith
  | endsWith
  | doesNotEndWith
  | contains
  | doesNotContain
  | soundsLike
  | doesNotSoundLike
  | has
  | doesNotHave
  | isIn
  | isNotIn
  | equalsCaseInsensitive
  | notEqualsCaseInsensitive
  | startsWithCaseInsensitive
  | doesNotStartWithCaseInsensitive
  | endsWithCaseInsensitive
  | doesNotEndWithCaseInsensitive
  | containsCaseInsensitive
  | doesNotContainCaseInsensitive
  | hasCaseInsensitive
  | doesNotHaveCaseInsensitive
  | isInCaseInsensitive
  | isNotInCaseInsensitive
  | countGreaterThan
  | countLessThan
  | countGreaterThanOrEqual
  | countLessThanOrEqual
  | countEquals
  | countNotEquals
deriving DecidableEq, Repr

/-- The families of operators. -/
inductive Family where
  | core
  | caseInsensitive
  | count
deriving DecidableEq, Repr

def Family.all : List Family := [.core, .caseInsensitive, .count]

def Family.name : Family → Text
  | .core => "core".toList
  | .caseInsensitive => "case_insensitive".toList
  | .count => "count".toList

def Family.heading : Family → Text
  | .core => "Core".toList
  | .caseInsensitive => "Case-insensitive".toList
  | .count => "Count".toList

namespace Operator

def all : List Operator :=
  [.equals, .notEquals, .greaterThan, .lessThan, .greaterThanOrEqual,
    .lessThanOrEqual, .startsWith, .doesNotStartWith, .endsWith, .doesNotEndWith,
    .contains, .doesNotContain, .soundsLike, .doesNotSoundLike, .has, .doesNotHave,
    .isIn, .isNotIn, .equalsCaseInsensitive, .notEqualsCaseInsensitive,
    .startsWithCaseInsensitive, .doesNotStartWithCaseInsensitive,
    .endsWithCaseInsensitive, .doesNotEndWithCaseInsensitive, .containsCaseInsensitive,
    .doesNotContainCaseInsensitive, .hasCaseInsensitive, .doesNotHaveCaseInsensitive,
    .isInCaseInsensitive, .isNotInCaseInsensitive, .countGreaterThan, .countLessThan,
    .countGreaterThanOrEqual, .countLessThanOrEqual, .countEquals, .countNotEquals]

/-- The text that stands for an operator in a query. -/
def literal : Operator → Text
  | .equals => "==".toList
  | .notEquals => "!=".toList
  | .greaterThan => ">".toList
  | .lessThan => "<".toList
  | .greaterThanOrEqual => ">=".toList
  | .lessThanOrEqual => "<=".toList
  | .startsWith => "_=".toList
  | .doesNotStartWith => "!_=".toList
  | .endsWith => "_-=".toList
  | .doesNotEndWith => "!_-=".toList
  | .contains => "@=".toList
  | .doesNotContain => "!@=".toList
  | .soundsLike => "~~".toList
  | .doesNotSoundLike => "!~".toList
  | .has => "^$".toList
  | .doesNotHave => "!^$".toList
  | .isIn => "^^".toList
  | .isNotIn => "!^^".toList
  | .equalsCaseInsensitive => "==*".toList
  | .notEqualsCaseInsensitive => "!=*".toList
  | .startsWithCaseInsensitive => "_=*".toList
  | .doesNotStartWithCaseInsensitive => "!_=*".toList
  | .endsWithCaseInsensitive => "_-=*".toList
  | .doesNotEndWithCaseInsensitive => "!_-=*".toList
  | .containsCaseInsensitive => "@=*".toList
  | .doesNotContainCaseInsensitive => "!@=*".toList
  | .hasCaseInsensitive => "^$*".toList
  | .doesNotHaveCaseInsensitive => "!^$*".toList
  | .isInCaseInsensitive => "^^*".toList
  | .isNotInCaseInsensitive => "!^^*".toList
  | .countGreaterThan => "#>".toList
  | .countLessThan => "#<".toList
  | .countGreaterThanOrEqual => "#>=".toList
  | .countLessThanOrEqual => "#<=".toList
  | .countEquals => "#==".toList
  | .countNotEquals => "#!=".toList

def name : Operator → Text
  | .equals => "Equals".toList
  | .notEquals => "NotEquals".toList
  | .greaterThan => "GreaterThan".toList
  | .lessThan => "LessThan".toList
  | .greaterThanOrEqual => "GreaterThanOrEqual".toList
  | .lessThanOrEqual => "LessThanOrEqual".toList
  | .startsWith => "StartsWith".toList
  | .doesNotStartWith => "DoesNotStartWith".toList
  | .endsWith => "EndsWith".toList
  | .doesNotEndWith => "DoesNotEndWith".toList
  | .contains => "Contains".toList
  | .doesNotContain => "DoesNotContain".toList
  | .soundsLike => "SoundsLike".toList
  | .doesNotSoundLike => "DoesNotSoundLike".toList
  | .has => "Has".toList
  | .doesNotHave => "DoesNotHave".toList
  | .isIn => "In".toList
  | .isNotIn => "NotIn".toList
  | .equalsCaseInsensitive => "EqualsCaseInsensitive".toList
  | .notEqualsCaseInsensitive => "NotEqualsCaseInsensitive".toList
  | .startsWithCaseInsensitive => "StartsWithCaseInsensitive".toList
  | .doesNotStartWithCaseInsensitive => "DoesNotStartWithCaseInsensitive".toList
  | .endsWithCaseInsensitive => "EndsWithCaseInsensitive".toList
  | .doesNotEndWithCaseInsensitive => "DoesNotEndWithCaseInsensitive".toList
  | .containsCaseInsensitive => "ContainsCaseInsensitive".toList
  | .doesNotContainCaseInsensitive => "DoesNotContainCaseInsensitive".toList
  | .hasCaseInsensitive => "HasCaseInsensitive".toList
  | .doesNotHaveCaseInsensitive => "DoesNotHaveCaseInsensitive".toList
  | .isInCaseInsensitive => "InCaseInsensitive".toList
  | .isNotInCaseInsensitive => "NotInCaseInsensitive".toList
  | .countGreaterThan => "CountGreaterThan".toList
  | .countLessThan => "CountLessThan".toList
  | .countGreaterThanOrEqual => "CountGreaterThanOrEqual".toList
  | .countLessThanOrEqual => "CountLessThanOrEqual".toList
  | .countEquals => "CountEquals".toList
  | .countNotEquals => "CountNotEquals".toList

def family : Operator → Family
  | .equalsCaseInsensitive | .notEqualsCaseInsensitive | .startsWithCaseInsensitive
  | .doesNotStartWithCaseInsensitive | .endsWithCaseInsensitive
  | .doesNotEndWithCaseInsensitive | .containsCaseInsensitive
  | .doesNotContainCaseInsensitive | .hasCaseInsensitive | .doesNotHaveCaseInsensitive
  | .isInCaseInsensitive | .isNotInCaseInsensitive => .caseInsensitive
  | .countGreaterThan | .countLessThan | .countGreaterThanOrEqual
  | .countLessThanOrEqual | .countEquals | .countNotEquals => .count
  | _ => .core

/-- Whether an operator matches patterns: its value is quoted even if it is a
number or a boolean. -/
def isPattern : Operator → Bool
  | .startsWith | .doesNotStartWith | .endsWith | .doesNotEndWith | .contains
  | .doesNotContain | .soundsLike | .doesNotSoundLike | .startsWithCaseInsensitive
  | .doesNotStartWithCaseInsensitive | .endsWithCaseInsensitive
  | .doesNotEndWithCaseInsensitive | .containsCaseInsensitive
  | .doesNotContainCaseInsensitive => true
  | _ => false

def ofLiteral? (text : Text) : Option Operator := all.find? fun o => o.literal == text

/-- The operator with the given name, in any letter case. -/
def ofName? (text : Text) : Option Operator :=
  all.find? fun o => Text.eqIgnoreAsciiCase o.name text

/-- The operator that a literal or a name in any letter case stands for. -/
def find? (text : Text) : Option Operator := (ofLiteral? text).or (ofName? text)

theorem mem_all (o : Operator) : o ∈ all := by cases o <;> decide

theorem ofLiteral?_literal (o : Operator) : ofLiteral? o.literal = some o := by
  cases o <;> decide

end Operator

/-- The operators that compare a property with a list of values. -/
inductive ListOperator where
  | isIn
  | isNotIn
  | isInCaseInsensitive
  | isNotInCaseInsensitive
deriving DecidableEq, Repr

namespace ListOperator

def all : List ListOperator := [.isIn, .isNotIn, .isInCaseInsensitive, .isNotInCaseInsensitive]

def toOperator : ListOperator → Operator
  | .isIn => .isIn
  | .isNotIn => .isNotIn
  | .isInCaseInsensitive => .isInCaseInsensitive
  | .isNotInCaseInsensitive => .isNotInCaseInsensitive

/-- The text that stands for a list operator in a query. -/
def literal (o : ListOperator) : Text := o.toOperator.literal

end ListOperator

/-- The list operator that an operator is, if it takes a list. -/
def Operator.toList? (o : Operator) : Option ListOperator :=
  ListOperator.all.find? fun l => l.toOperator == o

def Operator.takesList (o : Operator) : Bool := o.toList?.isSome

theorem Operator.toOperator_of_toList? {o : Operator} {l : ListOperator}
    (h : o.toList? = some l) : l.toOperator = o := by
  unfold toList? at h
  have hfound := List.find?_some h
  exact eq_of_beq hfound

def ListOperator.ofLiteral? (text : Text) : Option ListOperator :=
  ListOperator.all.find? fun o => o.literal == text

end FilterQuery
