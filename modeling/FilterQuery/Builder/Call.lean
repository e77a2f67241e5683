import FilterQuery.Builder
/-!
# Calls as data

The operations on a builder, as values: a program is a list of calls, and
running it is running its calls one after the other. Laws about every builder
that can be reached are laws about every program.
-/

namespace FilterQuery

/-- An operation on a builder with its arguments. -/
inductive Call where
  | op (property : Text) (operator : Operator) (value : Option Scalar) (quoted : Bool)
  | inList (property : Text) (operator : ListOperator) (values : List (Option Scalar))
  | addCondition (condition : Text)
  | connective (joiner : Connective)
  | paren (side : Paren)
  | append (fragment : Text) (joiner : Option Connective)
  | merge (other : Builder) (joiner : Option Connective)
  | concat (other : Builder) (joiner : Option Connective)
  | apply (token : Token)

def Call.run (b : Builder) : Call → Builder
  | .op property operator value quoted => b.op property operator value quoted
  | .inList property operator values => b.inList property operator values
  | .addCondition condition => b.addCondition condition
  | .connective c => b.connective c
  | .paren p => b.paren p
  | .append fragment joiner => b.append fragment joiner
  | .merge other joiner => b.merge other joiner
  | .concat other joiner => b.concat other joiner
  | .apply token => b.apply token

def Builder.runAll (b : Builder) (program : List Call) : Builder := program.foldl Call.run b

end FilterQuery
