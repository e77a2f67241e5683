import FilterQuery.Text
/-!
# Problems of a query

What can be wrong with the structure of a query. Places are numbers of lexemes,
counted from one.
-/

namespace FilterQuery

/-- A structural problem of a query. -/
inductive Problem where
  /-- The lexeme at `index` begins no condition where one must stand. -/
  | expectedCondition (index : Nat) (found : Text)
  /-- The lexeme at `index` is no connective where one must stand. -/
  | expectedConnective (index : Nat) (found : Text)
  | unmatchedClosing (index : Nat)
  | endsWithConnective
  | unmatchedOpening
deriving DecidableEq, Repr

def Problem.message : Problem → Text
  | .expectedCondition index found =>
      "Expected condition at token ".toList ++ Text.ofNat index ++
        ", found \"".toList ++ found ++ ['"']
  | .expectedConnective index found =>
      "Expected && or || at token ".toList ++ Text.ofNat index ++
        ", found \"".toList ++ found ++ ['"']
  | .unmatchedClosing index =>
      "Unmatched closing parenthesis at token ".toList ++ Text.ofNat index
  | .endsWithConnective => "Query ends with a logical operator".toList
  | .unmatchedOpening => "Unmatched opening parenthesis".toList

end FilterQuery
