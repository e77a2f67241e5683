import FilterQuery.Proofs.Appending
/-!
# Grouping queries

Two well-formed queries in parentheses, with a connective between them, make a
well-formed query. Nothing in a query reaches over the parenthesis that closes
its group: a word ends before it, and a quoted string has to be closed already.
What the values in the groups are does not matter, a parenthesis or a connective
included: the walk goes over each group as it goes over the query in it.
-/

namespace FilterQuery

/-- Queries in parentheses with a connective between them are a query. -/
theorem IsQuery.of_groups {first second lexemes : List Lexeme} {c : Connective}
    (hfirst : IsQuery first) (hsecond : IsQuery second)
    (hlexemes : lexemes.map Lexeme.content =
      groupContents (first.map Lexeme.content) ++
        (.connective c, c.literal) :: groupContents (second.map Lexeme.content)) :
    IsQuery lexemes := by
  have hgroup : ∀ {inside : List Lexeme}, IsQuery inside →
      IsPhrase .term (⟨.paren .opening, ['('], 0⟩ :: inside ++ [⟨.paren .closing, [')'], 0⟩]) :=
    fun hinside => .group rfl hinside rfl
  have hjoiner : (⟨.connective c, c.literal, 0⟩ : Lexeme).kind = .connective c := rfl
  have hquery := IsPhrase.joined c (hgroup hfirst) hjoiner (.alone (hgroup hsecond))
  refine hquery.congr ?_
  rw [hlexemes]
  simp [groupContents, Lexeme.content]

/-- Texts in parentheses are read one after the other if every quoted string is
closed between its parentheses. -/
theorem isPiece_groups {first second : Text} (hfirst : QuotesClosed first)
    (hsecond : QuotesClosed second) (c : Connective) :
    IsPiece ('(' :: first ++ ") ".toList ++ c.literal ++ " (".toList ++ second ++ [')'])
      (groupContents (contents first) ++
        (.connective c, c.literal) :: groupContents (contents second)) := by
  have hpiece := ((isPiece_parenthesized hfirst).append (isPiece_connective c)).append
    (isPiece_parenthesized hsecond)
  simpa [groupContents] using hpiece

/-- What two well-formed queries say, each in parentheses and with a connective
between them, is a well-formed query. -/
theorem isWellFormed_groups {first second : Text} (hfirst : isWellFormed first = true)
    (hsecond : isWellFormed second = true) (hfirstBody : queryBody first ≠ [])
    (hsecondBody : queryBody second ≠ []) (hfirstClosed : QuotesClosed (queryBody first))
    (hsecondClosed : QuotesClosed (queryBody second)) (c : Connective) :
    isWellFormed ('(' :: queryBody first ++ ") ".toList ++ c.literal ++ " (".toList ++
      queryBody second ++ [')']) = true := by
  have hpiece := isPiece_groups hfirstClosed hsecondClosed c
  have hunmarked : Unmarked (groupContents (contents (queryBody first)) ++
      (.connective c, c.literal) :: groupContents (contents (queryBody second))) :=
    unmarked_cons.mpr (by decide)
  have hbody := @contents_queryBody ⟨false, false⟩ _ _ hpiece.contents_eq hunmarked
  have hfirstQuery : IsQuery (lex (queryBody first)) := isQuery_of_isWellFormed hfirst hfirstBody
  have hsecondQuery : IsQuery (lex (queryBody second)) :=
    isQuery_of_isWellFormed hsecond hsecondBody
  exact isWellFormed_of_isQuery (hfirstQuery.of_groups hsecondQuery hbody)

/-- Values that are a parenthesis and a connective, a word with a quote in it, and
a string that looks like the end of a group. -/
theorem isWellFormed_groups_misleading_values :
    isWellFormed ('(' :: queryBody " Filters= A == )\t".toList ++ ") ".toList ++
      Connective.or.literal ++ " (".toList ++
        queryBody "B == && || (x\"y @= \"\\\") && (\")".toList ++ [')']) = true := by
  refine isWellFormed_groups ?_ ?_ ?_ ?_ ?_ ?_ .or
  all_goals decide +kernel

end FilterQuery
