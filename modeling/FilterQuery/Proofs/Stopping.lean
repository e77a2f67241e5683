import FilterQuery.Proofs.Grammar
/-!
# Where the walk stops

The walk passes lexemes as long as it can and then stops once and for all, at
the end or at a lexeme that it cannot pass. What it has passed, what it then
expects and how many parentheses are open say all that it reports: the lexemes
that are passed can always be gone on with to a query, and what stopped the walk
cannot.
-/

namespace FilterQuery

/-- The lexemes that the walk can have passed, with what it expects after them
and how many parentheses are then open. -/
inductive Passes : Expected → (depth : Nat) → List Lexeme → Prop
  | start : Passes .condition 0 []
  | opening {depth : Nat} {front : List Lexeme} {left : Lexeme} :
      Passes .condition depth front → left.kind = .paren .opening →
        Passes .condition (depth + 1) (front ++ [left])
  | condition {depth : Nat} {front : List Lexeme} {property operator value : Lexeme} :
      Passes .condition depth front → IsCondition property operator value →
        Passes .connective depth (front ++ [property, operator, value])
  | joiner {depth : Nat} {front : List Lexeme} {joiner : Lexeme} (c : Connective) :
      Passes .connective depth front → joiner.kind = .connective c →
        Passes .condition depth (front ++ [joiner])
  | closing {depth : Nat} {front : List Lexeme} {right : Lexeme} :
      Passes .connective (depth + 1) front → right.kind = .paren .closing →
        Passes .connective depth (front ++ [right])

/-- What the walk reports where it stops, `index` lexemes having been passed and
the others being left. -/
inductive Stops : Expected → (depth index : Nat) → List Lexeme → List Problem → Prop
  | missing {depth index : Nat} : Stops .condition depth index [] (stopBeforeCondition depth)
  | finished {depth index : Nat} : Stops .connective depth index [] (unclosed depth)
  | noCondition {depth index : Nat} {first : Lexeme} {rest : List Lexeme} :
      first.kind ≠ .paren .opening →
      (∀ operator value after, rest = operator :: value :: after →
        ¬ IsCondition first operator value) →
        Stops .condition depth index (first :: rest)
          (.expectedCondition (index + 1) first.text :: stopBeforeCondition depth)
  | noConnective {depth index : Nat} {first : Lexeme} {rest : List Lexeme} :
      first.kind ≠ .paren .closing → (∀ c, first.kind ≠ .connective c) →
        Stops .connective depth index (first :: rest)
          (.expectedConnective (index + 1) first.text :: unclosed depth)
  | unopened {index : Nat} {first : Lexeme} {rest : List Lexeme} :
      first.kind = .paren .closing →
        Stops .connective 0 index (first :: rest) [.unmatchedClosing (index + 1)]

variable {expected : Expected} {depth index : Nat} {passed left : List Lexeme}
  {reported : List Problem}

/-! ## Passing -/

/-- What the walk reports of lexemes that begin with some that it passes is what
it reports from there on. -/
theorem Passes.lexemeProblems_append (h : Passes expected depth passed) (rest : List Lexeme) :
    lexemeProblems (passed ++ rest) = walk expected depth passed.length rest := by
  induction h generalizing rest with
  | start => rfl
  | opening _ hleft ih =>
      rw [List.append_assoc, ih, List.singleton_append, walk_opening hleft, List.length_append]
      rfl
  | condition _ hcondition ih =>
      rw [List.append_assoc, ih, List.length_append]
      exact walk_condition hcondition _ _ rest
  | joiner c _ hjoiner ih =>
      rw [List.append_assoc, ih, List.singleton_append, walk_joiner hjoiner, List.length_append]
      rfl
  | closing _ hright ih =>
      rw [List.append_assoc, ih, List.singleton_append, walk_closing hright, List.length_append]
      rfl

/-- Where the walk stops, it reports what is said there. -/
theorem Stops.walk_eq (h : Stops expected depth index left reported) :
    walk expected depth index left = reported := by
  cases h with
  | missing => rfl
  | finished => rfl
  | @noCondition _ _ first rest hopening hcondition =>
      match rest with
      | [] | [_] => simp only [walk, if_neg hopening]
      | operator :: value :: after =>
          have hstarts : ¬ startsCondition first operator = true :=
            mt startsCondition_iff_isCondition.mp (hcondition operator value after rfl)
          rw [walk, if_neg hopening]
          exact if_neg hstarts
  | @noConnective _ _ first rest hclosing hjoiner =>
      rw [walk.eq_def]
      dsimp only
      split
      next c hkind => exact absurd hkind (hjoiner c)
      next hkind => exact absurd hkind hclosing
      next => rfl
  | unopened hclosing => simp only [walk, hclosing]

/-- From any place that it has come to, the walk passes lexemes until it stops.
The induction is along the walk. -/
theorem Passes.exists_stops (h : Passes expected depth passed) (rest : List Lexeme) :
    ∃ expected' depth' passed' left, passed ++ rest = passed' ++ left ∧
      Passes expected' depth' passed' ∧
      Stops expected' depth' passed'.length left (walk expected depth passed.length rest) := by
  generalize hindex : passed.length = index
  fun_induction walk expected depth index rest generalizing passed with
  | case1 index depth => exact ⟨_, _, passed, [], rfl, h, .missing⟩
  | case2 depth index first rest hopening ih =>
      simpa using ih (h.opening hopening) (by simp [hindex])
  | case3 depth index first hopening operator value rest hstarts ih =>
      have hcondition : IsCondition first operator value :=
        startsCondition_iff_isCondition.mp hstarts
      simpa using ih (h.condition hcondition) (by simp [hindex])
  | case4 depth index first hopening operator value rest hstarts =>
      have hcondition : ¬ IsCondition first operator value :=
        mt startsCondition_iff_isCondition.mpr hstarts
      subst hindex
      refine ⟨_, _, passed, _, rfl, h, .noCondition hopening ?_⟩
      rintro _ _ _ ⟨⟩
      exact hcondition
  | case5 depth index first rest hopening hshort =>
      subst hindex
      refine ⟨_, _, passed, _, rfl, h, .noCondition hopening ?_⟩
      exact fun operator value after heq => (hshort operator value after heq).elim
  | case6 index depth => exact ⟨_, _, passed, [], rfl, h, .finished⟩
  | case7 depth index first rest c hkind ih =>
      simpa using ih (h.joiner c hkind) (by simp [hindex])
  | case8 index first rest hkind =>
      subst hindex
      exact ⟨_, _, passed, _, rfl, h, .unopened hkind⟩
  | case9 index first rest hkind depth ih =>
      simpa using ih (h.closing hkind) (by simp [hindex])
  | case10 depth index first rest hjoiner hclosing =>
      subst hindex
      exact ⟨_, _, passed, _, rfl, h, .noConnective hclosing hjoiner⟩

/-- A query with nothing in it has no lexemes and no problems; in every other one
the walk stops somewhere. -/
theorem exists_stops_problems (query : Text) :
    (lex (queryBody query) = [] ∧ problems query = []) ∨
      ∃ expected depth passed left, lex (queryBody query) = passed ++ left ∧
        Passes expected depth passed ∧
        Stops expected depth passed.length left (problems query) := by
  by_cases hempty : queryBody query = []
  · have hnone : lex [] = [] := lexFrom_of_allBlank rfl 0
    exact .inl ⟨by rw [hempty, hnone], by simp [problems, hempty]⟩
  · have hproblems : problems query = lexemeProblems (lex (queryBody query)) := by
      simp [problems, hempty]
    rw [hproblems]
    exact .inr (Passes.start.exists_stops (lex (queryBody query)))

/-! ## The places of problems -/

/-- The number of the lexeme that a problem is at, if it is at one. -/
def Problem.index? : Problem → Option Nat
  | .expectedCondition index _ | .expectedConnective index _ | .unmatchedClosing index => some index
  | .endsWithConnective | .unmatchedOpening => none

/-- The text that a problem tells was found. -/
def Problem.found? : Problem → Option Text
  | .expectedCondition _ found | .expectedConnective _ found => some found
  | .unmatchedClosing _ | .endsWithConnective | .unmatchedOpening => none

@[simp] theorem mem_unclosed_iff {problem : Problem} :
    problem ∈ unclosed depth ↔ 0 < depth ∧ problem = .unmatchedOpening := by
  unfold unclosed
  split
  next hzero => simp [hzero]
  next hpos => simp [Nat.pos_of_ne_zero hpos]

/-- A problem that is at a lexeme is at the one that stopped the walk and tells
its text; what was expected there says which problem it is. -/
theorem Stops.exists_first (h : Stops expected depth index left reported) {problem : Problem}
    (hmem : problem ∈ reported) (hplace : problem.index? ≠ none) :
    ∃ first rest, left = first :: rest ∧
      ((expected = .condition ∧ problem = .expectedCondition (index + 1) first.text) ∨
        (expected = .connective ∧ (problem = .expectedConnective (index + 1) first.text ∨
          problem = .unmatchedClosing (index + 1)))) := by
  have hunclosed (h : problem ∈ unclosed depth) : problem.index? = none := by
    obtain ⟨-, rfl⟩ := mem_unclosed_iff.mp h
    rfl
  have hmissing (h : problem ∈ stopBeforeCondition depth) : problem.index? = none := by
    rcases List.mem_cons.mp h with rfl | h
    · rfl
    · exact hunclosed h
  cases h with
  | missing => exact absurd (hmissing hmem) hplace
  | finished => exact absurd (hunclosed hmem) hplace
  | @noCondition _ _ first rest _ _ =>
      rcases List.mem_cons.mp hmem with rfl | hmem
      · exact ⟨first, rest, rfl, .inl ⟨rfl, rfl⟩⟩
      · exact absurd (hmissing hmem) hplace
  | @noConnective _ _ first rest _ _ =>
      rcases List.mem_cons.mp hmem with rfl | hmem
      · exact ⟨first, rest, rfl, .inr ⟨rfl, .inl rfl⟩⟩
      · exact absurd (hunclosed hmem) hplace
  | @unopened _ first rest _ =>
      obtain rfl := List.mem_singleton.mp hmem
      exact ⟨first, rest, rfl, .inr ⟨rfl, .inr rfl⟩⟩

end FilterQuery
