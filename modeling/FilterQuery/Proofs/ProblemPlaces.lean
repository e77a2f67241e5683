import FilterQuery.Proofs.Stopping
/-!
# Problems are reported where they arise

The lexemes before the one that a problem is at can be gone on with to a query,
and with that lexeme, or with the three that would be a condition, they cannot:
no earlier place would be right, and no later one.
-/

namespace FilterQuery

/-- Whether a query can begin with some lexemes. -/
def IsExtendable (lexemes : List Lexeme) : Prop := ∃ more, IsQuery (lexemes ++ more)

theorem IsExtendable.of_append {lexemes more : List Lexeme} (h : IsExtendable (lexemes ++ more)) :
    IsExtendable lexemes := by
  obtain ⟨further, hquery⟩ := h
  exact ⟨more ++ further, by rwa [← List.append_assoc]⟩

variable {expected : Expected} {depth : Nat} {passed left rest : List Lexeme} {first : Lexeme}
  {reported : List Problem}

/-! ## Going on -/

/-- Closing parentheses, as many as are open, may end a query. -/
theorem isTail_replicate {right : Lexeme} (h : right.kind = .paren .closing) (depth : Nat) :
    IsTail depth (List.replicate depth right) := by
  induction depth with
  | zero => exact .done
  | succ depth ih => exact .closed h ih

/-- What the walk passes can be gone on with: by a condition if one is expected,
and by the closing parentheses that are missing. -/
theorem Passes.isExtendable (h : Passes expected depth passed) : IsExtendable passed := by
  have hclosed {passed : List Lexeme} (h : Passes .connective depth passed) :
      IsExtendable passed := by
    refine ⟨List.replicate depth ⟨.paren .closing, Paren.closing.literal, 0⟩, ?_⟩
    rw [← lexemeProblems_eq_nil_iff, h.lexemeProblems_append]
    exact (isTail_replicate rfl depth).walk_eq_nil _
  cases expected with
  | connective => exact hclosed h
  | condition =>
      have hcondition : IsCondition ⟨.word, marker, 0⟩ ⟨.word, Operator.equals.literal, 0⟩
          ⟨.word, marker, 0⟩ := ⟨.inl rfl, .equals, rfl⟩
      exact (hclosed (h.condition hcondition)).of_append

/-- What makes the walk stop with a problem, whatever follows it, cannot be gone
on with. -/
theorem Passes.not_isExtendable (h : Passes expected depth passed) {stuck : List Lexeme}
    (hstops : ∀ more, ∃ problem problems,
      Stops expected depth passed.length (stuck ++ more) (problem :: problems)) :
    ¬ IsExtendable (passed ++ stuck) := by
  rintro ⟨more, hquery⟩
  obtain ⟨problem, problems, hstop⟩ := hstops more
  rw [← lexemeProblems_eq_nil_iff, List.append_assoc, h.lexemeProblems_append,
    hstop.walk_eq] at hquery
  exact absurd hquery (List.cons_ne_nil problem problems)

/-! ## What cannot be gone on with -/

theorem Stops.not_isExtendable_condition {operator value : Lexeme}
    (hpasses : Passes .condition depth passed)
    (h : Stops .condition depth passed.length (first :: operator :: value :: rest) reported) :
    ¬ IsExtendable (passed ++ [first, operator, value]) := by
  cases h with
  | noCondition hopening hcondition =>
      refine hpasses.not_isExtendable fun more => ⟨_, _, .noCondition hopening ?_⟩
      rintro _ _ _ ⟨⟩
      exact hcondition operator value rest rfl

theorem Stops.not_isExtendable_connective (hpasses : Passes .connective depth passed)
    (h : Stops .connective depth passed.length (first :: rest) reported) :
    ¬ IsExtendable (passed ++ [first]) := by
  cases h with
  | noConnective hclosing hjoiner =>
      exact hpasses.not_isExtendable fun more => ⟨_, _, .noConnective hclosing hjoiner⟩
  | unopened hclosing => exact hpasses.not_isExtendable fun more => ⟨_, _, .unopened hclosing⟩

/-- Where the walk stops without a problem at a lexeme, nothing is left. -/
theorem Stops.left_eq_nil {index : Nat} (h : Stops expected depth index left reported)
    (hnone : ∀ problem ∈ reported, problem.index? = none) : left = [] := by
  cases h with
  | missing => rfl
  | finished => rfl
  | noCondition => cases hnone _ List.mem_cons_self
  | noConnective => cases hnone _ List.mem_cons_self
  | unopened => cases hnone _ List.mem_cons_self

/-! ## The places of problems -/

/-- A problem that is at a lexeme is at the one behind those that are passed. -/
theorem Stops.isExtendable_take (hpasses : Passes expected depth passed)
    (h : Stops expected depth passed.length left reported) {problem : Problem} {n : Nat}
    (hmem : problem ∈ reported) (hn : problem.index? = some n) :
    1 ≤ n ∧ n ≤ (passed ++ left).length ∧ IsExtendable ((passed ++ left).take (n - 1)) ∧
      ∀ found, problem.found? = some found →
        (passed ++ left)[n - 1]?.map Lexeme.text = some found := by
  obtain ⟨first, rest, rfl, hproblem⟩ := h.exists_first hmem (by simp [hn])
  have hplace : n = passed.length + 1 := by
    rcases hproblem with ⟨-, rfl⟩ | ⟨-, rfl | rfl⟩ <;> exact (Option.some.inj hn).symm
  have hfound : ∀ found, problem.found? = some found → first.text = found := by
    rcases hproblem with ⟨-, rfl⟩ | ⟨-, rfl | rfl⟩ <;> simp [Problem.found?]
  refine ⟨by omega, by simp [hplace], ?_, fun found htold => ?_⟩
  · simpa [hplace] using hpasses.isExtendable
  · simp [hplace, hfound found htold]

theorem Stops.not_isExtendable_take_condition (hpasses : Passes expected depth passed)
    (h : Stops expected depth passed.length left reported) {n : Nat} {found : Text}
    (hmem : .expectedCondition n found ∈ reported) :
    (passed ++ left).length < n + 2 ∨ ¬ IsExtendable ((passed ++ left).take (n + 2)) := by
  obtain ⟨first, rest, rfl, ⟨rfl, heq⟩ | ⟨-, heq | heq⟩⟩ :=
    h.exists_first hmem (by simp [Problem.index?])
  all_goals cases heq
  match rest with
  | [] | [_] => exact .inl (by simp)
  | operator :: value :: after =>
      rw [Nat.add_assoc, List.take_length_add_append]
      exact .inr (h.not_isExtendable_condition hpasses)

/-- Where a connective was expected, the lexeme that was found is one too many. -/
theorem Stops.not_isExtendable_take_connective (hpasses : Passes expected depth passed)
    (h : Stops expected depth passed.length left reported) {problem : Problem} {n : Nat}
    (hmem : problem ∈ reported)
    (hproblem : (∃ found, problem = .expectedConnective n found) ∨
      problem = .unmatchedClosing n) :
    ¬ IsExtendable ((passed ++ left).take n) := by
  have hplace : problem.index? = some n := by
    rcases hproblem with ⟨found, rfl⟩ | rfl <;> rfl
  obtain ⟨first, rest, rfl, ⟨-, heq⟩ | ⟨rfl, heq⟩⟩ := h.exists_first hmem (by simp [hplace])
  · rcases hproblem with ⟨found, rfl⟩ | rfl <;> cases heq
  · have hn : n = passed.length + 1 := by
      rcases heq with rfl | rfl <;> exact (Option.some.inj hplace).symm
    rw [hn, List.take_length_add_append]
    exact h.not_isExtendable_connective hpasses

/-- A problem of a query is at the lexeme that its number says, and the lexemes
before that one can be gone on with. With the lexeme itself they cannot, if a
connective was expected; if a condition was, they cannot with two lexemes more,
if there are so many. The lexemes of a query without such a problem can be gone
on with. -/
theorem problems_point (query : Text) :
    let lexemes := lex (queryBody query)
    (∀ problem ∈ problems query, ∀ n, problem.index? = some n →
      1 ≤ n ∧ n ≤ lexemes.length ∧ IsExtendable (lexemes.take (n - 1)) ∧
        ∀ found, problem.found? = some found → lexemes[n - 1]?.map Lexeme.text = some found) ∧
    (∀ n found, .expectedCondition n found ∈ problems query →
      lexemes.length < n + 2 ∨ ¬ IsExtendable (lexemes.take (n + 2))) ∧
    (∀ n found, .expectedConnective n found ∈ problems query →
      ¬ IsExtendable (lexemes.take n)) ∧
    (∀ n, .unmatchedClosing n ∈ problems query → ¬ IsExtendable (lexemes.take n)) ∧
    ((∀ problem ∈ problems query, problem.index? = none) → IsExtendable lexemes) := by
  intro lexemes
  rcases exists_stops_problems query with
    ⟨hnone, hproblems⟩ | ⟨expected, depth, passed, left, hlexemes, hpasses, hstops⟩
  · have hextendable : IsExtendable lexemes := by
      rw [show lexemes = [] from hnone]
      exact Passes.start.isExtendable
    simp [hproblems, hextendable]
  · rw [show lexemes = passed ++ left from hlexemes]
    clear_value lexemes
    refine ⟨fun problem hmem n hn => ?_, fun n found hmem => ?_, fun n found hmem => ?_,
      fun n hmem => ?_, fun hnone => ?_⟩
    · exact hstops.isExtendable_take hpasses hmem hn
    · exact hstops.not_isExtendable_take_condition hpasses hmem
    · exact hstops.not_isExtendable_take_connective hpasses hmem (.inl ⟨found, rfl⟩)
    · exact hstops.not_isExtendable_take_connective hpasses hmem (.inr rfl)
    · obtain rfl := hstops.left_eq_nil hnone
      simpa using hpasses.isExtendable

/-- A condition in a group without a known operator, and a parenthesis too many
after a value that is one. -/
theorem problems_point_nested :
    let first := "Filters= (A == 1 || B = 2) && C".toList
    let second := "(A == )) ) && B".toList
    (.expectedCondition 6 "B".toList ∈ problems first ∧
      IsExtendable ((lex (queryBody first)).take 5) ∧
      ¬ IsExtendable ((lex (queryBody first)).take 8)) ∧
    (.unmatchedClosing 6 ∈ problems second ∧
      IsExtendable ((lex (queryBody second)).take 5) ∧
      ¬ IsExtendable ((lex (queryBody second)).take 6)) := by
  intro first second
  have hfirst : .expectedCondition 6 "B".toList ∈ problems first := by decide +kernel
  have hsecond : .unmatchedClosing 6 ∈ problems second := by decide +kernel
  have hlength : ¬ (lex (queryBody first)).length < 8 := by decide +kernel
  refine ⟨⟨hfirst, ?_, ?_⟩, hsecond, ?_, ?_⟩
  · exact ((problems_point first).1 _ hfirst 6 rfl).2.2.1
  · exact ((problems_point first).2.1 6 _ hfirst).resolve_left hlength
  · exact ((problems_point second).1 _ hsecond 6 rfl).2.2.1
  · exact (problems_point second).2.2.2.1 6 hsecond

end FilterQuery
