import FilterQuery.Proofs.Nesting
import FilterQuery.Proofs.Stopping
/-!
# The order of problems

At most three problems are reported. One that is at a lexeme comes first, then
what is missing at the end: a condition, and last a closing parenthesis. Whether
one is missing can be read off the lexemes before the place where the walk
stopped, conditions apart.
-/

namespace FilterQuery

/-- The lexemes outside of conditions, a condition being three lexemes from a
word or a quoted string on. -/
def outsideConditions : List Lexeme → List Lexeme
  | first :: operator :: value :: rest =>
      if first.kind.isOperand then outsideConditions rest
      else first :: outsideConditions (operator :: value :: rest)
  | lexemes => lexemes

/-- How many lexemes of a query stand before the one that a problem is at; all
of them if none is. -/
def stopPlace (query : Text) : Nat :=
  match (problems query).findSome? Problem.index? with
  | some n => n - 1
  | none => (lex (queryBody query)).length

/-- The lexemes before the stop that are read on their own, not as part of a
condition. -/
def structuralLexemes (query : Text) : List Lexeme :=
  outsideConditions ((lex (queryBody query)).take (stopPlace query))

variable {expected : Expected} {depth index : Nat} {passed left : List Lexeme}
  {reported : List Problem}

/-! ## Open parentheses -/

theorem outsideConditions_cons {first : Lexeme} (h : first.kind.isOperand = false)
    (rest : List Lexeme) : outsideConditions (first :: rest) = first :: outsideConditions rest := by
  match rest with
  | [] => rfl
  | [operator] => rfl
  | operator :: value :: rest => simp [outsideConditions, h]

theorem outsideConditions_condition {property operator value : Lexeme}
    (h : IsCondition property operator value) (rest : List Lexeme) :
    outsideConditions (property :: operator :: value :: rest) = outsideConditions rest := by
  simp [outsideConditions, LexemeKind.isOperand_iff.mpr h.1]

/-- What is passed ends where a condition does or between conditions. -/
theorem Passes.outsideConditions_append (h : Passes expected depth passed) (rest : List Lexeme) :
    outsideConditions (passed ++ rest) = outsideConditions passed ++ outsideConditions rest := by
  have hnil : outsideConditions [] = [] := rfl
  induction h generalizing rest with
  | start => rfl
  | @opening _ _ left _ hleft ih =>
      have hkind : left.kind.isOperand = false := by simp [hleft, LexemeKind.isOperand]
      simp only [List.append_assoc, ih, List.singleton_append, outsideConditions_cons hkind, hnil]
  | condition _ hcondition ih =>
      have hthree := outsideConditions_condition hcondition
      simp only [List.append_assoc, List.cons_append, List.nil_append, ih, hthree, hnil]
  | @joiner _ _ l c _ hjoiner ih =>
      have hkind : l.kind.isOperand = false := by simp [hjoiner, LexemeKind.isOperand]
      simp only [List.append_assoc, ih, List.singleton_append, outsideConditions_cons hkind, hnil]
  | @closing _ _ right _ hright ih =>
      have hkind : right.kind.isOperand = false := by simp [hright, LexemeKind.isOperand]
      simp only [List.append_assoc, ih, List.singleton_append, outsideConditions_cons hkind, hnil]

theorem Passes.outsideConditions_concat (h : Passes expected depth passed) {l : Lexeme}
    (hkind : l.kind.isOperand = false) :
    outsideConditions (passed ++ [l]) = outsideConditions passed ++ [l] := by
  rw [h.outsideConditions_append, outsideConditions_cons hkind]
  rfl

/-- The parentheses that are open are those that have been opened and not
closed. -/
theorem Passes.openings_eq (h : Passes expected depth passed) :
    openings (outsideConditions passed) = closings (outsideConditions passed) + depth := by
  induction h with
  | start => rfl
  | opening hfront hleft ih =>
      rw [hfront.outsideConditions_concat (by simp [hleft, LexemeKind.isOperand])]
      rw [openings, closings] at ih ⊢
      simp [List.countP_append, hleft, ih, Nat.add_assoc]
  | condition hfront hcondition ih =>
      have hnone : outsideConditions [] = [] := rfl
      rwa [hfront.outsideConditions_append, outsideConditions_condition hcondition, hnone,
        List.append_nil]
  | joiner c hfront hjoiner ih =>
      rw [hfront.outsideConditions_concat (by simp [hjoiner, LexemeKind.isOperand])]
      rw [openings, closings] at ih ⊢
      simp [List.countP_append, hjoiner, ih]
  | closing hfront hright ih =>
      rw [hfront.outsideConditions_concat (by simp [hright, LexemeKind.isOperand])]
      rw [openings, closings] at ih ⊢
      simp [List.countP_append, hright, ih]
      omega

/-! ## The shape of a report -/

theorem Stops.findSome?_index? (h : Stops expected depth index left reported) :
    reported.findSome? Problem.index? = left.head?.map fun _ => index + 1 := by
  have hunclosed : (unclosed depth).findSome? Problem.index? = none := by
    rw [List.findSome?_eq_none_iff]
    intro problem hmem
    obtain ⟨-, rfl⟩ := mem_unclosed_iff.mp hmem
    rfl
  cases h with
  | missing => exact hunclosed
  | finished => exact hunclosed
  | noCondition => rfl
  | noConnective => rfl
  | unopened => rfl

/-- The place that the problems of a query tell is where the walk stopped. -/
theorem Stops.take_stopPlace {query : Text} (hlexemes : lex (queryBody query) = passed ++ left)
    (h : Stops expected depth passed.length left (problems query)) :
    (lex (queryBody query)).take (stopPlace query) = passed := by
  rw [stopPlace, h.findSome?_index?, hlexemes]
  cases left <;> simp

/-- A closing parenthesis is missing exactly if one is open where the walk
stops. -/
theorem Stops.unmatchedOpening_mem_iff (h : Stops expected depth index left reported) :
    .unmatchedOpening ∈ reported ↔ 0 < depth := by
  cases h <;> simp [stopBeforeCondition]

/-- The order in which problems are reported. -/
structure IsOrdered (reported : List Problem) : Prop where
  length_le : reported.length ≤ 3
  /-- Only the first problem can be at a lexeme. -/
  place_first : ∀ problem ∈ reported.tail, problem.index? = none
  /-- Where a condition was expected, the query also ends before one. -/
  condition : ∀ n found, .expectedCondition n found ∈ reported →
    ∃ rest, reported = .expectedCondition n found :: .endsWithConnective :: rest
  connective : ∀ n found, .expectedConnective n found ∈ reported → .endsWithConnective ∉ reported
  closing : ∀ n, .unmatchedClosing n ∈ reported → reported = [.unmatchedClosing n]
  /-- That a closing parenthesis is missing is the last problem. -/
  opening_last : .unmatchedOpening ∉ reported.dropLast

/-- What is reported about open parentheses comes after what else is, unless a
closing one is the problem. -/
theorem IsOrdered.append_unclosed {front : List Problem} (h : IsOrdered front)
    (hlength : front.length ≤ 2) (hclosing : ∀ n, .unmatchedClosing n ∉ front)
    (hopening : .unmatchedOpening ∉ front) (depth : Nat) :
    IsOrdered (front ++ unclosed depth) := by
  unfold unclosed
  split
  next => rwa [List.append_nil]
  next =>
    refine ⟨?_, ?_, ?_, ?_, ?_, ?_⟩
    · simp only [List.length_append, List.length_singleton]
      omega
    · intro problem hmem
      cases front with
      | nil => cases hmem
      | cons first rest =>
          rw [List.cons_append, List.tail_cons, List.mem_append, List.mem_singleton] at hmem
          rcases hmem with hmem | rfl
          · exact h.place_first problem hmem
          · rfl
    · intro n found hmem
      obtain ⟨rest, hrest⟩ := h.condition n found (by simpa using hmem)
      exact ⟨rest ++ [.unmatchedOpening], by rw [hrest]; rfl⟩
    · intro n found hmem
      simpa using h.connective n found (by simpa using hmem)
    · intro n hmem
      exact absurd (by simpa using hmem) (hclosing n)
    · rwa [List.dropLast_concat]

theorem Stops.isOrdered (h : Stops expected depth index left reported) : IsOrdered reported := by
  have hmissing : IsOrdered [.endsWithConnective] := by constructor <;> simp
  cases h with
  | missing => exact hmissing.append_unclosed (by simp) (by simp) (by simp) depth
  | finished =>
      have hnone : IsOrdered [] := by constructor <;> simp
      exact hnone.append_unclosed (by simp) (by simp) (by simp) depth
  | @noCondition _ _ first _ _ _ =>
      have hfirst : IsOrdered [.expectedCondition (index + 1) first.text, .endsWithConnective] := by
        constructor <;> simp [Problem.index?]
      exact hfirst.append_unclosed (by simp) (by simp) (by simp) depth
  | @noConnective _ _ first _ _ _ =>
      have hfirst : IsOrdered [.expectedConnective (index + 1) first.text] := by
        constructor <;> simp
      exact hfirst.append_unclosed (by simp) (by simp) (by simp) depth
  | unopened => constructor <;> simp

/-- The problems of a query are reported in order, and that a closing parenthesis
is missing exactly if, conditions apart, more parentheses are opened than closed
before the place where the walk stopped. -/
theorem problems_order (query : Text) :
    IsOrdered (problems query) ∧
      (.unmatchedOpening ∈ problems query ↔
        closings (structuralLexemes query) < openings (structuralLexemes query)) := by
  rcases exists_stops_problems query with
    ⟨hnone, hproblems⟩ | ⟨expected, depth, passed, left, hlexemes, hpasses, hstops⟩
  · rw [structuralLexemes, hnone, hproblems]
    exact ⟨by constructor <;> simp, by simp [outsideConditions, openings, closings]⟩
  · refine ⟨hstops.isOrdered, ?_⟩
    rw [hstops.unmatchedOpening_mem_iff, structuralLexemes, hstops.take_stopPlace hlexemes,
      hpasses.openings_eq]
    omega

example : problems "(A == ( && ) B".toList =
    [.expectedCondition 6 ")".toList, .endsWithConnective, .unmatchedOpening] := by
  decide +kernel

end FilterQuery
