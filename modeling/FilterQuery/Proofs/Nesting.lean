import FilterQuery.Proofs.Grammar
import FilterQuery.Proofs.Rendering
/-!
# Nesting in accepted queries

A condition may have any lexeme as its value, a parenthesis or a connective
included: the walk goes over it without a look. Apart from the values of
conditions, though, the parentheses of an accepted query are nested and no
connective ends it.
-/

namespace FilterQuery

/-- The lexemes without the values of conditions: after a word or a quoted
string where a condition can begin, the operator stays and the lexeme after it
is left out. -/
def withoutValues : List Lexeme → List Lexeme
  | first :: operator :: value :: rest =>
      if first.kind.isOperand then first :: operator :: withoutValues rest
      else first :: withoutValues (operator :: value :: rest)
  | lexemes => lexemes

def openings (lexemes : List Lexeme) : Nat := lexemes.countP (·.kind == .paren .opening)

def closings (lexemes : List Lexeme) : Nat := lexemes.countP (·.kind == .paren .closing)

/-- Whether each closing parenthesis has an opening one before it, and none is
left open. -/
structure IsNested (lexemes : List Lexeme) : Prop where
  closings_take_le : ∀ n, closings (lexemes.take n) ≤ openings (lexemes.take n)
  closings_eq : closings lexemes = openings lexemes

/-! ## Nested lexemes -/

namespace IsNested

variable {first rest inside : List Lexeme}

theorem append (hfirst : IsNested first) (hrest : IsNested rest) : IsNested (first ++ rest) where
  closings_take_le n := by
    rw [List.take_append, closings, openings, List.countP_append, List.countP_append]
    exact Nat.add_le_add (hfirst.closings_take_le n) (hrest.closings_take_le _)
  closings_eq := by
    rw [closings, openings, List.countP_append, List.countP_append]
    exact congrArg₂ (· + ·) hfirst.closings_eq hrest.closings_eq

theorem of_not_paren (h : ∀ l ∈ first, ∀ side, l.kind ≠ .paren side) : IsNested first := by
  have hnone (side : Paren) (n : Nat) : (first.take n).countP (·.kind == .paren side) = 0 := by
    rw [List.countP_eq_zero]
    intro l hl
    simp [h l (List.mem_of_mem_take hl) side]
  refine ⟨fun n => ?_, ?_⟩
  · rw [closings, hnone]
    exact Nat.zero_le _
  · have hclosings := hnone .closing first.length
    have hopenings := hnone .opening first.length
    rw [List.take_length] at hclosings hopenings
    rw [closings, openings, hclosings, hopenings]

theorem group {left right : Lexeme} (hleft : left.kind = .paren .opening)
    (hinside : IsNested inside) (hright : right.kind = .paren .closing) :
    IsNested (left :: inside ++ [right]) where
  closings_take_le n := by
    cases n with
    | zero => exact Nat.zero_le _
    | succ n =>
        have hle := hinside.closings_take_le n
        have hlast : closings ([right].take (n - inside.length)) ≤ 1 :=
          List.countP_le_length.trans (List.length_take_le' _ _)
        rw [closings, openings] at hle ⊢
        rw [closings] at hlast
        simp only [List.cons_append, List.take_succ_cons, List.take_append, List.countP_cons,
          List.countP_append, hleft]
        simp
        omega
  closings_eq := by
    have heq := hinside.closings_eq
    rw [closings, openings] at heq ⊢
    simp [hleft, hright, heq]

end IsNested

/-! ## Outlines -/

/-- What is left of a query without the values of its conditions: it is nested
and does not end with a connective. -/
structure IsOutline (lexemes : List Lexeme) : Prop extends IsNested lexemes where
  ne_nil : lexemes ≠ []
  last : ∀ l ∈ lexemes.getLast?, l.kind.isConnective = false

namespace IsOutline

variable {first rest inside : List Lexeme}

theorem joined {joiner : Lexeme} {c : Connective} (hfirst : IsOutline first)
    (hjoiner : joiner.kind = .connective c) (hrest : IsOutline rest) :
    IsOutline (first ++ joiner :: rest) where
  toIsNested := by
    have hsingle : IsNested [joiner] := .of_not_paren (by simp [hjoiner])
    exact hfirst.toIsNested.append (hsingle.append hrest.toIsNested)
  ne_nil := by simp
  last := by
    rw [List.getLast?_append_of_ne_nil _ (List.cons_ne_nil _ _)]
    obtain ⟨l, more, rfl⟩ := List.exists_cons_of_ne_nil hrest.ne_nil
    exact hrest.last

theorem group {left right : Lexeme} (hleft : left.kind = .paren .opening)
    (hinside : IsOutline inside) (hright : right.kind = .paren .closing) :
    IsOutline (left :: inside ++ [right]) where
  toIsNested := hinside.toIsNested.group hleft hright
  ne_nil := by simp
  last := by
    intro l hl
    rw [List.getLast?_concat] at hl
    rw [← Option.some.inj hl, hright]
    rfl

theorem condition {property operator value : Lexeme} (h : IsCondition property operator value)
    (hoperator : operator.kind = .word) : IsOutline [property, operator] where
  toIsNested := .of_not_paren (by simp [h.kind_ne_paren, hoperator])
  ne_nil := by simp
  last := by simp [hoperator, LexemeKind.isConnective]

end IsOutline

/-! ## Leaving out values -/

theorem withoutValues_cons {first : Lexeme} (h : first.kind.isOperand = false)
    (rest : List Lexeme) : withoutValues (first :: rest) = first :: withoutValues rest := by
  match rest with
  | [] => rfl
  | [operator] => rfl
  | operator :: value :: rest => simp [withoutValues, h]

theorem withoutValues_condition {property operator value : Lexeme}
    (h : IsCondition property operator value) (rest : List Lexeme) :
    withoutValues (property :: operator :: value :: rest) =
      property :: operator :: withoutValues rest := by
  simp [withoutValues, LexemeKind.isOperand_iff.mpr h.1]

/-- Values are left out of a phrase and of what follows it one after the
other. -/
theorem IsPhrase.withoutValues_append {phrase : Phrase} {lexemes : List Lexeme}
    (h : IsPhrase phrase lexemes) (rest : List Lexeme) :
    withoutValues (lexemes ++ rest) = withoutValues lexemes ++ withoutValues rest := by
  induction h generalizing rest with
  | alone _ ih => exact ih rest
  | @joined first tail joiner c _ hjoiner _ ihfirst ihtail =>
      have hkind : joiner.kind.isOperand = false := by simp [hjoiner, LexemeKind.isOperand]
      rw [List.append_assoc, List.cons_append, ihfirst, ihfirst, withoutValues_cons hkind,
        withoutValues_cons hkind, ihtail, List.append_assoc, List.cons_append]
  | @group left right inside hleft _ hright ih =>
      have hopen : left.kind.isOperand = false := by simp [hleft, LexemeKind.isOperand]
      have hclose : right.kind.isOperand = false := by simp [hright, LexemeKind.isOperand]
      simp only [List.cons_append, List.append_assoc, List.nil_append,
        withoutValues_cons hopen, ih, withoutValues_cons hclose]
      simp [withoutValues]
  | condition hcondition =>
      have hnil : withoutValues [] = [] := rfl
      rw [List.cons_append, List.cons_append, List.cons_append, List.nil_append,
        withoutValues_condition hcondition, withoutValues_condition hcondition, hnil]
      rfl

/-- A phrase whose operators are words has an outline. -/
theorem IsPhrase.isOutline_withoutValues {phrase : Phrase} {lexemes : List Lexeme}
    (h : IsPhrase phrase lexemes)
    (hwords : ∀ l ∈ lexemes, ∀ o : Operator, l.text = o.literal → l.kind = .word) :
    IsOutline (withoutValues lexemes) := by
  induction h with
  | alone _ ih => exact ih hwords
  | @joined first tail joiner c hfirst hjoiner _ ihfirst ihtail =>
      rw [List.forall_mem_append, List.forall_mem_cons] at hwords
      have hkind : joiner.kind.isOperand = false := by simp [hjoiner, LexemeKind.isOperand]
      rw [hfirst.withoutValues_append, withoutValues_cons hkind]
      exact (ihfirst hwords.1).joined hjoiner (ihtail hwords.2.2)
  | @group left right inside hleft hinside hright ih =>
      rw [List.cons_append, List.forall_mem_cons, List.forall_mem_append] at hwords
      have hkind : left.kind.isOperand = false := by simp [hleft, LexemeKind.isOperand]
      rw [List.cons_append, withoutValues_cons hkind, hinside.withoutValues_append]
      exact (ih hwords.2.1).group hleft hright
  | @condition property operator value hcondition =>
      obtain ⟨o, ho⟩ := hcondition.2
      rw [withoutValues_condition hcondition]
      exact .condition hcondition (hwords operator (by simp) o ho)

/-- The lexemes of an accepted query without the values of its conditions: every
closing parenthesis has an opening one before it, none is left open, and the last
of them is no connective. -/
theorem isNested_of_isWellFormed {query : Text} (h : isWellFormed query = true) :
    IsNested (withoutValues (lex (queryBody query))) ∧
      ∀ l ∈ (withoutValues (lex (queryBody query))).getLast?, l.kind.isConnective = false := by
  by_cases hbody : queryBody query = []
  · have hnone : lex [] = [] := lexFrom_of_allBlank rfl 0
    rw [hbody, hnone]
    exact ⟨.of_not_paren (by simp [withoutValues]), by simp [withoutValues]⟩
  · have houtline := (isQuery_of_isWellFormed h hbody).isOutline_withoutValues
      fun l hl o ho => kind_eq_word_of_text_eq_literal hl ho
    exact ⟨houtline.toIsNested, houtline.last⟩

/-- A group that has a closing parenthesis for a value, and a condition that has
a connective for one. -/
theorem isNested_misleading_values :
    isWellFormed "(A == )) || B != &&".toList = true ∧
      IsNested (withoutValues (lex (queryBody "(A == )) || B != &&".toList))) ∧
      ∀ l ∈ (withoutValues (lex (queryBody "(A == )) || B != &&".toList))).getLast?,
        l.kind.isConnective = false := by
  have hquery : isWellFormed "(A == )) || B != &&".toList = true := by decide +kernel
  exact ⟨hquery, isNested_of_isWellFormed hquery⟩

/-- A value can be a parenthesis that nothing opens, or a connective at the
end. -/
theorem not_isNested_closing_value :
    isWellFormed "A == )".toList = true ∧
      ¬ IsNested (lex (queryBody "A == )".toList)) ∧
      isWellFormed "A == &&".toList = true ∧
      ∃ l ∈ (lex (queryBody "A == &&".toList)).getLast?, l.kind.isConnective = true := by
  have hclosings : closings (lex (queryBody "A == )".toList)) ≠
      openings (lex (queryBody "A == )".toList)) := by decide +kernel
  refine ⟨by decide +kernel, fun h => hclosings h.closings_eq, by decide +kernel, ?_⟩
  decide +kernel

end FilterQuery
