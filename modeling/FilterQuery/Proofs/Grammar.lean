import FilterQuery.Proofs.Lexing
import FilterQuery.Validation.Grammar
/-!
# The walk decides the grammar

The walk keeps a flag and a number of open parentheses and never looks back,
while the grammar is recursive. What ties them together is the rest of the
query: a silent walk has, at each place, a remainder that a query may have
there. Going over a whole phrase, the walk is silent and changes the flag only.
-/

namespace FilterQuery

theorem Operator.isSome_ofLiteral?_iff {text : Text} :
    (Operator.ofLiteral? text).isSome = true ↔ ∃ o : Operator, text = o.literal := by
  rw [Operator.ofLiteral?, List.find?_isSome]
  constructor
  · rintro ⟨o, _, ho⟩
    exact ⟨o, (beq_iff_eq.mp ho).symm⟩
  · rintro ⟨o, rfl⟩
    exact ⟨o, Operator.mem_all o, by simp⟩

theorem LexemeKind.isOperand_iff {kind : LexemeKind} :
    kind.isOperand = true ↔ kind = .word ∨ kind = .quoted := by
  cases kind <;> simp [LexemeKind.isOperand]

theorem startsCondition_iff_isCondition {property operator value : Lexeme} :
    startsCondition property operator = true ↔ IsCondition property operator value := by
  rw [startsCondition, Bool.and_eq_true, LexemeKind.isOperand_iff,
    Operator.isSome_ofLiteral?_iff]
  rfl

theorem IsCondition.kind_ne_paren {property operator value : Lexeme}
    (h : IsCondition property operator value) (side : Paren) : property.kind ≠ .paren side := by
  rcases h.1 with hkind | hkind <;> simp [hkind]

/-- Two words, the second one an operator, and anything after them are a
condition. -/
theorem exists_isCondition {lexemes : List Lexeme} {property : Text} {operator : Operator}
    {value : Content}
    (h : lexemes.map Lexeme.content = [(.word, property), (.word, operator.literal), value]) :
    ∃ p o v, lexemes = [p, o, v] ∧ p.content = (.word, property) ∧ IsCondition p o v := by
  obtain ⟨p, rest, rfl, hp, hrest⟩ := List.map_eq_cons_iff.mp h
  obtain ⟨o, rest, rfl, ho, hrest⟩ := List.map_eq_cons_iff.mp hrest
  obtain ⟨v, rfl, -⟩ := List.map_eq_singleton_iff.mp hrest
  exact ⟨p, o, v, rfl, hp, .inl (congrArg Prod.fst hp), operator, congrArg Prod.snd ho⟩

/-! ## Over a phrase -/

theorem walk_condition {property operator value : Lexeme}
    (h : IsCondition property operator value) (depth index : Nat) (rest : List Lexeme) :
    walk .condition depth index (property :: operator :: value :: rest) =
      walk .connective depth (index + 3) rest := by
  have hstarts := startsCondition_iff_isCondition.mpr h
  rw [walk, if_neg (h.kind_ne_paren .opening)]
  simp only [hstarts, if_true]

theorem walk_opening {left : Lexeme} (h : left.kind = .paren .opening) (depth index : Nat)
    (rest : List Lexeme) :
    walk .condition depth index (left :: rest) = walk .condition (depth + 1) (index + 1) rest := by
  rw [walk.eq_def]
  simp only [h, if_true]

theorem walk_closing {right : Lexeme} (h : right.kind = .paren .closing) (depth index : Nat)
    (rest : List Lexeme) :
    walk .connective (depth + 1) index (right :: rest) =
      walk .connective depth (index + 1) rest := by
  simp only [walk, h]

theorem walk_joiner {joiner : Lexeme} {c : Connective} (h : joiner.kind = .connective c)
    (depth index : Nat) (rest : List Lexeme) :
    walk .connective depth index (joiner :: rest) = walk .condition depth (index + 1) rest := by
  simp only [walk, h]

/-- Going over a phrase, the walk reports nothing and leaves the depth as it
was. -/
theorem walk_phrase {phrase : Phrase} {lexemes : List Lexeme} (h : IsPhrase phrase lexemes)
    (depth index : Nat) (rest : List Lexeme) :
    walk .condition depth index (lexemes ++ rest) =
      walk .connective depth (index + lexemes.length) rest := by
  induction h generalizing depth index rest with
  | alone _ ih => exact ih depth index rest
  | @joined first tail joiner c _ hjoiner _ ihfirst ihtail =>
      rw [List.append_assoc, ihfirst, List.cons_append, walk_joiner hjoiner, ihtail]
      congr 1
      simp only [List.length_append, List.length_cons]
      omega
  | @group left right inside hleft _ hright ih =>
      rw [List.cons_append, List.cons_append, walk_opening hleft, List.append_assoc, ih,
        List.singleton_append, walk_closing hright]
      congr 1
      simp only [List.length_append, List.length_cons, List.length_nil]
      omega
  | condition hcondition => exact walk_condition hcondition depth index rest

/-! ## What is left of a query -/

/-- A query may go on after another one and a connective. -/
theorem IsQuery.join {first rest : List Lexeme} {joiner : Lexeme} {c : Connective}
    (hfirst : IsQuery first) (hjoiner : joiner.kind = .connective c) (hrest : IsQuery rest) :
    IsQuery (first ++ joiner :: rest) := by
  generalize hphrase : Phrase.query = phrase at hfirst
  unfold IsQuery at hfirst
  rw [hphrase] at hfirst
  induction hfirst with
  | alone hterm _ => exact .joined c hterm hjoiner hrest
  | joined c' hterm hjoiner' _ _ ih =>
      rw [List.append_assoc, List.cons_append]
      exact .joined c' hterm hjoiner' (ih rfl)
  | group => cases hphrase
  | condition => cases hphrase

/-- What may follow a query inside `depth` parentheses: further queries, each
after a connective, and the closing parentheses. -/
inductive IsTail : (depth : Nat) → List Lexeme → Prop
  | done : IsTail 0 []
  | closed {depth : Nat} {right : Lexeme} {rest : List Lexeme} :
      right.kind = .paren .closing → IsTail depth rest → IsTail (depth + 1) (right :: rest)
  | joined {depth : Nat} {joiner : Lexeme} {lexemes rest : List Lexeme} (c : Connective) :
      joiner.kind = .connective c → IsQuery lexemes → IsTail depth rest →
        IsTail depth (joiner :: (lexemes ++ rest))

/-- What may be left of a query inside `depth` parentheses. -/
def IsRemainder : Expected → (depth : Nat) → List Lexeme → Prop
  | .condition, depth, lexemes =>
      ∃ query rest, lexemes = query ++ rest ∧ IsQuery query ∧ IsTail depth rest
  | .connective, depth, lexemes => IsTail depth lexemes

/-- A query and its tail up to the first parenthesis that closes one more than
are opened make up one query. -/
theorem IsTail.split_closing {depth : Nat} {query tail : List Lexeme} (hquery : IsQuery query)
    (htail : IsTail (depth + 1) tail) :
    ∃ inside right rest, query ++ tail = inside ++ right :: rest ∧ IsQuery inside ∧
      right.kind = .paren .closing ∧ IsTail depth rest := by
  generalize hdepth : depth + 1 = opened at htail
  induction htail generalizing query with
  | done => cases hdepth
  | @closed depth' right rest hright hrest _ =>
      obtain rfl : depth = depth' := Nat.succ.inj hdepth
      exact ⟨query, right, rest, rfl, hquery, hright, hrest⟩
  | @joined depth' joiner lexemes rest c hjoiner hlexemes _ ih =>
      -- The query takes in what follows the connective before it is split.
      obtain ⟨inside, right, after, heq, hinside, hright, hafter⟩ :=
        ih (hquery.join hjoiner hlexemes) hdepth
      refine ⟨inside, right, after, ?_, hinside, hright, hafter⟩
      simpa only [List.append_assoc, List.cons_append] using heq

/-- Outside all parentheses a query and its tail make up one query. -/
theorem IsTail.append_isQuery {query tail : List Lexeme} (htail : IsTail 0 tail)
    (hquery : IsQuery query) : IsQuery (query ++ tail) := by
  generalize hdepth : 0 = depth at htail
  induction htail generalizing query with
  | done => simpa using hquery
  | closed => cases hdepth
  | @joined depth joiner lexemes rest c hjoiner hlexemes _ ih =>
      simpa only [List.append_assoc, List.cons_append] using
        ih (hquery.join hjoiner hlexemes) hdepth

theorem IsTail.walk_eq_nil {depth : Nat} {lexemes : List Lexeme} (h : IsTail depth lexemes)
    (index : Nat) : walk .connective depth index lexemes = [] := by
  induction h generalizing index with
  | done => rfl
  | closed hright _ ih => rw [walk_closing hright, ih]
  | joined c hjoiner hlexemes _ ih => rw [walk_joiner hjoiner, walk_phrase hlexemes, ih]

/-- A silent walk has a remainder of a query before it. The induction is along
the walk; a group that it enters is put together again when its remainder is
split at the parenthesis that closes it. -/
theorem isRemainder_of_walk_eq_nil {expected : Expected} {depth index : Nat}
    {lexemes : List Lexeme} (h : walk expected depth index lexemes = []) :
    IsRemainder expected depth lexemes := by
  fun_induction walk expected depth index lexemes with
  | case1 => simp [stopBeforeCondition] at h
  | case2 depth index first rest hopening ih =>
      -- One parenthesis more is open after `first`: the tail closes it somewhere.
      obtain ⟨query, tail, rfl, hquery, htail⟩ := ih h
      obtain ⟨inside, right, after, heq, hinside, hright, hafter⟩ := htail.split_closing hquery
      have hgroup : IsQuery (first :: inside ++ [right]) :=
        .alone (.group hopening hinside hright)
      exact ⟨first :: inside ++ [right], after, by simp [heq], hgroup, hafter⟩
  | case3 depth index first hopening operator value rest hstarts ih =>
      have hcondition : IsCondition first operator value :=
        startsCondition_iff_isCondition.mp hstarts
      exact ⟨[first, operator, value], rest, rfl, .alone (.condition hcondition), ih h⟩
  | case4 => simp at h
  | case5 => simp at h
  | case6 index depth =>
      cases depth with
      | zero => exact .done
      | succ depth => simp [unclosed] at h
  | case7 depth index first rest c hkind ih =>
      obtain ⟨query, tail, rfl, hquery, htail⟩ := ih h
      exact .joined c hkind hquery htail
  | case8 => simp at h
  | case9 index first rest hkind depth ih => exact .closed hkind (ih h)
  | case10 => simp at h

/-- The walk reports nothing exactly when what is before it is a remainder of a
query. -/
theorem walk_eq_nil_iff {expected : Expected} {depth index : Nat} {lexemes : List Lexeme} :
    walk expected depth index lexemes = [] ↔ IsRemainder expected depth lexemes := by
  refine ⟨isRemainder_of_walk_eq_nil, fun h => ?_⟩
  cases expected with
  | condition =>
      obtain ⟨query, rest, rfl, hquery, htail⟩ := h
      rw [walk_phrase hquery, htail.walk_eq_nil]
  | connective => exact IsTail.walk_eq_nil h index

theorem lexemeProblems_eq_nil_iff {lexemes : List Lexeme} :
    lexemeProblems lexemes = [] ↔ IsQuery lexemes := by
  rw [lexemeProblems, walk_eq_nil_iff]
  constructor
  · rintro ⟨query, rest, rfl, hquery, htail⟩
    exact htail.append_isQuery hquery
  · intro h
    exact ⟨lexemes, [], by simp, h, .done⟩

theorem isWellFormed_of_isQuery {query : Text} (h : IsQuery (lex (queryBody query))) :
    isWellFormed query = true := by
  rw [isWellFormed, List.isEmpty_iff, problems]
  split
  next => rfl
  next => exact lexemeProblems_eq_nil_iff.mpr h

theorem isQuery_of_isWellFormed {query : Text} (h : isWellFormed query = true)
    (hbody : queryBody query ≠ []) : IsQuery (lex (queryBody query)) := by
  rw [isWellFormed, List.isEmpty_iff, problems, if_neg (by simp [hbody])] at h
  exact lexemeProblems_eq_nil_iff.mp h

/-- A query is well formed exactly when nothing stands in it or its lexemes are
a query of the grammar. -/
theorem isWellFormed_iff_isQuery (query : Text) :
    isWellFormed query = true ↔ queryBody query = [] ∨ IsQuery (lex (queryBody query)) := by
  rw [isWellFormed, List.isEmpty_iff, problems]
  by_cases hempty : queryBody query = []
  · simp [hempty]
  · simp [hempty, lexemeProblems_eq_nil_iff]

end FilterQuery
