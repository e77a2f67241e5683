import FilterQuery.Proofs.Replay
/-!
# What a call records

A call that has nothing to write leaves a builder as it is. Any other call only
adds: it records one token behind those that are there, and where text or a
builder is taken over with a connective, the connective may be recorded before
it. Of the text, no more than the white space at its end is taken off.
-/

namespace FilterQuery

open Text

namespace Call

/-- The connective that a call is given to write before its text. -/
def joiner? : Call → Option Connective
  | .append _ joiner | .merge _ joiner | .concat _ joiner => joiner
  | _ => none

/-- The token that a call writes the text of, if it has anything to write. -/
def token? : Call → Option Token
  | .op property operator value quoted =>
      value.map fun value =>
        .condition property operator (if quoted then value.stringified else value)
  | .inList property operator values =>
      (Token.listCondition property operator (values.filterMap id)).recorded?
  | .addCondition condition => if condition.allBlank then none else some (.raw condition)
  | .connective c => some (.connective c)
  | .paren p => some (.paren p)
  | .append fragment _ => (Token.raw fragment).recorded?
  | .merge other _ => (Token.raw other.text).recorded?
  | .concat other _ => some (.raw other.group)
  | .apply token => token.recorded?

theorem token?_eq_none_iff {c : Call} : c.token? = none ↔ c.isIdle = true := by
  cases c with
  | apply token => cases token <;> simp [token?, isIdle, Token.recorded?]
  | _ => simp [token?, isIdle, Token.recorded?]

theorem token?_addCondition_eq_some {condition : Text} {token : Token} :
    (addCondition condition).token? = some token ↔
      condition.allBlank = false ∧ .raw condition = token := by
  simp [token?]

/-- Only text is taken over with a connective. -/
theorem exists_raw_of_joiner? {c : Call} {token : Token} {j : Connective}
    (htoken : c.token? = some token) (hjoiner : c.joiner? = some j) :
    ∃ text, token = .raw text := by
  cases c with
  | append fragment joiner => exact ⟨_, (Token.recorded?_raw_eq_some.mp htoken).2.symm⟩
  | merge other joiner => exact ⟨_, (Token.recorded?_raw_eq_some.mp htoken).2.symm⟩
  | concat other joiner => exact ⟨_, (Option.some.inj htoken).symm⟩
  | op | inList | addCondition | connective | paren | apply => simp [joiner?] at hjoiner

end Call

/-! ## Tokens -/

namespace Builder

theorem tokens_separated (b : Builder) (joiner : Option Connective) :
    (b.separated joiner).tokens = b.tokens ∨
      ∃ j, joiner = some j ∧ (b.separated joiner).tokens = b.tokens ++ [.connective j] := by
  unfold separated
  dsimp only
  split
  next => exact .inl rfl
  next =>
    cases joiner with
    | none => exact .inl rfl
    | some j =>
        dsimp only
        split
        next => exact .inl rfl
        next => exact .inr ⟨j, rfl, rfl⟩

theorem tokens_append {fragment : Text} {token : Token}
    (h : (Token.raw fragment).recorded? = some token) (b : Builder) (joiner : Option Connective) :
    (b.append fragment joiner).tokens = b.tokens ++ [token] ∨
      ∃ j, joiner = some j ∧
        (b.append fragment joiner).tokens = b.tokens ++ [.connective j, token] := by
  obtain ⟨hblank, rfl⟩ := Token.recorded?_raw_eq_some.mp h
  have htokens : (b.append fragment joiner).tokens =
      (b.separated joiner).tokens ++ [.raw (stripMarker fragment)] := by
    rw [append_of_not_blank hblank]
    rfl
  rcases b.tokens_separated joiner with hsame | ⟨j, hjoiner, hjoined⟩
  · exact .inl (by rw [htokens, hsame])
  · refine .inr ⟨j, hjoiner, ?_⟩
    rw [htokens, hjoined, List.append_assoc]
    rfl

theorem tokens_concat (b other : Builder) (joiner : Option Connective) :
    (b.concat other joiner).tokens = b.tokens ++ [.raw other.group] ∨
      ∃ j, joiner = some j ∧
        (b.concat other joiner).tokens = b.tokens ++ [.connective j, .raw other.group] := by
  unfold concat
  cases joiner with
  | none => exact .inl rfl
  | some j =>
      dsimp only
      split
      next => exact .inl rfl
      next => exact .inr ⟨j, rfl, List.append_assoc ..⟩

end Builder

/-- A call records its token, and at most the connective it is given before
it. -/
theorem Call.tokens_run {c : Call} {token : Token} (h : c.token? = some token) (b : Builder) :
    (c.run b).tokens = b.tokens ++ [token] ∨
      ∃ j, c.joiner? = some j ∧ (c.run b).tokens = b.tokens ++ [.connective j, token] := by
  cases c with
  | op property operator value quoted =>
      obtain ⟨value, rfl, rfl⟩ := Option.map_eq_some_iff.mp h
      exact .inl rfl
  | inList property operator values =>
      obtain ⟨hne, rfl⟩ := Token.recorded?_listCondition_eq_some.mp h
      refine .inl ?_
      change (b.inList property operator values).tokens = _
      unfold Builder.inList
      split
      next hnil => exact absurd hnil hne
      next first rest hpresent =>
        rw [hpresent]
        rfl
  | addCondition condition =>
      obtain ⟨hblank, rfl⟩ := token?_addCondition_eq_some.mp h
      exact .inl (congrArg Builder.tokens (if_neg (by simp [hblank])))
  | connective j =>
      obtain rfl := Option.some.inj h
      exact .inl rfl
  | paren p =>
      obtain rfl := Option.some.inj h
      exact .inl rfl
  | append fragment joiner => exact Builder.tokens_append h b joiner
  | merge other joiner => exact Builder.tokens_append h b joiner
  | concat other joiner =>
      obtain rfl := Option.some.inj h
      exact b.tokens_concat other joiner
  | apply token =>
      refine .inl ?_
      have hrecorded : token.recorded? = some _ := h
      have htokens := b.tokens_apply token
      rwa [hrecorded] at htokens

section Added

variable {p : Token → Prop} (hjoiner : ∀ j, p (.connective j))
include hjoiner

/-- What holds of every connective and of the token of a call holds of all that the
call adds to the tokens. -/
theorem Call.exists_tokens_run {c : Call} (hc : ∀ token ∈ c.token?, p token) (b : Builder) :
    ∃ added, (c.run b).tokens = b.tokens ++ added ∧ ∀ token ∈ added, p token := by
  cases htoken : c.token? with
  | none =>
      rw [c.run_of_isIdle (token?_eq_none_iff.mp htoken)]
      exact ⟨[], (List.append_nil _).symm, List.forall_mem_nil p⟩
  | some token =>
      have htold := List.forall_mem_singleton.mpr (hc token htoken)
      rcases tokens_run htoken b with htokens | ⟨j, -, htokens⟩
      · exact ⟨_, htokens, htold⟩
      · exact ⟨_, htokens, List.forall_mem_cons.mpr ⟨hjoiner j, htold⟩⟩

theorem Builder.exists_tokens_runAll {program : List Call}
    (hprogram : ∀ c ∈ program, ∀ token ∈ c.token?, p token) (b : Builder) :
    ∃ added, (b.runAll program).tokens = b.tokens ++ added ∧ ∀ token ∈ added, p token := by
  induction program generalizing b with
  | nil => exact ⟨[], (List.append_nil _).symm, List.forall_mem_nil p⟩
  | cons c program ih =>
      obtain ⟨hc, hrest⟩ := List.forall_mem_cons.mp hprogram
      obtain ⟨first, hfirst, hpfirst⟩ := c.exists_tokens_run hjoiner hc b
      obtain ⟨more, hmore, hpmore⟩ := ih hrest (c.run b)
      refine ⟨first ++ more, ?_, List.forall_mem_append.mpr ⟨hpfirst, hpmore⟩⟩
      rw [← List.append_assoc, ← hfirst]
      exact hmore

end Added

/-! ## Text -/

namespace Builder

variable {b b' : Builder} {front : Text}

/-- An edit takes off white space at the end of the text at most. -/
theorem Edit.keeps_front (h : b.Edit b') (hlast : ∀ c ∈ front.getLast?, isBlank c = false)
    (hfront : front <+: b.text) : front <+: b'.text := by
  have htrimmed : front <+: b.text.trimEnd := prefix_trimEnd hlast hfront
  cases h with
  | write token => exact hfront.trans (List.prefix_append _ _)
  | join c => exact htrimmed.trans (List.prefix_append _ _)
  | space => exact htrimmed.trans (List.prefix_append _ _)
  | pad => exact hfront.trans (List.prefix_append _ _)

theorem trimEnd_prefix_run (b : Builder) (c : Call) : b.text.trimEnd <+: (c.run b).text :=
  (edits_run b c).keep (fun _ _ hedit => hedit.keeps_front getLast?_trimEnd)
    (trimEnd_isPrefix b.text)

/-! ## Every call -/

/-- A call that has nothing to write does nothing at all. Any other call keeps
the options, the text but for white space at its end, and the tokens: it adds
one token, or, where text is taken over with a connective, text alone or the
connective and the text. -/
theorem run_only_adds (b : Builder) (c : Call) :
    (c.isIdle = true → c.run b = b) ∧
    (c.isIdle = false →
      (c.run b).options = b.options ∧ b.text.trimEnd <+: (c.run b).text ∧
        (c.joiner? = none → ∃ token, (c.run b).tokens = b.tokens ++ [token]) ∧
        ∀ j, c.joiner? = some j → ∃ text,
          (c.run b).tokens = b.tokens ++ [.raw text] ∨
            (c.run b).tokens = b.tokens ++ [.connective j, .raw text]) := by
  refine ⟨fun hidle => c.run_of_isIdle hidle b, fun hbusy => ?_⟩
  obtain ⟨token, htoken⟩ : ∃ token, c.token? = some token := by
    rw [← Option.ne_none_iff_exists', Ne, Call.token?_eq_none_iff, hbusy]
    exact Bool.false_ne_true
  have htokens := Call.tokens_run htoken b
  refine ⟨(edits_run b c).options_eq, b.trimEnd_prefix_run c, fun hnone => ?_, fun j hsome => ?_⟩
  · refine ⟨token, htokens.resolve_right ?_⟩
    rintro ⟨j, hjoiner, -⟩
    rw [hnone] at hjoiner
    cases hjoiner
  · obtain ⟨text, rfl⟩ := Call.exists_raw_of_joiner? htoken hsome
    refine ⟨text, htokens.imp_right ?_⟩
    rintro ⟨k, hjoiner, hjoined⟩
    obtain rfl := Option.some.inj (hsome.symm.trans hjoiner)
    exact hjoined

/-- Behind a connective, a fragment that is blank after the marker does nothing,
and a group still has its own connective recorded. -/
theorem run_only_adds_after_connective :
    (Call.append "Filters=\t\u3000".toList (some .and)).run
        ((ofOptions ⟨true, true⟩).connective .or) = (ofOptions ⟨true, true⟩).connective .or ∧
      ∃ text,
        ((Call.concat (ofOptions ⟨false, true⟩) (some .and)).run
            ((ofOptions ⟨true, true⟩).connective .or)).tokens =
            ((ofOptions ⟨true, true⟩).connective .or).tokens ++ [.raw text] ∨
          ((Call.concat (ofOptions ⟨false, true⟩) (some .and)).run
              ((ofOptions ⟨true, true⟩).connective .or)).tokens =
            ((ofOptions ⟨true, true⟩).connective .or).tokens ++
              [.connective .and, .raw text] := by
  have hidle : (Call.append "Filters=\t\u3000".toList (some .and)).isIdle = true := by
    decide +kernel
  obtain ⟨-, -, -, hjoined⟩ := (run_only_adds ((ofOptions ⟨true, true⟩).connective .or)
    (.concat (ofOptions ⟨false, true⟩) (some .and))).2 rfl
  exact ⟨(run_only_adds _ _).1 hidle, hjoined .and rfl⟩

end Builder

end FilterQuery
