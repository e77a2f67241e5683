import FilterQuery.Builder.Methods
import FilterQuery.Proofs.InStep
import FilterQuery.Proofs.Recording
/-!
# Methods and replay agree

A method named for an operator says for itself whether its value is quoted; a
replay goes by the operator. Both do the same to every builder. So where nobody
chooses the quoting by hand, a pattern operator never gets a bare value: what is
recorded for it is a string, and that string stands quoted in the text.
-/

namespace FilterQuery

open Text

/-! ## One method -/

namespace Builder

/-- Only the values that are there are looked at. -/
theorem inList_eq_apply (b : Builder) (property : Text) (operator : ListOperator)
    (values : List (Option Scalar)) :
    b.inList property operator values =
      b.apply (.listCondition property operator (values.filterMap id)) := by
  rw [apply, inList, inList, filterMap_map_some]

end Builder

/-! ## Patterns are quoted -/

theorem Scalar.exists_stringified_eq (value : Scalar) :
    ∃ text, value.stringified = .string text := by
  cases value with
  | string text => exact ⟨text, rfl⟩
  | boolean | integer | float => exact ⟨_, rfl⟩

/-- Whether a token is no condition of a pattern operator on a bare value. -/
def Token.IsPatternSafe : Token → Prop
  | .condition _ operator value => operator.isPattern = true → ∃ text, value = .string text
  | _ => True

/-- Whether a call writes no such condition. -/
def Call.IsPatternSafe (c : Call) : Prop := ∀ token ∈ c.token?, token.IsPatternSafe

theorem Call.isPatternSafe_op (property : Text) (operator : Operator) (value : Option Scalar) :
    (Call.op property operator value operator.isPattern).IsPatternSafe := by
  intro token htoken
  obtain ⟨value, -, rfl⟩ := Option.map_eq_some_iff.mp htoken
  intro hpattern
  rw [if_pos hpattern]
  exact value.exists_stringified_eq

/-- What a replay records is safe, whatever is replayed. -/
theorem Token.isPatternSafe_of_recorded? (token : Token) {recorded : Token}
    (h : token.recorded? = some recorded) : recorded.IsPatternSafe := by
  cases token with
  | condition property operator value =>
      exact Call.isPatternSafe_op property operator (some value) recorded h
  | listCondition =>
      obtain ⟨-, rfl⟩ := recorded?_listCondition_eq_some.mp h
      trivial
  | connective | paren =>
      obtain rfl := Option.some.inj h
      trivial
  | raw =>
      obtain ⟨-, rfl⟩ := recorded?_raw_eq_some.mp h
      trivial

/-- Only `op` leaves the quoting to its caller. -/
theorem Call.isPatternSafe_of_ne_op {c : Call}
    (h : ∀ property operator value quoted, c ≠ .op property operator value quoted) :
    c.IsPatternSafe := by
  intro token htoken
  cases c with
  | op property operator value quoted => exact absurd rfl (h property operator value quoted)
  | inList property operator values =>
      exact Token.isPatternSafe_of_recorded? (.listCondition property operator _) htoken
  | append fragment joiner => exact Token.isPatternSafe_of_recorded? (.raw fragment) htoken
  | merge other joiner => exact Token.isPatternSafe_of_recorded? (.raw other.text) htoken
  | apply token => exact token.isPatternSafe_of_recorded? htoken
  | addCondition condition =>
      obtain ⟨-, rfl⟩ := token?_addCondition_eq_some.mp htoken
      trivial
  | connective | paren | concat =>
      obtain rfl := Option.some.inj htoken
      trivial

namespace Builder

theorem isPatternSafe_runAll {b : Builder} (hb : ∀ token ∈ b.tokens, token.IsPatternSafe)
    {program : List Call} (hprogram : ∀ c ∈ program, c.IsPatternSafe) :
    ∀ token ∈ (b.runAll program).tokens, token.IsPatternSafe := by
  obtain ⟨added, htokens, hadded⟩ := exists_tokens_runAll (fun _ => trivial) hprogram b
  rw [htokens]
  exact List.forall_mem_append.mpr ⟨hb, hadded⟩

/-- The builders that are reached from new ones without choosing the quoting of a
value by hand: by the methods named for operators, by replaying any tokens, by
connectives and parentheses, and by taking over any text or builder. -/
inductive IsMethodical : Builder → Prop
  | new (options : Options) : IsMethodical (ofOptions options)
  | value {b : Builder} {operator : Operator} {method : Builder → Text → Option Scalar → Builder} :
      IsMethodical b → (operator, method) ∈ valueMethods → (property : Text) →
        (value : Option Scalar) → IsMethodical (method b property value)
  | count {b : Builder} {operator : Operator} {method : Builder → Text → Option Int64 → Builder} :
      IsMethodical b → (operator, method) ∈ countMethods → (property : Text) →
        (count : Option Int64) → IsMethodical (method b property count)
  | list {b : Builder} {operator : ListOperator}
      {method : Builder → Text → List (Option Scalar) → Builder} :
      IsMethodical b → (operator, method) ∈ listMethods → (property : Text) →
        (values : List (Option Scalar)) → IsMethodical (method b property values)
  | apply {b : Builder} : IsMethodical b → (token : Token) → IsMethodical (b.apply token)
  | connective {b : Builder} : IsMethodical b → (c : Connective) → IsMethodical (b.connective c)
  | paren {b : Builder} : IsMethodical b → (p : Paren) → IsMethodical (b.paren p)
  | append {b : Builder} : IsMethodical b → (fragment : Text) → (joiner : Option Connective) →
      IsMethodical (b.append fragment joiner)
  | merge {b : Builder} : IsMethodical b → (other : Builder) → (joiner : Option Connective) →
      IsMethodical (b.merge other joiner)
  | concat {b : Builder} : IsMethodical b → (other : Builder) → (joiner : Option Connective) →
      IsMethodical (b.concat other joiner)

/-- Such a builder is what a program of safe calls makes. -/
theorem IsMethodical.exists_runAll {b : Builder} (h : b.IsMethodical) :
    ∃ options program, b = (ofOptions options).runAll program ∧
      ∀ c ∈ program, c.IsPatternSafe := by
  have hstep {b : Builder} (hb : ∃ options program, b = (ofOptions options).runAll program ∧
      ∀ c ∈ program, c.IsPatternSafe) (c : Call) (hc : c.IsPatternSafe) :
      ∃ options program, c.run b = (ofOptions options).runAll program ∧
        ∀ c ∈ program, c.IsPatternSafe := by
    obtain ⟨options, program, rfl, hprogram⟩ := hb
    refine ⟨options, program ++ [c], (runAll_append _ program [c]).symm, ?_⟩
    exact List.forall_mem_append.mpr ⟨hprogram, List.forall_mem_singleton.mpr hc⟩
  induction h with
  | new options => exact ⟨options, [], rfl, fun c hc => absurd hc List.not_mem_nil⟩
  | @value b operator method _ hmethod property value ih =>
      rw [valueMethod_eq_op hmethod]
      exact hstep ih (.op property operator value _) (Call.isPatternSafe_op _ _ _)
  | @count b operator method _ hmethod property count ih =>
      rw [countMethod_eq_op hmethod]
      exact hstep ih (.op property operator _ _) (Call.isPatternSafe_op _ _ _)
  | @list b operator method _ hmethod property values ih =>
      rw [listMethod_eq_inList hmethod]
      exact hstep ih (.inList property operator values) (Call.isPatternSafe_of_ne_op (by simp))
  | apply _ token ih => exact hstep ih (.apply token) (Call.isPatternSafe_of_ne_op (by simp))
  | connective _ c ih => exact hstep ih (.connective c) (Call.isPatternSafe_of_ne_op (by simp))
  | paren _ p ih => exact hstep ih (.paren p) (Call.isPatternSafe_of_ne_op (by simp))
  | append _ fragment joiner ih =>
      exact hstep ih (.append fragment joiner) (Call.isPatternSafe_of_ne_op (by simp))
  | merge _ other joiner ih =>
      exact hstep ih (.merge other joiner) (Call.isPatternSafe_of_ne_op (by simp))
  | concat _ other joiner ih =>
      exact hstep ih (.concat other joiner) (Call.isPatternSafe_of_ne_op (by simp))

theorem isPatternSafe_ofOptions (options : Options) :
    ∀ token ∈ (ofOptions options).tokens, token.IsPatternSafe := by
  rw [tokens_ofOptions, Options.leadTokens]
  split
  next => exact List.forall_mem_singleton.mpr trivial
  next => exact fun token htoken => absurd htoken List.not_mem_nil

/-- A condition on a string ends with a quote, so trimming leaves it. -/
theorem trimEnd_renderCondition_string (property : Text) (operator : Operator) (text : Text) :
    trimEnd (renderCondition property operator (.string text)) =
      renderCondition property operator (.string text) := by
  refine trimEnd_eq_self fun c hc => ?_
  have hends : renderCondition property operator (.string text) =
      property ++ ' ' :: operator.literal ++ ' ' :: '"' :: escape text ++ ['"'] := by
    simp [renderCondition, Scalar.render, quote]
  rw [hends, List.getLast?_concat] at hc
  obtain rfl := Option.some.inj hc
  decide

/-- In a builder that is reached without choosing the quoting by hand, a condition
of a pattern operator is one on a string. It is written with the string quoted,
and so it stands in the text. -/
theorem IsMethodical.exists_string {b : Builder} (h : b.IsMethodical) {property : Text}
    {operator : Operator} {value : Scalar} (hmem : .condition property operator value ∈ b.tokens)
    (hpattern : operator.isPattern = true) :
    ∃ text, value = .string text ∧
      (Token.condition property operator value).render =
        property ++ ' ' :: operator.literal ++ ' ' :: quote text ∧
      property ++ ' ' :: operator.literal ++ ' ' :: quote text <:+: b.text := by
  obtain ⟨options, program, rfl, hprogram⟩ := h.exists_runAll
  obtain ⟨text, rfl⟩ :=
    isPatternSafe_runAll (isPatternSafe_ofOptions options) hprogram _ hmem hpattern
  have hshown := showsTokens_runAll options program _ hmem
  rw [Token.render, trimEnd_renderCondition_string] at hshown
  exact ⟨text, rfl, rfl, hshown⟩

/-- Every operator has a method that is named for it. Such a method does what
replaying a condition with that operator does, for any property and any value, and
a method for lists what replaying the values that are there does. So in a builder
that is reached without choosing the quoting by hand, every condition of a pattern
operator holds a string, is written with the string quoted, and stands so in the
text. -/
theorem methods_eq_apply :
    (∀ operator : Operator, (∃ method, (operator, method) ∈ valueMethods) ∨
      (∃ method, (operator, method) ∈ countMethods) ∨
      ∃ (list : ListOperator) (method : _), list.toOperator = operator ∧
        (list, method) ∈ listMethods) ∧
    (∀ (b : Builder) (property : Text),
      (∀ entry ∈ valueMethods, ∀ value,
        entry.2 b property (some value) = b.apply (.condition property entry.1 value)) ∧
      (∀ entry ∈ countMethods, ∀ count,
        entry.2 b property (some count) = b.apply (.condition property entry.1 (.integer count))) ∧
      ∀ entry ∈ listMethods, ∀ values,
        entry.2 b property values =
          b.apply (.listCondition property entry.1 (values.filterMap id))) ∧
    ∀ b : Builder, b.IsMethodical → ∀ property operator value,
      .condition property operator value ∈ b.tokens → operator.isPattern = true →
        ∃ text, value = .string text ∧
          (Token.condition property operator value).render =
            property ++ ' ' :: operator.literal ++ ' ' :: quote text ∧
          property ++ ' ' :: operator.literal ++ ' ' :: quote text <:+: b.text := by
  refine ⟨exists_method, fun b property => ⟨fun entry hentry value => ?_,
    fun entry hentry count => ?_, fun entry hentry values => ?_⟩,
    fun b h property operator value => h.exists_string⟩
  · exact valueMethod_eq_op hentry b (some value)
  · exact countMethod_eq_op hentry b (some count)
  · rw [listMethod_eq_inList hentry, inList_eq_apply]

/-- A number for a pattern operator, a second name of a count, a list with values
that are not there, and a pattern that is replayed and has another group behind it. -/
theorem methods_eq_apply_patterns :
    (ofOptions ⟨false, true⟩).contains "Code".toList (some (.integer 42)) =
        (ofOptions ⟨false, true⟩).apply (.condition "Code".toList .contains (.integer 42)) ∧
    (ofOptions {}).equalsCaseCount "Tags".toList (some 3) =
        (ofOptions {}).apply (.condition "Tags".toList .countEquals (.integer 3)) ∧
    (ofOptions {}).isNotIn "City".toList [none, some (.string "Oslo".toList), none] =
        (ofOptions {}).apply
          (.listCondition "City".toList .isNotIn [.string "Oslo".toList]) ∧
    ∃ text, Scalar.string "true".toList = .string text ∧
      (Token.condition "Flag".toList .doesNotSoundLike (.string "true".toList)).render =
        "Flag".toList ++ ' ' :: Operator.doesNotSoundLike.literal ++ ' ' :: quote text ∧
      "Flag".toList ++ ' ' :: Operator.doesNotSoundLike.literal ++ ' ' :: quote text <:+:
        (((ofOptions ⟨false, true⟩).apply
          (.condition "Flag".toList .doesNotSoundLike (.boolean true))).concat
            ((ofOptions {}).connective .and) (some .or)).text := by
  obtain ⟨-, hmethods, hquoted⟩ := methods_eq_apply
  have hlist := (hmethods (ofOptions {}) "City".toList).2.2 (.isNotIn, isNotIn)
    (by simp [listMethods]) [none, some (.string "Oslo".toList), none]
  refine ⟨(hmethods _ _).1 (.contains, contains) ?_ _,
    (hmethods _ _).2.1 (.countEquals, equalsCaseCount) ?_ _, hlist,
    hquoted _ ?_ _ .doesNotSoundLike _ ?_ rfl⟩
  · simp [valueMethods]
  · simp [countMethods]
  · exact .concat (.apply (.new _) _) _ _
  · exact List.mem_cons_of_mem _ List.mem_cons_self

end Builder

end FilterQuery
