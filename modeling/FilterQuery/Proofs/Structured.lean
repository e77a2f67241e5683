import FilterQuery.Proofs.Writing
/-!
# What structured calls are read back as

A structured call writes conditions, connectives and parentheses only. The
lexemes of a finished query are those that its calls stand for, one call after
the other, without the connectives at the end: nothing runs together and nothing
falls apart, in whatever order the calls are made.
-/

namespace FilterQuery

/-- Calls that write a condition on a name, a connective or a parenthesis; the
strings in a list are words. -/
inductive Call.IsStructured : Call → Prop
  | op {property : Text} (operator : Operator) (value : Option Scalar) (quoted : Bool) :
      IsName property → IsStructured (.op property operator value quoted)
  | inList {property : Text} (operator : ListOperator) {values : List (Option Scalar)} :
      IsName property → HasWordStrings (values.filterMap id) →
        IsStructured (.inList property operator values)
  | connective (c : Connective) : IsStructured (.connective c)
  | paren (p : Paren) : IsStructured (.paren p)

/-- The lexemes that a structured call stands for. -/
def Call.contents : Call → List Content
  | .op property operator (some value) quoted =>
      conditionContents property operator (if quoted then value.stringified else value)
  | .inList property operator values =>
      if values.filterMap id = [] then []
      else listConditionContents property operator (values.filterMap id)
  | .connective c => [(.connective c, c.literal)]
  | .paren p => [(.paren p, p.literal)]
  | _ => []

/-- Whether a call stands for connectives only, or for nothing. -/
def Call.isDangling (c : Call) : Bool := c.contents.all fun content => content.1.isConnective

namespace Call

variable {c : Call} {b : Builder} {read : List Content}

theorem contents_inList_of_isEmpty (property : Text) (operator : ListOperator)
    {values : List (Option Scalar)} (h : values.filterMap id = []) :
    (inList property operator values).contents = [] := if_pos h

theorem contents_inList (property : Text) (operator : ListOperator)
    {values : List (Option Scalar)} (h : values.filterMap id ≠ []) :
    (inList property operator values).contents =
      listConditionContents property operator (values.filterMap id) := if_neg h

/-- A structured call adds its lexemes to those of a builder. -/
theorem isPiece_run (hstructured : c.IsStructured) (h : IsPiece b.text read) :
    IsPiece (c.run b).text (read ++ c.contents) := by
  cases hstructured with
  | op operator value quoted hname =>
      cases value with
      | none =>
          change IsPiece b.text (read ++ [])
          rwa [List.append_nil]
      | some value => exact Builder.isPiece_op h hname.toIsBareword operator value quoted
  | @inList property operator values hname hvalues =>
      by_cases hne : values.filterMap id = []
      · rw [contents_inList_of_isEmpty property operator hne, List.append_nil]
        change IsPiece (b.inList property operator values).text read
        rwa [Builder.inList_of_isEmpty hne]
      · rw [contents_inList property operator hne]
        exact Builder.isPiece_inList h hname.toIsBareword operator hne hvalues
  | connective j => exact Builder.isPiece_connective_call h j
  | paren p => exact Builder.isPiece_paren_call h p

theorem unmarked_contents (hstructured : c.IsStructured) : Unmarked c.contents := by
  cases hstructured with
  | op operator value quoted hname =>
      cases value with
      | none => simp [Unmarked, contents]
      | some value => exact unmarked_cons.mpr hname.no_marker
  | @inList property operator values hname _ =>
      by_cases hne : values.filterMap id = []
      · simp [contents_inList_of_isEmpty property operator hne, Unmarked]
      · rw [contents_inList property operator hne]
        exact unmarked_cons.mpr hname.no_marker
  | connective j => cases j <;> exact unmarked_cons.mpr (by decide)
  | paren p => cases p <;> exact unmarked_cons.mpr (by decide)

/-- A call that stands for no more than connectives has no part in the finished
query when it comes last. -/
theorem plainQuery_run_of_isDangling (hstructured : c.IsStructured) (h : c.isDangling = true)
    (b : Builder) : (c.run b).plainQuery = b.plainQuery := by
  cases hstructured with
  | op operator value quoted _ =>
      cases value with
      | none => rfl
      | some value => simp [isDangling, contents, conditionContents, LexemeKind.isConnective] at h
  | @inList property operator values _ _ =>
      by_cases hne : values.filterMap id = []
      · exact congrArg Builder.plainQuery (Builder.inList_of_isEmpty hne b property operator)
      · rw [isDangling, contents_inList property operator hne] at h
        simp [listConditionContents, LexemeKind.isConnective] at h
  | connective j => exact Builder.plainQuery_connective b j
  | paren p => simp [isDangling, contents, LexemeKind.isConnective] at h

theorem contents_ne_nil (h : c.isDangling = false) : c.contents ≠ [] := by
  intro hnil
  rw [isDangling, hnil] at h
  exact absurd h.symm Bool.false_ne_true

/-- A call that stands for more than connectives does not end like one. -/
theorem clear_contents (h : c.isDangling = false) :
    ∀ content ∈ c.contents.getLast?, IsClear content.2 := by
  intro content hcontent
  cases c with
  | op property operator value quoted =>
      cases value with
      | none => simp [contents] at hcontent
      | some value =>
          obtain rfl := Option.some.inj hcontent
          exact Scalar.isClear_render _
  | inList property operator values =>
      by_cases hne : values.filterMap id = []
      · simp [contents_inList_of_isEmpty property operator hne] at hcontent
      · rw [contents_inList property operator hne] at hcontent
        obtain rfl := Option.some.inj hcontent
        exact isClear_listLiteral _
  | connective j => simp [isDangling, contents, LexemeKind.isConnective] at h
  | paren p =>
      obtain rfl := Option.some.inj hcontent
      cases p <;> exact isClear_concat (by decide) []
  | addCondition => simp [contents] at hcontent
  | append => simp [contents] at hcontent
  | merge => simp [contents] at hcontent
  | concat => simp [contents] at hcontent
  | apply => simp [contents] at hcontent

end Call

/-! ## Programs of structured calls -/

variable {program : List Call}

theorem unmarked_flatMap_contents (h : ∀ c ∈ program, c.IsStructured) :
    Unmarked (program.flatMap Call.contents) :=
  unmarked_flatMap fun c hc => Call.unmarked_contents (h c hc)

/-- The part of a program that can be seen in the finished query. -/
def visible (program : List Call) : List Call := program.rdropWhile Call.isDangling

theorem isStructured_of_mem_visible (h : ∀ c ∈ program, c.IsStructured) :
    ∀ c ∈ visible program, c.IsStructured :=
  fun c hc => h c ((List.rdropWhile_prefix _ program).subset hc)

namespace Builder

theorem isPiece_runAll (h : ∀ c ∈ program, c.IsStructured) {b : Builder} {read : List Content}
    (hpiece : IsPiece b.text read) :
    IsPiece (b.runAll program).text (read ++ program.flatMap Call.contents) := by
  induction program generalizing b read with
  | nil => simpa [runAll] using hpiece
  | cons c program ih =>
      obtain ⟨hc, hprogram⟩ := List.forall_mem_cons.mp h
      have hrest := ih hprogram (Call.isPiece_run hc hpiece)
      rwa [List.append_assoc, ← List.flatMap_cons] at hrest

/-- The finished query is that of the visible part. The induction takes calls
off the end. -/
theorem plainQuery_runAll_visible (h : ∀ c ∈ program, c.IsStructured) (b : Builder) :
    (b.runAll (visible program)).plainQuery = (b.runAll program).plainQuery := by
  induction program using List.reverseRecOn with
  | nil => rfl
  | append_singleton program c ih =>
      rw [List.forall_mem_append, List.forall_mem_singleton] at h
      cases hdangling : c.isDangling with
      | true =>
          rw [visible, List.rdropWhile_concat_pos _ _ c hdangling, runAll_append]
          exact (ih h.1).trans (Call.plainQuery_run_of_isDangling h.2 hdangling _).symm
      | false =>
          -- The last call can be seen, so all of them are kept.
          rw [visible, List.rdropWhile_concat_neg _ _ c (by simp [hdangling])]

/-- The last lexeme of a query whose calls can all be seen does not end like a
connective; if there are no calls, it is the marker. -/
theorem clear_visible (options : Options) (program : List Call) :
    ∀ content ∈ (options.lead ++ (visible program).flatMap Call.contents).getLast?,
      IsClear content.2 := by
  rcases List.eq_nil_or_concat (visible program) with hnil | ⟨init, c, hconcat⟩
  · intro content hcontent
    rw [hnil, List.flatMap_nil, List.append_nil] at hcontent
    have hmarker := Options.eq_of_mem_lead (List.mem_of_mem_getLast? hcontent)
    rw [hmarker]
    exact isClear_concat (by decide) "Filters".toList
  · have hne : visible program ≠ [] := by simp [hconcat]
    have hlast : (visible program).getLast hne = c := by simp [hconcat]
    have hc : c.isDangling = false := by
      rw [Bool.eq_false_iff, ← hlast]
      exact List.rdropWhile_last_not Call.isDangling program hne
    rw [hconcat, List.concat_eq_append, List.flatMap_append, List.flatMap_singleton,
      ← List.append_assoc, List.getLast?_append_of_ne_nil _ (Call.contents_ne_nil hc)]
    exact Call.clear_contents hc

end Builder

/-- The lexemes of a finished query are the marker, if there is one, and those
that the visible calls stand for. -/
theorem contents_build {options : Options} (hplain : options.encodeUri = false)
    (h : ∀ c ∈ program, c.IsStructured) :
    contents ((Builder.ofOptions options).runAll program).build =
      options.lead ++ (visible program).flatMap Call.contents := by
  rw [Builder.build_runAll hplain, ← Builder.plainQuery_runAll_visible h]
  have hpiece := Builder.isPiece_runAll (isStructured_of_mem_visible h)
    (Builder.isPiece_ofOptions options)
  exact Builder.contents_plainQuery hpiece (Builder.clear_visible options program)

end FilterQuery
