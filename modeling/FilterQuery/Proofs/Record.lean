import FilterQuery.Proofs.Replay
/-!
# Records

A builder keeps a record if its tokens have the lexemes of its text, in order.
Tokens are stable if a replay records them as they are and writes the lexemes
they stand for, wherever it does so. Replaying the stable tokens of a record
makes a builder with the same record, though the spaces in the text may not be
the same.
-/

namespace FilterQuery

open Text

/-! ## Stable tokens -/

/-- The lexemes that a token stands for. -/
def Token.contents : Token → List Content
  | .condition property operator value => conditionContents property operator value
  | .listCondition property operator values => listConditionContents property operator values
  | .connective c => [(.connective c, c.literal)]
  | .paren p => [(.paren p, p.literal)]
  | .raw text => FilterQuery.contents text

/-- A token that a replay records as it is and that has the lexemes it stands
for whatever it is written after. -/
inductive Token.IsStable : Token → Prop
  | condition {property : Text} {operator : Operator} {value : Scalar} : IsName property →
      (operator.isPattern = true → value.stringified = value) →
        IsStable (.condition property operator value)
  | listCondition {property : Text} (operator : ListOperator) {values : List Scalar} :
      IsName property → values ≠ [] → HasWordStrings values →
        IsStable (.listCondition property operator values)
  | connective (c : Connective) : IsStable (.connective c)
  | paren (p : Paren) : IsStable (.paren p)
  | raw {text : Text} : IsPiece text (FilterQuery.contents text) → text.allBlank = false →
      Unmarked (FilterQuery.contents text) → EndsClear (FilterQuery.contents text) →
        IsStable (.raw text)

namespace Token.IsStable

variable {token : Token}

theorem isPiece_of_raw {text : Text} (h : IsStable (.raw text)) :
    IsPiece text (FilterQuery.contents text) := by
  cases h with
  | raw hpiece => exact hpiece

theorem unmarked_contents (h : token.IsStable) : Unmarked token.contents := by
  cases h with
  | condition hname _ => exact unmarked_cons.mpr hname.no_marker
  | listCondition operator hname _ _ => exact unmarked_cons.mpr hname.no_marker
  | connective c => cases c <;> exact unmarked_cons.mpr (by decide)
  | paren p => cases p <;> exact unmarked_cons.mpr (by decide)
  | raw _ _ hunmarked _ => exact hunmarked

theorem endsClear_contents (h : token.IsStable) : EndsClear token.contents := by
  cases h with
  | @condition property operator value _ _ =>
      have hkind : value.lexemeKind.isConnective = false := by cases value <;> rfl
      exact .concat hkind value.isClear_render [_, _]
  | listCondition operator _ _ _ => exact .concat rfl (isClear_listLiteral _) [_, _]
  | connective c => exact .connective c
  | paren p =>
      refine .concat rfl ?_ []
      cases p <;> exact isClear_concat (by decide) []
  | raw _ _ _ hclear => exact hclear

end Token.IsStable

/-! ## Records -/

theorem EndsClear.lead (options : Options) : EndsClear options.lead := by
  unfold Options.lead
  split
  next => exact .concat rfl (isClear_concat (by decide) "Filters".toList) []
  next => simp [EndsClear, undangled]

/-- The tokens after those of the options are these, they are stable, and the
text has their lexemes after those of the options. -/
structure Builder.IsRecord (b : Builder) (tokens : List Token) : Prop where
  tokens_eq : b.tokens = b.options.leadTokens ++ tokens
  isPiece : IsPiece b.text (b.options.lead ++ tokens.flatMap Token.contents)
  stable : ∀ token ∈ tokens, token.IsStable

namespace Builder.IsRecord

variable {b other : Builder} {tokens more : List Token} {token : Token}

theorem unmarked (h : b.IsRecord tokens) : Unmarked (tokens.flatMap Token.contents) :=
  unmarked_flatMap fun t ht => (h.stable t ht).unmarked_contents

theorem endsClear (h : b.IsRecord tokens) : EndsClear (FilterQuery.contents b.text) := by
  rw [h.isPiece.contents_eq]
  exact (EndsClear.lead b.options).append
    (.flatMap fun t ht => (h.stable t ht).endsClear_contents)

theorem ofOptions (options : Options) : (ofOptions options).IsRecord [] where
  tokens_eq := by rw [tokens_ofOptions, options_ofOptions, List.append_nil]
  isPiece := by
    rw [options_ofOptions, List.flatMap_nil, List.append_nil]
    exact isPiece_ofOptions options
  stable := by simp

/-- One more token, with its lexemes at the end of the text. -/
theorem extend {b' : Builder} (h : b.IsRecord tokens) (hoptions : b'.options = b.options)
    (htokens : b'.tokens = b.tokens ++ [token])
    (hpiece : IsPiece b'.text
      (b.options.lead ++ tokens.flatMap Token.contents ++ token.contents))
    (htoken : token.IsStable) : b'.IsRecord (tokens ++ [token]) where
  tokens_eq := by rw [htokens, h.tokens_eq, hoptions, List.append_assoc]
  isPiece := by
    rw [hoptions, List.flatMap_append, List.flatMap_singleton, ← List.append_assoc]
    exact hpiece
  stable := List.forall_mem_append.mpr ⟨h.stable, List.forall_mem_singleton.mpr htoken⟩

theorem push (h : b.IsRecord tokens) {piece : Text} (hpiece : IsPiece piece token.contents)
    (htoken : token.IsStable) : (b.push piece token).IsRecord (tokens ++ [token]) :=
  h.extend rfl rfl (h.isPiece.append hpiece) htoken

theorem condition (h : b.IsRecord tokens) {property : Text} (hname : IsName property)
    {operator : Operator} {value : Scalar}
    (hvalue : operator.isPattern = true → value.stringified = value) :
    (b.push (renderCondition property operator value ++ [' '])
      (.condition property operator value)).IsRecord
        (tokens ++ [.condition property operator value]) :=
  h.push (isPiece_renderCondition hname.toIsBareword operator value) (.condition hname hvalue)

theorem listCondition (h : b.IsRecord tokens) {property : Text} (hname : IsName property)
    (operator : ListOperator) {values : List Scalar} (hne : values ≠ [])
    (hvalues : HasWordStrings values) :
    (b.push (renderListCondition property operator values ++ [' '])
      (.listCondition property operator values)).IsRecord
        (tokens ++ [.listCondition property operator values]) :=
  h.push (isPiece_renderListCondition hname.toIsBareword operator hvalues)
    (.listCondition operator hname hne hvalues)

theorem connective (h : b.IsRecord tokens) (c : Connective) :
    (b.connective c).IsRecord (tokens ++ [.connective c]) :=
  h.extend rfl rfl (isPiece_connective_call h.isPiece c) (.connective c)

theorem paren (h : b.IsRecord tokens) (p : Paren) :
    (b.paren p).IsRecord (tokens ++ [.paren p]) :=
  h.push (isPiece_paren p) (.paren p)

theorem spaced (h : b.IsRecord tokens) : b.spaced.IsRecord tokens :=
  ⟨h.tokens_eq, isPiece_spaced h.isPiece, h.stable⟩

theorem separated_none (h : b.IsRecord tokens) : (b.separated none).IsRecord tokens := by
  unfold Builder.separated
  dsimp only
  split
  next => exact h
  next => exact h.spaced

/-- A space at the end is no lexeme. -/
theorem pad (h : b.IsRecord tokens) :
    Builder.IsRecord { b with text := b.text ++ [' '] } tokens :=
  ⟨h.tokens_eq, h.isPiece.append_space, h.stable⟩

/-! ## Replaying a stable token -/

/-- A stable token is recorded as it is. -/
theorem apply (h : b.IsRecord tokens) (htoken : token.IsStable) :
    (b.apply token).IsRecord (tokens ++ [token]) := by
  cases htoken with
  | @condition property operator value hname hvalue =>
      have hrecorded : (if operator.isPattern then value.stringified else value) = value := by
        split
        next hpattern => exact hvalue hpattern
        next => rfl
      have hop := h.condition hname hvalue
      simp only [Builder.apply, Builder.op, hrecorded]
      exact hop
  | @listCondition property operator values hname hne hvalues =>
      change (b.inList property operator (values.map some)).IsRecord _
      rw [inList_present b property operator hne]
      exact h.listCondition hname operator hne hvalues
  | connective c => exact h.connective c
  | paren p => exact h.paren p
  | @raw text hpiece hblank hunmarked hclear =>
      have hstrip := stripMarker_eq_self (not_marker_prefix_of_unmarked hunmarked)
      have happend : (b.append text none).IsRecord (tokens ++ [.raw text]) := by
        rw [append_of_not_blank (by rwa [hstrip]), hstrip]
        exact h.separated_none.push hpiece (.raw hpiece hblank hunmarked hclear)
      change (b.replayRaw text).IsRecord _
      unfold Builder.replayRaw
      dsimp only
      split
      next => exact happend.pad
      next => exact happend

/-- Replaying stable tokens records them as they are. -/
theorem foldl_apply (h : b.IsRecord tokens) (hmore : ∀ token ∈ more, token.IsStable) :
    (more.foldl Builder.apply b).IsRecord (tokens ++ more) := by
  induction more generalizing b tokens with
  | nil => rwa [List.append_nil]
  | cons token more ih =>
      obtain ⟨htoken, hrest⟩ := List.forall_mem_cons.mp hmore
      rw [← List.singleton_append, ← List.append_assoc]
      exact ih (h.apply htoken) hrest

/-- Replaying the tokens of a record gives a builder with the same record. -/
theorem ofTokens (h : b.IsRecord tokens) :
    (ofTokens b.options b.tokens).IsRecord tokens := by
  rw [h.tokens_eq, ofTokens_leadTokens_append]
  exact (IsRecord.ofOptions b.options).foldl_apply h.stable

/-- The finished query has the lexemes of the record, without the connectives at
its end. -/
theorem contents_plainQuery (h : b.IsRecord tokens) :
    FilterQuery.contents b.plainQuery =
      undangled (b.options.lead ++ tokens.flatMap Token.contents) := by
  rw [contents_plainQuery_eq_undangled h.endsClear, h.isPiece.contents_eq]

/-! ## Taking over a builder -/

/-- The text of a builder without the marker, as text to take over. -/
theorem isPiece_stripMarker (h : other.IsRecord more) (hled : other.IsLed) :
    IsPiece (stripMarker other.text) (more.flatMap Token.contents) :=
  h.isPiece.stripMarker hled.isFlush h.unmarked

theorem isStable_raw_stripMarker (h : other.IsRecord more) (hled : other.IsLed)
    (hblank : (stripMarker other.text).allBlank = false) :
    Token.IsStable (.raw (stripMarker other.text)) := by
  have hpiece := h.isPiece_stripMarker hled
  have hclear := EndsClear.of_append_right (h.isPiece.contents_eq ▸ h.endsClear)
  have hunmarked := h.unmarked
  have hcontents := hpiece.contents_eq
  rw [← hcontents] at hpiece hclear hunmarked
  exact .raw hpiece hblank hunmarked hclear

theorem exists_separated (h : b.IsRecord tokens) (joiner : Option Connective) :
    ∃ written, (b.separated joiner).IsRecord written := by
  cases joiner with
  | none => exact ⟨tokens, h.separated_none⟩
  | some c =>
      unfold Builder.separated
      dsimp only
      split
      next => exact ⟨tokens, h⟩
      next =>
        split
        next => exact ⟨tokens, h.spaced⟩
        next => exact ⟨_, h.connective c⟩

theorem exists_merge (h : b.IsRecord tokens) (hother : other.IsRecord more) (hled : other.IsLed)
    (joiner : Option Connective) : ∃ written, (b.merge other joiner).IsRecord written := by
  cases hblank : (stripMarker other.text).allBlank with
  | true => exact ⟨tokens, by rwa [Builder.merge, append_of_blank hblank]⟩
  | false =>
      obtain ⟨written, hwritten⟩ := h.exists_separated joiner
      have hstable := hother.isStable_raw_stripMarker hled hblank
      refine ⟨written ++ [.raw (stripMarker other.text)], ?_⟩
      rw [Builder.merge, append_of_not_blank hblank]
      exact hwritten.push hstable.isPiece_of_raw hstable

/-- The group of a builder, as text that is taken over. -/
theorem isStable_raw_group (hother : other.IsRecord more) :
    Token.IsStable (.raw other.group) := by
  have hpiece := isPiece_group hother.isPiece hother.unmarked
  have hgroup := hpiece.contents_eq
  refine .raw (hgroup ▸ hpiece) (by simp [group, allBlank, isBlank, blankRanges]) ?_ ?_
  · rw [hgroup]
    exact unmarked_cons.mpr (by decide)
  · rw [hgroup]
    exact .concat rfl (isClear_concat (by decide) []) _

theorem exists_concat (h : b.IsRecord tokens) (hother : other.IsRecord more)
    (joiner : Option Connective) : ∃ written, (b.concat other joiner).IsRecord written := by
  have hstable := hother.isStable_raw_group
  have hgroup := hstable.isPiece_of_raw.append_space
  cases joiner with
  | none => exact ⟨_, h.push hgroup hstable⟩
  | some c =>
      unfold Builder.concat
      dsimp only
      split
      next => exact ⟨_, h.push hgroup hstable⟩
      next => exact ⟨_, (h.connective c).push hgroup hstable⟩

/-- A method records what a replay records: the string of a value if its
operator matches patterns. -/
theorem exists_op (h : b.IsRecord tokens) {property : Text} (hname : IsName property)
    (operator : Operator) (value : Option Scalar) :
    ∃ written, (b.op property operator value operator.isPattern).IsRecord written := by
  cases value with
  | none => exact ⟨tokens, h⟩
  | some value =>
      refine ⟨_, h.condition hname fun hpattern => ?_⟩
      rw [if_pos hpattern, Scalar.stringified_stringified]

theorem exists_inList (h : b.IsRecord tokens) {property : Text} (hname : IsName property)
    (operator : ListOperator) {values : List (Option Scalar)}
    (hvalues : HasWordStrings (values.filterMap id)) :
    ∃ written, (b.inList property operator values).IsRecord written := by
  unfold Builder.inList
  split
  next => exact ⟨tokens, h⟩
  next value rest hpresent =>
    rw [hpresent] at hvalues
    exact ⟨_, h.listCondition hname operator (List.cons_ne_nil _ _) hvalues⟩

end Builder.IsRecord

end FilterQuery
