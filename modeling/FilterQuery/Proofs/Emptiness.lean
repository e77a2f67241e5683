import FilterQuery.Proofs.InStep
import FilterQuery.Proofs.Recording
/-!
# The marker and emptiness

A builder that was made with the marker begins with it at any time, in its text
and in its tokens. Every token that a call records has a text that is not blank,
and text and tokens are in step, so a builder is empty exactly as long as no
call has recorded a token.
-/

namespace FilterQuery

open Text

/-! ## Tokens are visible -/

theorem allBlank_renderCondition (property : Text) (operator : Operator) (value : Scalar) :
    (renderCondition property operator value).allBlank = false := by
  have hoperator : operator.literal.allBlank = false := by cases operator <;> decide
  simp only [allBlank] at hoperator ⊢
  simp [renderCondition, hoperator]

theorem allBlank_renderListCondition (property : Text) (operator : ListOperator)
    (values : List Scalar) : (renderListCondition property operator values).allBlank = false := by
  have hbracket : isBlank '[' = false := by decide
  simp [renderListCondition, allBlank, hbracket]

/-- What a replay records is not blank. -/
theorem Token.allBlank_render_of_recorded? {token recorded : Token}
    (h : token.recorded? = some recorded) : recorded.render.allBlank = false := by
  cases token with
  | condition property operator value =>
      obtain rfl := Option.some.inj h
      exact allBlank_renderCondition property operator _
  | listCondition property operator values =>
      obtain ⟨-, rfl⟩ := recorded?_listCondition_eq_some.mp h
      exact allBlank_renderListCondition property operator values
  | connective c =>
      obtain rfl := Option.some.inj h
      cases c <;> decide
  | paren p =>
      obtain rfl := Option.some.inj h
      cases p <;> decide
  | raw text =>
      obtain ⟨hblank, rfl⟩ := recorded?_raw_eq_some.mp h
      exact hblank

/-- What a call records is not blank. -/
theorem Call.allBlank_render_of_token? {c : Call} {token : Token} (h : c.token? = some token) :
    token.render.allBlank = false := by
  cases c with
  | op property operator value quoted =>
      obtain ⟨value, rfl, rfl⟩ := Option.map_eq_some_iff.mp h
      exact allBlank_renderCondition property operator _
  | addCondition condition =>
      obtain ⟨hblank, rfl⟩ := token?_addCondition_eq_some.mp h
      exact hblank
  | connective j => exact @Token.allBlank_render_of_recorded? (.connective j) token h
  | paren p => exact @Token.allBlank_render_of_recorded? (.paren p) token h
  | concat other joiner =>
      obtain rfl := Option.some.inj h
      have hopening : isBlank '(' = false := by decide
      simp [Token.render, Builder.group, allBlank, hopening]
  | inList property operator values =>
      exact @Token.allBlank_render_of_recorded? (.listCondition property operator _) token h
  | append fragment joiner => exact @Token.allBlank_render_of_recorded? (.raw fragment) token h
  | merge other joiner => exact @Token.allBlank_render_of_recorded? (.raw other.text) token h
  | apply replayed => exact @Token.allBlank_render_of_recorded? replayed token h

namespace Builder

/-- The tokens of a builder are those of its options and these, and none of these
has a blank text. -/
structure HasVisible (b : Builder) (added : List Token) : Prop where
  tokens_eq : b.tokens = b.options.leadTokens ++ added
  visible : ∀ token ∈ added, token.render.allBlank = false

theorem HasVisible.runAll {b : Builder} {added : List Token} (h : b.HasVisible added)
    (program : List Call) : ∃ more, (b.runAll program).HasVisible more := by
  have hjoiner : ∀ j, (Token.connective j).render.allBlank = false :=
    fun j => @Token.allBlank_render_of_recorded? (.connective j) _ rfl
  have hwritten : ∀ c ∈ program, ∀ token ∈ c.token?, token.render.allBlank = false :=
    fun _ _ _ htoken => Call.allBlank_render_of_token? htoken
  obtain ⟨more, htokens, hmore⟩ := exists_tokens_runAll hjoiner hwritten b
  refine ⟨added ++ more, ?_, List.forall_mem_append.mpr ⟨h.visible, hmore⟩⟩
  rw [htokens, options_runAll, h.tokens_eq, List.append_assoc]

/-! ## Emptiness -/

/-- What a builder begins with because of its options is what the tokens of the
options say. -/
theorem IsLed.unspaced_text {b : Builder} (h : b.IsLed) :
    b.text.unspaced = (renderTokens b.options.leadTokens).unspaced ++ b.body.unspaced := by
  have hnew := isInStep_ofOptions b.options
  rw [IsInStep, tokens_ofOptions] at hnew
  rw [h.text_eq, unspaced_append, hnew]

/-- A builder whose text and tokens are in step is empty if it has no tokens but
those of its options. -/
theorem HasVisible.isEmpty_iff {b : Builder} {added : List Token} (h : b.HasVisible added)
    (hled : b.IsLed) (hstep : b.IsInStep) : b.isEmpty = true ↔ added = [] := by
  have hbody : b.body.unspaced = added.flatMap fun token => token.render.unspaced := by
    rw [IsInStep, hled.unspaced_text, h.tokens_eq, unspaced_renderTokens, unspaced_renderTokens,
      List.flatMap_append] at hstep
    exact List.append_cancel_left hstep
  rw [isEmpty, ← unspaced_eq_nil_iff, hbody, List.flatMap_eq_nil_iff]
  constructor
  · intro hblank
    refine List.eq_nil_iff_forall_not_mem.mpr fun token htoken => ?_
    have hvisible := h.visible token htoken
    rw [unspaced_eq_nil_iff.mp (hblank token htoken)] at hvisible
    cases hvisible
  · rintro rfl
    simp

/-- Whatever calls are made on a new builder, one that was made with the marker
begins with it, in its text and in its tokens, and a builder is empty if and
only if its tokens are those of its options, the marker or none. -/
theorem isEmpty_runAll_iff (options : Options) (program : List Call) :
    (options.marked = true →
      markerAndSpace <+: ((ofOptions options).runAll program).text ∧
        ((ofOptions options).runAll program).tokens.head? = some (.raw marker)) ∧
    (((ofOptions options).runAll program).isEmpty = true ↔
      ((ofOptions options).runAll program).tokens = options.leadTokens) := by
  have hoptions : ((ofOptions options).runAll program).options = options := by
    rw [options_runAll, options_ofOptions]
  have hedits := edits_runAll (ofOptions options) program
  have hled := (isLed_ofOptions options).edits hedits
  have hstep : ((ofOptions options).runAll program).IsInStep :=
    hedits.keep (fun _ _ hedit h => h.edit hedit) (isInStep_ofOptions options)
  have hnew : (ofOptions options).HasVisible [] :=
    ⟨by rw [tokens_ofOptions, options_ofOptions, List.append_nil], by simp⟩
  obtain ⟨added, hadded⟩ := hnew.runAll program
  have htokens := hadded.tokens_eq
  rw [hoptions] at htokens
  constructor
  · intro hmarked
    refine ⟨hled (by rwa [hoptions]), ?_⟩
    rw [htokens, Options.leadTokens, if_pos hmarked]
    rfl
  · rw [hadded.isEmpty_iff hled hstep, htokens, List.append_right_eq_self]

/-- A connective trims the space of the marker, and writes another one. -/
theorem isEmpty_runAll_connective :
    markerAndSpace <+: ((ofOptions ⟨true, true⟩).runAll [.connective .and]).text ∧
      ((ofOptions ⟨true, true⟩).runAll [.connective .and]).tokens.head? = some (.raw marker) :=
  (isEmpty_runAll_iff ⟨true, true⟩ [.connective .and]).1 rfl

end Builder

end FilterQuery
