import FilterQuery.Proofs.Dangling
import FilterQuery.Proofs.Edits
import FilterQuery.Proofs.Marker
import FilterQuery.Proofs.Rendering
/-!
# What the calls write

The text of a builder that is only written to in structured ways is a piece, and
each call adds the lexemes it stands for at its end. Idle calls, which have
nothing to write, leave a builder as it is.
-/

namespace FilterQuery

open Text

/-! ## Idle calls -/

/-- Whether a call has nothing to write: no value, no values, or a blank
fragment. -/
def Call.isIdle : Call → Bool
  | .op _ _ value _ => value.isNone
  | .inList _ _ values => (values.filterMap id).isEmpty
  | .addCondition condition => condition.allBlank
  | .append fragment _ => (stripMarker fragment).allBlank
  | .merge other _ => (stripMarker other.text).allBlank
  | .apply (.listCondition _ _ values) => values.isEmpty
  | .apply (.raw text) => (stripMarker text).allBlank
  | .connective _ | .paren _ | .concat _ _ | .apply _ => false

namespace Builder

theorem append_of_blank {fragment : Text} (h : (stripMarker fragment).allBlank = true)
    (b : Builder) (joiner : Option Connective) : b.append fragment joiner = b := by
  rw [append, if_pos h]

theorem inList_of_isEmpty {values : List (Option Scalar)} (h : values.filterMap id = [])
    (b : Builder) (property : Text) (operator : ListOperator) :
    b.inList property operator values = b := by
  rw [inList, h]

theorem replayRaw_of_blank {text : Text} (h : (stripMarker text).allBlank = true)
    (b : Builder) : b.replayRaw text = b := by
  simp [replayRaw, append_of_blank h]

theorem runAll_append (b : Builder) (first second : List Call) :
    b.runAll (first ++ second) = (b.runAll first).runAll second := List.foldl_append

end Builder

theorem Call.run_of_isIdle {c : Call} (h : c.isIdle = true) (b : Builder) : c.run b = b := by
  cases c with
  | op property operator value quoted =>
      obtain rfl := Option.isNone_iff_eq_none.mp h
      rfl
  | inList property operator values =>
      exact Builder.inList_of_isEmpty (List.isEmpty_iff.mp h) b property operator
  | addCondition condition => exact if_pos h
  | connective => simp [isIdle] at h
  | paren => simp [isIdle] at h
  | append fragment joiner => exact Builder.append_of_blank h b joiner
  | merge other joiner => exact Builder.append_of_blank h b joiner
  | concat => simp [isIdle] at h
  | apply token =>
      cases token with
      | listCondition property operator values =>
          obtain rfl := List.isEmpty_iff.mp h
          rfl
      | raw text => exact Builder.replayRaw_of_blank h b
      | condition => simp [isIdle] at h
      | connective => simp [isIdle] at h
      | paren => simp [isIdle] at h

/-- A program does the same without its idle calls. -/
theorem Builder.runAll_filter (b : Builder) (program : List Call) :
    b.runAll (program.filter fun c => !c.isIdle) = b.runAll program := by
  induction program generalizing b with
  | nil => rfl
  | cons c program ih =>
      cases h : c.isIdle with
      | true =>
          rw [List.filter_cons_of_neg (by simp [h]), ih]
          exact congrArg (Builder.runAll · program) (c.run_of_isIdle h b).symm
      | false =>
          rw [List.filter_cons_of_pos (by simp [h])]
          exact ih (c.run b)

/-! ## The front -/

theorem Builder.options_ofOptions (options : Options) : (ofOptions options).options = options := by
  unfold ofOptions
  dsimp only
  split <;> rfl

/-- The space after the marker is trimmed with what follows it, but only for
another one to take its place. -/
theorem markerAndSpace_prefix_trimEnd {text : Text} (h : markerAndSpace <+: text) (more : Text) :
    markerAndSpace <+: text.trimEnd ++ ' ' :: more := by
  obtain ⟨body, rfl⟩ := h
  cases hblank : allBlank body with
  | true =>
      have hmarker : trimEnd markerAndSpace = marker := by decide
      rw [trimEnd_append_blank hblank, hmarker]
      exact ⟨more, by simp [markerAndSpace]⟩
  | false =>
      rw [trimEnd_append hblank, List.append_assoc]
      exact List.prefix_append _ _

/-- Whether a builder that was made with the marker still begins with it. -/
def Builder.IsLed (b : Builder) : Prop := b.options.marked = true → markerAndSpace <+: b.text

theorem Builder.IsLed.edit {b b' : Builder} (h : b.IsLed) (hedit : b.Edit b') : b'.IsLed := by
  intro hmarked
  cases hedit with
  | write token => exact (h hmarked).trans (List.prefix_append _ _)
  | join c => exact markerAndSpace_prefix_trimEnd (h hmarked) (c.literal ++ [' '])
  | space => exact markerAndSpace_prefix_trimEnd (h hmarked) []
  | pad => exact (h hmarked).trans (List.prefix_append _ _)

/-- No call changes the front of a builder that was made with the marker. -/
theorem Builder.IsLed.edits {b b' : Builder} (h : b.IsLed) (hedits : b.Edits b') : b'.IsLed :=
  hedits.keep (fun _ _ hedit hled => hled.edit hedit) h

theorem Builder.isLed_ofOptions (options : Options) : (ofOptions options).IsLed := by
  intro hmarked
  rw [options_ofOptions] at hmarked
  rw [text_ofOptions, if_pos hmarked]

theorem Builder.IsLed.isFlush {b : Builder} (h : b.IsLed) (hmarked : b.options.marked = true) :
    IsFlush b.text := by
  obtain ⟨body, hbody⟩ := h hmarked
  rw [← hbody]
  exact isFlush_cons.mpr (by decide)

/-- The text of a builder is what it was made with and its body. -/
theorem Builder.IsLed.text_eq {b : Builder} (h : b.IsLed) :
    b.text = (ofOptions b.options).text ++ b.body := by
  rw [text_ofOptions, body]
  cases hmarked : b.options.marked with
  | false => simp
  | true =>
      obtain ⟨rest, hrest⟩ := h hmarked
      rw [if_pos rfl, if_pos rfl, stripStart?_eq_some_iff.mpr hrest.symm]
      exact hrest.symm

theorem Builder.IsLed.contents_text {b : Builder} (h : b.IsLed) :
    contents b.text = b.options.lead ++ contents b.body := by
  have hlead := isPiece_ofOptions b.options
  rw [h.text_eq, contents_append hlead.closed (.inl hlead.ends), hlead.contents_eq]

/-! ## Finishing -/

theorem Builder.options_runAll (b : Builder) (program : List Call) :
    (b.runAll program).options = b.options := (edits_runAll b program).options_eq

/-- Without percent-encoding, finishing is done on the plain text. -/
theorem Builder.build_runAll {options : Options} (hplain : options.encodeUri = false)
    (program : List Call) :
    ((ofOptions options).runAll program).build =
      ((ofOptions options).runAll program).plainQuery := by
  rw [build, options_runAll, options_ofOptions, hplain]
  rfl

/-- Finishing leaves the lexemes if the last one does not end like a
connective. -/
theorem Builder.contents_plainQuery {b : Builder} {read : List Content} (h : IsPiece b.text read)
    (hlast : ∀ content ∈ read.getLast?, IsClear content.2) : contents b.plainQuery = read := by
  rw [← h.contents_eq] at hlast ⊢
  rw [plainQuery_eq_trim hlast, contents_trim]

theorem IsPlain.isClear {text : Text} (h : IsPlain text) : IsClear text := by
  intro c hc
  have hplain := h.2 c (List.mem_of_mem_getLast? hc)
  constructor <;> rintro rfl <;> revert hplain <;> decide

theorem Scalar.isClear_render (value : Scalar) : IsClear (value.render false) := by
  cases value with
  | string s => exact isClear_concat (by decide) ('"' :: escape s)
  | boolean b => exact (isPlain_textOfBool b).isClear
  | integer n => exact (isPlain_ofInt n.toInt).isClear
  | float x => exact (isPlain_textOfFloat x).isClear

theorem isClear_listLiteral (values : List Scalar) : IsClear (listLiteral values) :=
  isClear_concat (by decide) ('[' :: renderList values)

/-! ## Pieces that calls write -/

namespace Builder

variable {b : Builder} {read : List Content}

theorem isPiece_op (h : IsPiece b.text read) {property : Text} (hproperty : IsBareword property)
    (operator : Operator) (value : Scalar) (quoted : Bool) :
    IsPiece (b.op property operator (some value) quoted).text
      (read ++ conditionContents property operator
        (if quoted then value.stringified else value)) :=
  h.append (isPiece_renderCondition hproperty operator _)

theorem isPiece_inList (h : IsPiece b.text read) {property : Text}
    (hproperty : IsBareword property) (operator : ListOperator)
    {values : List (Option Scalar)} (hne : values.filterMap id ≠ [])
    (hvalues : HasWordStrings (values.filterMap id)) :
    IsPiece (b.inList property operator values).text
      (read ++ listConditionContents property operator (values.filterMap id)) := by
  unfold inList
  split
  next hnil => exact absurd hnil hne
  next first rest hpresent =>
    rw [hpresent] at hvalues ⊢
    exact h.append (isPiece_renderListCondition hproperty operator hvalues)

theorem isPiece_connective_call (h : IsPiece b.text read) (c : Connective) :
    IsPiece (b.connective c).text (read ++ [(.connective c, c.literal)]) :=
  h.trimEnd_append (isPiece_connective c) ⟨' ', rfl, isWordChar_space⟩

theorem isPiece_paren_call (h : IsPiece b.text read) (p : Paren) :
    IsPiece (b.paren p).text (read ++ [(.paren p, p.literal)]) :=
  h.append (isPiece_paren p)

theorem isPiece_spaced (h : IsPiece b.text read) : IsPiece b.spaced.text read := by
  have hpiece := h.trimEnd_append .space ⟨' ', rfl, isWordChar_space⟩
  rwa [List.append_nil] at hpiece

theorem isPiece_separated (h : IsPiece b.text read) : IsPiece (b.separated none).text read := by
  unfold separated
  dsimp only
  split
  next => exact h
  next => exact isPiece_spaced h

/-- A fragment that is a piece, without its marker, is written as it is. -/
theorem isPiece_append (h : IsPiece b.text read) {fragment : Text} {more : List Content}
    (hfragment : IsPiece (stripMarker fragment) more) :
    IsPiece (b.append fragment none).text (read ++ more) := by
  unfold append
  dsimp only
  split
  next hblank =>
    have hmore : more = [] := hfragment.contents_eq.symm.trans (contents_of_allBlank hblank)
    simpa [hmore] using h
  next => exact (isPiece_separated h).append hfragment

/-- A group is the lexemes of the builder, without the marker, between two
parentheses. -/
theorem isPiece_group {other : Builder} {options : Options} {more : List Content}
    (hother : IsPiece other.text (options.lead ++ more)) (hmore : Unmarked more) :
    IsPiece other.group (groupContents more) := by
  have hcontents : contents (stripMarker other.text.trim) = more :=
    contents_stripMarker (fun _ => isFlush_trim _) ((contents_trim _).trans hother.contents_eq)
      hmore
  have hclosed : QuotesClosed (stripMarker other.text.trim) := by
    refine hother.closed.of_subset ?_
    rw [hcontents, hother.contents_eq]
    exact List.subset_append_right _ _
  have hpiece := isPiece_parenthesized hclosed
  rwa [hcontents] at hpiece

theorem isPiece_concat (h : IsPiece b.text read) {other : Builder} {options : Options}
    {more : List Content} (hother : IsPiece other.text (options.lead ++ more))
    (hmore : Unmarked more) :
    IsPiece (b.concat other none).text (read ++ groupContents more) :=
  h.append (isPiece_group hother hmore).append_space

/-! ## Flush texts -/

theorem isFlush_op (h : IsFlush b.text) {property : Text} (hproperty : IsBareword property)
    (operator : Operator) (value : Scalar) (quoted : Bool) :
    IsFlush (b.op property operator (some value) quoted).text := by
  refine h.append ?_
  rw [renderCondition, List.append_assoc, List.append_assoc]
  exact hproperty.isFlush.append_right hproperty.ne_nil _

theorem isFlush_inList (h : IsFlush b.text) {property : Text} (hproperty : IsBareword property)
    (operator : ListOperator) (values : List (Option Scalar)) :
    IsFlush (b.inList property operator values).text := by
  unfold inList
  split
  next => exact h
  next =>
    refine h.append ?_
    rw [renderListCondition, List.append_assoc, List.append_assoc, List.append_assoc]
    exact hproperty.isFlush.append_right hproperty.ne_nil _

/-- A connective after other text does not come to the front. -/
theorem isFlush_connective (h : IsFlush b.text) (hblank : b.text.allBlank = false)
    (c : Connective) : IsFlush (b.connective c).text :=
  h.trimEnd_append hblank _

theorem isFlush_paren (h : IsFlush b.text) (p : Paren) : IsFlush (b.paren p).text := by
  refine h.append (isFlush_cons.mpr ?_)
  cases p <;> decide

theorem body_suffix (b : Builder) : b.body <:+ b.text := by
  unfold body
  split
  next =>
    cases hstrip : stripStart? markerAndSpace b.text with
    | none => exact List.suffix_rfl
    | some rest => exact ⟨markerAndSpace, (stripStart?_eq_some_iff.mp hstrip).symm⟩
  next => exact List.suffix_rfl

theorem isFlush_separated (h : IsFlush b.text) : IsFlush (b.separated none).text := by
  unfold separated
  dsimp only
  split
  next => exact h
  next hcurrent =>
    refine h.trimEnd_append ?_ [' ']
    -- Blank text would have a blank body, and nothing would be written after it.
    rw [Bool.eq_false_iff]
    intro hblank
    have hbody : b.body.allBlank = true :=
      allBlank_iff.mpr fun c hc => allBlank_iff.mp hblank c (b.body_suffix.subset hc)
    refine hcurrent ?_
    rw [trim_eq_nil_iff.mpr hbody]
    rfl

theorem isFlush_append (h : IsFlush b.text) {fragment : Text}
    (hfragment : IsFlush (stripMarker fragment)) : IsFlush (b.append fragment none).text := by
  unfold append
  dsimp only
  split
  next => exact h
  next => exact (isFlush_separated h).append hfragment

theorem isFlush_concat (h : IsFlush b.text) (other : Builder) :
    IsFlush (b.concat other none).text :=
  h.append (isFlush_cons.mpr (by decide))

end Builder

end FilterQuery
