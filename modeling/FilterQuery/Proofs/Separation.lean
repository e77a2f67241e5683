import FilterQuery.Proofs.Joining
import FilterQuery.Proofs.WordEnd
/-!
# Conditions stand apart

A condition is written with nothing before it, so whether its property is read
as a word of its own rests on how the text ends. Every call but taking over text
ends it with white space or a parenthesis; text is taken over as it is. So a
condition runs together with what stands before it exactly if text was taken
over that ends in a word, provided no quoted string was left open.
-/

namespace FilterQuery

open Text

/-! ## Closed texts -/

theorem QuotesClosed.append_space {text : Text} (h : QuotesClosed text) :
    QuotesClosed (text ++ [' ']) :=
  h.of_contents_eq (contents_append_blank (by decide) text)

/-- Without a marker that is a word by itself, a text has the lexemes that
follow. -/
theorem QuotesClosed.stripMarker {text : Text} {read : List Content} (h : QuotesClosed text)
    (hflush : IsFlush text) (hread : contents text = (.word, marker) :: read) :
    QuotesClosed (stripMarker text) := by
  obtain ⟨rest, rfl, hrest⟩ := eq_marker_append hflush hread
  refine h.of_subset ?_
  rw [stripMarker_marker_append, contents_trimStart, hread, hrest]
  exact List.subset_cons_self _ _

/-! ## What calls write -/

/-- The texts that a call writes are read by themselves: property names are
words, the strings in a list have no white space and no parenthesis, and text
that is taken over leaves no quoted string open. -/
def Call.IsClosed : Call → Prop
  | .op property _ _ _ | .apply (.condition property _ _) => IsBareword property
  | .inList property _ values => IsBareword property ∧ HasWordStrings (values.filterMap id)
  | .apply (.listCondition property _ values) => IsBareword property ∧ HasWordStrings values
  | .addCondition condition => QuotesClosed condition
  | .append fragment _ | .apply (.raw fragment) => QuotesClosed (stripMarker fragment)
  | .merge other _ => QuotesClosed (stripMarker other.text)
  | .concat other _ => QuotesClosed (stripMarker other.text.trim)
  | .connective _ | .paren _ | .apply (.connective _) | .apply (.paren _) => True

/-- Whether a call writes a condition, which it does with nothing before it. -/
def Call.isCondition : Call → Bool
  | .op .. | .inList .. | .addCondition _ => true
  | .apply (.condition ..) | .apply (.listCondition ..) => true
  | _ => false

/-- Whether a call takes text over as it is. -/
def Call.isAppend : Call → Bool
  | .append .. | .merge .. => true
  | _ => false

namespace Builder

variable {b : Builder}

/-! ### Conditions -/

theorem quotesClosed_op (h : QuotesClosed b.text) (hends : ¬ EndsInWord b.text) {property : Text}
    (hproperty : IsBareword property) (operator : Operator) (value : Option Scalar)
    (quoted : Bool) : QuotesClosed (b.op property operator value quoted).text := by
  cases value with
  | none => exact h
  | some value =>
      exact h.append_of_not_endsInWord hends (isPiece_renderCondition hproperty operator _).closed

theorem quotesClosed_inList (h : QuotesClosed b.text) (hends : ¬ EndsInWord b.text)
    {property : Text} (hproperty : IsBareword property) (operator : ListOperator)
    {values : List (Option Scalar)} (hvalues : HasWordStrings (values.filterMap id)) :
    QuotesClosed (b.inList property operator values).text := by
  unfold inList
  split
  next => exact h
  next first rest hpresent =>
    rw [hpresent] at hvalues
    exact h.append_of_not_endsInWord hends
      (isPiece_renderListCondition hproperty operator hvalues).closed

theorem quotesClosed_addCondition (h : QuotesClosed b.text) (hends : ¬ EndsInWord b.text)
    {condition : Text} (hcondition : QuotesClosed condition) :
    QuotesClosed (b.addCondition condition).text := by
  unfold addCondition
  split
  next => exact h
  next => exact h.append_of_not_endsInWord hends hcondition.append_space

/-! ### Structure -/

theorem quotesClosed_connective (h : QuotesClosed b.text) (c : Connective) :
    QuotesClosed (b.connective c).text :=
  h.trimEnd.append (.inr (by simp [isWordChar_space])) (isPiece_connective c).closed

theorem quotesClosed_paren (h : QuotesClosed b.text) (p : Paren) :
    QuotesClosed (b.paren p).text := by
  refine h.append (.inr ?_) (isPiece_paren p).closed
  cases p <;> simp [Paren.literal, Paren.char, isWordChar]

/-! ### Text that is taken over -/

theorem quotesClosed_separated (h : QuotesClosed b.text) (joiner : Option Connective) :
    QuotesClosed (b.separated joiner).text := by
  have hspaced : QuotesClosed b.spaced.text := h.trimEnd.append_space
  unfold separated
  dsimp only
  split
  next => exact h
  next =>
    cases joiner with
    | none => exact hspaced
    | some c =>
        dsimp only
        split
        next => exact hspaced
        next => exact quotesClosed_connective h c

/-- A character of a word at the end of the text stands behind the marker. -/
theorem IsLed.getLast?_body (hled : b.IsLed) {c : Char} (hc : b.text.getLast? = some c)
    (hword : isWordChar c = true) : b.body.getLast? = some c := by
  rw [hled.text_eq] at hc
  by_cases hbody : b.body = []
  · rw [hbody, List.append_nil] at hc
    rw [(isPiece_ofOptions b.options).ends c hc] at hword
    cases hword
  · rwa [List.getLast?_append_of_ne_nil _ hbody] at hc

/-- Where a fragment is written, no word stands right before it. -/
theorem getLast?_separated (hled : b.IsLed) (joiner : Option Connective) :
    ∀ c ∈ (b.separated joiner).text.getLast?, isWordChar c = false := by
  have hspaced : ∀ c ∈ b.spaced.text.getLast?, isWordChar c = false := by
    simp [spaced, isWordChar_space]
  unfold separated
  dsimp only
  split
  next hcurrent =>
    -- Such a character would end the body too, which is blank or ends with a parenthesis.
    intro c hc
    by_contra hword
    rw [Bool.not_eq_false] at hword
    have hvisible := isBlank_of_isWordChar hword
    have hbody := hled.getLast?_body hc hword
    have hblank : b.body.allBlank = false := by
      rw [Bool.eq_false_iff]
      intro hblank
      rw [allBlank_iff.mp hblank c (List.mem_of_getLast? hbody)] at hvisible
      cases hvisible
    have hend : b.body.trimEnd = b.body := by
      refine trimEnd_eq_self fun d hd => ?_
      rwa [← Option.some.inj (hbody.symm.trans hd)]
    rw [Bool.or_eq_true, isEmpty_trim_body, isEmpty, hblank, endsWithOpening_iff,
      getLast?_trim hblank, hend, hbody] at hcurrent
    obtain rfl := Option.some.inj (hcurrent.resolve_left Bool.false_ne_true)
    exact absurd hword (by decide)
  next =>
    cases joiner with
    | none => exact hspaced
    | some c =>
        dsimp only
        split
        next => exact hspaced
        next => cases c <;> simp [text_connective, Connective.literal, isWordChar_space]

theorem quotesClosed_append (hled : b.IsLed) (h : QuotesClosed b.text) {fragment : Text}
    (hfragment : QuotesClosed (stripMarker fragment)) (joiner : Option Connective) :
    QuotesClosed (b.append fragment joiner).text := by
  cases hblank : (stripMarker fragment).allBlank with
  | true => rwa [append_of_blank hblank]
  | false =>
      rw [append_of_not_blank hblank]
      exact (quotesClosed_separated h joiner).append (.inl (getLast?_separated hled joiner))
        hfragment

theorem quotesClosed_replayRaw (hled : b.IsLed) (h : QuotesClosed b.text) {text : Text}
    (htext : QuotesClosed (stripMarker text)) : QuotesClosed (b.replayRaw text).text := by
  have happended := quotesClosed_append hled h htext none
  unfold replayRaw
  dsimp only
  split
  next => exact happended.append_space
  next => exact happended

theorem quotesClosed_concat (h : QuotesClosed b.text) {other : Builder}
    (hother : QuotesClosed (stripMarker other.text.trim)) (joiner : Option Connective) :
    QuotesClosed (b.concat other joiner).text := by
  have hgroup : ∀ {text : Text}, QuotesClosed text →
      QuotesClosed (text ++ (other.group ++ [' '])) :=
    fun htext => htext.append (.inr (by simp [group, isWordChar]))
      (isPiece_parenthesized hother).append_space.closed
  unfold concat
  cases joiner with
  | none => exact hgroup h
  | some c =>
      dsimp only
      split
      next => exact hgroup h
      next => exact hgroup (quotesClosed_connective h c)

end Builder

/-- A call leaves no quoted string open, unless it writes a condition right
behind a word. -/
theorem Call.quotesClosed_run {b : Builder} {c : Call} (hclosed : c.IsClosed) (hled : b.IsLed)
    (h : QuotesClosed b.text) (hends : c.isCondition = true → ¬ EndsInWord b.text) :
    QuotesClosed (c.run b).text := by
  cases c with
  | op property operator value quoted =>
      exact Builder.quotesClosed_op h (hends rfl) hclosed operator value quoted
  | inList property operator values =>
      exact Builder.quotesClosed_inList h (hends rfl) hclosed.1 operator hclosed.2
  | addCondition condition => exact Builder.quotesClosed_addCondition h (hends rfl) hclosed
  | connective j => exact Builder.quotesClosed_connective h j
  | paren p => exact Builder.quotesClosed_paren h p
  | append fragment joiner => exact Builder.quotesClosed_append hled h hclosed joiner
  | merge other joiner => exact Builder.quotesClosed_append hled h hclosed joiner
  | concat other joiner => exact Builder.quotesClosed_concat h hclosed joiner
  | apply token =>
      cases token with
      | condition property operator value =>
          exact Builder.quotesClosed_op h (hends rfl) hclosed operator (some value) _
      | listCondition property operator values =>
          have hpresent : (values.map some).filterMap id = values := by simp [List.filterMap_map]
          refine Builder.quotesClosed_inList h (hends rfl) hclosed.1 operator ?_
          rw [hpresent]
          exact hclosed.2
      | connective j => exact Builder.quotesClosed_connective h j
      | paren p => exact Builder.quotesClosed_paren h p
      | raw text => exact Builder.quotesClosed_replayRaw hled h hclosed

/-! ## How calls end the text -/

namespace Builder

theorem not_endsInWord_push_space (b : Builder) (piece : Text) (token : Token) :
    ¬ EndsInWord (b.push (piece ++ [' ']) token).text := by
  have hspace := not_endsInWord_concat isWordChar_space (b.text ++ piece)
  rwa [List.append_assoc] at hspace

theorem not_endsInWord_inList {values : List (Option Scalar)} (hne : values.filterMap id ≠ [])
    (b : Builder) (property : Text) (operator : ListOperator) :
    ¬ EndsInWord (b.inList property operator values).text := by
  unfold inList
  split
  next hnil => exact absurd hnil hne
  next => exact not_endsInWord_push_space _ _ _

theorem not_endsInWord_paren (b : Builder) (p : Paren) : ¬ EndsInWord (b.paren p).text :=
  not_endsInWord_concat (by cases p <;> decide) b.text

theorem not_endsInWord_replayRaw {text : Text} (hblank : (stripMarker text).allBlank = false)
    (b : Builder) : ¬ EndsInWord (b.replayRaw text).text := by
  rw [replayRaw_of_not_blank hblank]
  cases hends : endsBlank (stripMarker text) with
  | false => exact not_endsInWord_push_space _ _ _
  | true =>
      rw [endsBlank, Option.any_eq_true] at hends
      obtain ⟨c, hlast, hc⟩ := hends
      obtain ⟨front, hfront⟩ := List.getLast?_eq_some_iff.mp hlast
      have hword : isWordChar c = false := by simp [isWordChar, hc]
      have hspace := not_endsInWord_concat hword ((b.separated none).text ++ front)
      rw [List.append_assoc, ← hfront] at hspace
      simpa [push] using hspace

end Builder

/-- Every call but taking text over ends what it writes with white space or a
parenthesis. -/
theorem Call.not_endsInWord_run {c : Call} (happend : c.isAppend = false)
    (hidle : c.isIdle = false) (b : Builder) : ¬ EndsInWord (c.run b).text := by
  cases c with
  | op property operator value quoted =>
      cases value with
      | none => cases hidle
      | some value => exact Builder.not_endsInWord_push_space _ _ _
  | inList property operator values =>
      exact Builder.not_endsInWord_inList (List.isEmpty_eq_false_iff.mp hidle) b property operator
  | addCondition condition =>
      have hadded : b.addCondition condition = b.push (condition ++ [' ']) (.raw condition) :=
        if_neg (Bool.eq_false_iff.mp hidle)
      change ¬ EndsInWord (b.addCondition condition).text
      rw [hadded]
      exact Builder.not_endsInWord_push_space _ _ _
  | connective j => exact Builder.not_endsInWord_push_space _ _ _
  | paren p => exact b.not_endsInWord_paren p
  | append => cases happend
  | merge => cases happend
  | concat other joiner => exact Builder.not_endsInWord_push_space _ _ _
  | apply token =>
      cases token with
      | condition property operator value => exact Builder.not_endsInWord_push_space _ _ _
      | listCondition property operator values =>
          refine Builder.not_endsInWord_inList ?_ b property operator
          simpa [List.filterMap_map] using List.isEmpty_eq_false_iff.mp hidle
      | connective j => exact Builder.not_endsInWord_push_space _ _ _
      | paren p => exact b.not_endsInWord_paren p
      | raw text => exact Builder.not_endsInWord_replayRaw hidle b

namespace Builder

/-! ## Conditions -/

/-- A builder that calls with closed texts lead to, where no condition that ran
together with a word opened a quoted string. -/
inductive IsTidy : Builder → Prop where
  | new (options : Options) : IsTidy (ofOptions options)
  | run {b : Builder} (h : IsTidy b) (c : Call) (hclosed : c.IsClosed)
      (hfused : c.isCondition = true → EndsInWord b.text → QuotesClosed (c.run b).text) :
      IsTidy (c.run b)

variable {b : Builder}

theorem IsTidy.isLed (h : b.IsTidy) : b.IsLed := by
  induction h with
  | new options => exact isLed_ofOptions options
  | run _ c _ _ ih => exact ih.edits (edits_run _ c)

theorem IsTidy.quotesClosed (h : b.IsTidy) : QuotesClosed b.text := by
  induction h with
  | new options => exact (isPiece_ofOptions options).closed
  | @run b hb c hclosed hfused ih =>
      -- Only a condition behind a word could open a quoted string, and this one did not.
      by_cases hends : c.isCondition = true ∧ EndsInWord b.text
      · exact hfused hends.1 hends.2
      · exact Call.quotesClosed_run hclosed hb.isLed ih (not_and.mp hends)

/-- A program that takes no text over as it is leaves its builder ready for a
condition. -/
theorem isTidy_runAll (options : Options) {program : List Call}
    (hclosed : ∀ c ∈ program, c.IsClosed) (happend : ∀ c ∈ program, c.isAppend = false) :
    ((ofOptions options).runAll program).IsTidy ∧
      ¬ EndsInWord ((ofOptions options).runAll program).text := by
  have hnew : ¬ EndsInWord (ofOptions options).text :=
    not_endsInWord_of_getLast? (isPiece_ofOptions options).ends
  have htidy : (ofOptions options).IsTidy := .new options
  -- No text that ends in a word is left behind, so no condition runs together with one.
  generalize ofOptions options = b at hnew htidy
  induction program generalizing b with
  | nil => exact ⟨htidy, hnew⟩
  | cons c program ih =>
      obtain ⟨hc, hclosed⟩ := List.forall_mem_cons.mp hclosed
      obtain ⟨hcappend, happend⟩ := List.forall_mem_cons.mp happend
      refine ih hclosed happend (c.run b) ?_ (htidy.run c hc fun _ hends => absurd hends hnew)
      cases hidle : c.isIdle with
      | true => rwa [c.run_of_isIdle hidle]
      | false => exact c.not_endsInWord_run hcappend hidle b

theorem IsLed.contents_of_marked (h : b.IsLed) (hmarked : b.options.marked = true) :
    contents b.text = (.word, marker) :: contents b.body := by
  rw [h.contents_text, Options.lead_of_marked hmarked]
  rfl

/-- A tidy builder with the marker may be taken over by another one. -/
theorem IsTidy.isClosed_merge (h : b.IsTidy) (hmarked : b.options.marked = true)
    (joiner : Option Connective) : (Call.merge b joiner).IsClosed :=
  h.quotesClosed.stripMarker (h.isLed.isFlush hmarked) (h.isLed.contents_of_marked hmarked)

theorem IsTidy.isClosed_concat (h : b.IsTidy) (hmarked : b.options.marked = true)
    (joiner : Option Connective) : (Call.concat b joiner).IsClosed := by
  have htrim : contents b.text.trim = contents b.text := contents_trim b.text
  exact (h.quotesClosed.of_contents_eq htrim).stripMarker (isFlush_trim _)
    (htrim.trans (h.isLed.contents_of_marked hmarked))

/-- A condition that is written behind what closed texts lead to is read as its
property, its operator and its value if and only if the text before it does not
end in a word. No call but taking text over leaves such a text. -/
theorem lex_op_iff (hb : b.IsTidy) {property : Text} (hproperty : IsBareword property)
    (operator : Operator) (value : Scalar) (quoted : Bool) :
    ((lex (b.op property operator (some value) quoted).text).map Lexeme.text =
        (lex b.text).map Lexeme.text ++ [property, operator.literal, value.render quoted] ↔
      ¬ EndsInWord b.text) ∧
    ∀ c : Call, c.isAppend = false → c.isIdle = false → ¬ EndsInWord (c.run b).text := by
  refine ⟨?_, fun c happend hidle => c.not_endsInWord_run happend hidle b⟩
  have htexts : ∀ text : Text, (lex text).map Lexeme.text = lexemeTexts text := fun text => by
    rw [lexemeTexts, contents, List.map_map]
    rfl
  have hcondition : lexemeTexts
      (renderCondition property operator (if quoted then value.stringified else value) ++ [' ']) =
      [property, operator.literal, value.render quoted] := by
    rw [lexemeTexts, (isPiece_renderCondition hproperty operator _).contents_eq]
    cases quoted <;> cases value <;> rfl
  obtain ⟨d, hd⟩ := Option.ne_none_iff_exists'.mp (mt List.head?_eq_none_iff.mp hproperty.ne_nil)
  rw [htexts, htexts, ← hcondition]
  refine lexemeTexts_append_iff hb.quotesClosed
    ⟨d, ?_, hproperty.isWordChar d (List.mem_of_head? hd)⟩
  simp [renderCondition, hd]

/-- Behind a quoted string a condition needs no white space to stand apart. -/
theorem lex_op_merged :
    (lex (((ofOptions ⟨false, true⟩).merge
          ((ofOptions ⟨false, true⟩).append "A == \"(&& \"".toList none) none).op
        "B".toList .contains (some (.integer 5)) true).text).map Lexeme.text =
      (lex ((ofOptions ⟨false, true⟩).merge
          ((ofOptions ⟨false, true⟩).append "A == \"(&& \"".toList none) none).text).map
        Lexeme.text ++ ["B".toList, "@=".toList, "\"5\"".toList] := by
  have hfragment : (Call.append "A == \"(&& \"".toList none).IsClosed := by
    change QuotesClosed _
    decide +kernel
  have hother : ((ofOptions ⟨false, true⟩).append "A == \"(&& \"".toList none).IsTidy :=
    (IsTidy.new ⟨false, true⟩).run _ hfragment nofun
  have hmerged : ((ofOptions ⟨false, true⟩).merge
      ((ofOptions ⟨false, true⟩).append "A == \"(&& \"".toList none) none).IsTidy :=
    (IsTidy.new ⟨false, true⟩).run _ (hother.isClosed_merge rfl none) nofun
  exact (lex_op_iff hmerged (by decide) .contains (.integer 5) true).1.mpr (by decide +kernel)

/-- A condition runs together with a fragment that ends in a word, and with a
quoted string that is open: taking the marker off a fragment may leave one, and
so may a condition that ran together with a word. -/
theorem lex_op_runs_together :
    (∀ fragment ∈ ["A == 1".toList, "Filters=\"a ".toList, "x".toList, "\"y \" z".toList],
      QuotesClosed fragment) ∧
    IsName "B".toList ∧
    ∀ program ∈ [[.append "A == 1".toList none], [.append "Filters=\"a ".toList none],
        [.append "x".toList none, .addCondition "\"y \" z".toList]],
      (lex (((ofOptions ⟨false, false⟩).runAll program).op "B".toList .equals
          (some (.string "x".toList)) false).text).map Lexeme.text ≠
        (lex ((ofOptions ⟨false, false⟩).runAll program).text).map Lexeme.text ++
          ["B".toList, "==".toList, "\"x\"".toList] := by
  decide +kernel

end Builder

end FilterQuery
