import FilterQuery.Proofs.QuotedString
/-!
# White space between lexemes

How much white space stands between two lexemes makes no difference: the lexemes
of a query, written with single spaces between them, are read as the same
lexemes. What could go wrong is a double quote that is closed nowhere and so
begins a word, if the new spaces made a quoted string of it. They do not: a
space takes the place of white space, or of nothing before a parenthesis or
behind a lexeme that ends with no backslash, and in each case a quote further on
is escaped as before.
-/

namespace FilterQuery

open Text

/-! ## Strings that are not closed -/

/-- Characters other than quotes and backslashes neither close a string nor
escape anything. -/
theorem closeQuote?_append_eq_none_iff {text : Text}
    (h : ∀ c ∈ text, c ≠ '"' ∧ c ≠ '\\') (rest : Text) :
    closeQuote? false (text ++ rest) = none ↔ closeQuote? false rest = none := by
  induction text with
  | nil => rfl
  | cons c text ih =>
      obtain ⟨⟨hquote, hslash⟩, htext⟩ := List.forall_mem_cons.mp h
      have hbeq : (c == '\\') = false := beq_eq_false_iff_ne.mpr hslash
      rw [List.cons_append, closeQuote?_cons_eq_none_iff, ← ih htext]
      simp [hquote, hbeq]

theorem Paren.ne_of_mem_literal (p : Paren) : ∀ c ∈ p.literal, c ≠ '"' ∧ c ≠ '\\' := by
  cases p <;> simp [Paren.literal, Paren.char]

theorem Connective.ne_of_mem_literal (j : Connective) :
    ∀ c ∈ j.literal, c ≠ '"' ∧ c ≠ '\\' := by
  cases j <;> simp [Connective.literal]

theorem ne_of_not_isWordChar {c : Char} (h : isWordChar c = false) : c ≠ '"' ∧ c ≠ '\\' := by
  constructor <;> rintro rfl <;> revert h <;> decide

/-- A character that is part of no word is no quote, so it makes no difference
whether a backslash takes it. -/
theorem closeQuote?_of_escaped {escaped : Bool} {text : Text} (h : Continues escaped text)
    (hhead : ∀ c ∈ text.head?, isWordChar c = false) (hnone : closeQuote? escaped text = none) :
    closeQuote? false text = none := by
  cases text with
  | nil => rfl
  | cons c text =>
      obtain ⟨hquote, hslash⟩ := ne_of_not_isWordChar (hhead c rfl)
      have hbeq : (c == '\\') = false := beq_eq_false_iff_ne.mpr hslash
      rcases closeQuote?_cons_eq_none_iff.mp hnone with ⟨hescaped, hend⟩ | ⟨-, hrest⟩
      · rw [h.isLineEnd_eq hescaped] at hend
        exact absurd hend Bool.false_ne_true
      · refine closeQuote?_cons_eq_none_iff.mpr (.inr ⟨.inr hquote, ?_⟩)
        simpa [hbeq] using hrest

/-- A string stays open if a space and another text take the place of what
stands behind a word in it. -/
theorem closeQuote?_append_space {escaped : Bool} {text after other : Text}
    (h : Continues escaped (text ++ after)) (hhead : ∀ c ∈ after.head?, isWordChar c = false)
    (hother : closeQuote? false after = none → closeQuote? false other = none)
    (hnone : closeQuote? escaped (text ++ after) = none) :
    closeQuote? escaped (text ++ ' ' :: other) = none := by
  induction text generalizing escaped with
  | nil =>
      have hopen := hother (closeQuote?_of_escaped h hhead hnone)
      exact closeQuote?_cons_eq_none_iff.mpr (.inr ⟨.inr (by decide), by simpa using hopen⟩)
  | cons c text ih =>
      rw [List.cons_append, closeQuote?_cons_eq_none_iff] at hnone ⊢
      exact hnone.imp_right (And.imp_right (ih h.next))

theorem closeQuote?_plain_append_space {text after other : Text}
    (h : ∀ c ∈ text, c ≠ '"' ∧ c ≠ '\\')
    (hother : closeQuote? false after = none → closeQuote? false other = none)
    (hnone : closeQuote? false (text ++ after) = none) :
    closeQuote? false (text ++ ' ' :: other) = none := by
  have hspace : ∀ c ∈ [' '], c ≠ '"' ∧ c ≠ '\\' :=
    List.forall_mem_singleton.mpr (by decide)
  have hopen := hother ((closeQuote?_append_eq_none_iff h after).mp hnone)
  rw [closeQuote?_append_eq_none_iff h]
  exact (closeQuote?_append_eq_none_iff hspace other).mpr hopen

/-! ## Lexemes with single spaces between them -/

/-- The lexemes of a text as they are written, with single spaces between
them. -/
def respaced (text : Text) : Text := joined [' '] ((lex text).map Lexeme.text)

theorem respaced_eq (text : Text) : respaced text = joined [' '] (lexemeTexts text) := by
  rw [respaced, lexemeTexts, contents, List.map_map]
  rfl

theorem respaced_nil : respaced [] = [] := by
  rw [respaced_eq, lexemeTexts, contents_nil]
  rfl

theorem respaced_blank_cons {c : Char} (h : isBlank c = true) (rest : Text) :
    respaced (c :: rest) = respaced rest := by
  rw [respaced_eq, respaced_eq, lexemeTexts, contents_blank_cons h, lexemeTexts]

/-- Behind the first lexeme stand a space and the other lexemes, or nothing if
there are no others. -/
theorem respaced_cons {c : Char} (h : isBlank c = false) (rest : Text) :
    ∃ gap, respaced (c :: rest) = (readLexeme c rest).text ++ gap ∧
      gap <+: ' ' :: respaced (readLexeme c rest).after ∧
        contents gap = contents (respaced (readLexeme c rest).after) := by
  rw [respaced_eq, respaced_eq, lexemeTexts, contents_cons h, List.map_cons, lexemeTexts]
  cases contents (readLexeme c rest).after with
  | nil => exact ⟨[], (List.append_nil _).symm, List.nil_prefix, rfl⟩
  | cons content more =>
      refine ⟨_, ?_, List.prefix_rfl, contents_blank_cons (by decide) _⟩
      simp [joined]

theorem isWordChar_head?_gap {gap other : Text} (h : gap <+: ' ' :: other) :
    ∀ d ∈ gap.head?, isWordChar d = false := by
  intro d hd
  obtain ⟨more, hmore⟩ := h
  have hfront : d ∈ (gap ++ more).head? := List.mem_head?_append_of_mem_head? hd
  rw [hmore] at hfront
  obtain rfl := Option.some.inj hfront
  decide

/-- A string that is open in a text stays open with single spaces between the
lexemes of the text. The induction is along these lexemes; none of them is a
quoted string, since that would close the open one. -/
theorem closeQuote?_respaced {text : Text} (h : EscapesNoLineEnd text)
    (hnone : closeQuote? false text = none) : closeQuote? false (respaced text) = none := by
  induction text using lexInduction with
  | nil =>
      rw [respaced_nil]
      rfl
  | blank c rest hblank ih =>
      have hc : ∀ d ∈ [c], d ≠ '"' ∧ d ≠ '\\' :=
        List.forall_mem_singleton.mpr (ne_of_not_isWordChar (by simp [isWordChar, hblank]))
      rw [respaced_blank_cons hblank]
      exact ih h.tail ((closeQuote?_append_eq_none_iff hc rest).mp hnone)
  | lexeme c rest hblank ih =>
      obtain ⟨gap, heq, hgap, -⟩ := respaced_cons hblank rest
      rw [heq]
      refine closeQuote?_of_prefix ((List.prefix_append_right_inj _).mpr hgap) ?_
      rw [← readLexeme_append c rest] at h hnone
      have hafter := ih h.right_of_append
      have hreads := readsTo_readLexeme c rest
      generalize readLexeme c rest = reading at h hnone hafter hreads
      cases hreads with
      | quoted => simp [closeQuote?] at hnone
      | paren p => exact closeQuote?_plain_append_space p.ne_of_mem_literal hafter hnone
      | connective j => exact closeQuote?_plain_append_space j.ne_of_mem_literal hafter hnone
      | word =>
          exact closeQuote?_append_space (.start h) (fun _ => isWordChar_of_mem_head?_dropWhile)
            hafter hnone

/-- The first lexeme of a text is read again before any text that begins with no
word character, if that closes no quote that is not closed before. -/
theorem readLexeme_text_append {c : Char} {rest behind more : Text} (hblank : isBlank c = false)
    (htext : (readLexeme c rest).text = c :: behind)
    (hmore : ∀ d ∈ more.head?, isWordChar d = false)
    (hopen : c = '"' → closeQuote? false rest = none →
      closeQuote? false (behind ++ more) = none) :
    readLexeme c (behind ++ more) = ⟨(readLexeme c rest).kind, c :: behind, more⟩ := by
  have halone := readLexeme_of_prefix htext List.nil_prefix
  rw [List.append_nil] at halone
  have hquote : c = '"' → closeQuote? false behind = none →
      closeQuote? false (behind ++ more) = none := by
    rintro rfl hnone
    refine hopen rfl ?_
    cases hclose : closeQuote? false rest with
    | none => rfl
    | some closed =>
        -- The lexeme would be the quoted string, which is closed at its own end.
        rw [ReadsTo.eq (.quoted hclose)] at htext
        have hself := closeQuote?_inside_append hclose []
        rw [List.append_nil, (List.cons.inj htext).2, hnone] at hself
        exact absurd hself.symm (Option.some_ne_none _)
  rw [readLexeme_append_right hblank hquote (.inr hmore), halone]
  rfl

/-- Where no backslash takes the end of a line with it, the lexemes of a text
are read again from their texts with single spaces between them. -/
theorem contents_respaced {text : Text} (h : EscapesNoLineEnd text) :
    contents (respaced text) = contents text := by
  induction text using lexInduction with
  | nil => rw [respaced_nil]
  | blank c rest hblank ih =>
      rw [respaced_blank_cons hblank, contents_blank_cons hblank, ih h.tail]
  | lexeme c rest hblank ih =>
      obtain ⟨gap, heq, hgap, hcontents⟩ := respaced_cons hblank rest
      obtain ⟨behind, htext⟩ := exists_readLexeme_text_eq_cons c rest
      have hrest : behind ++ (readLexeme c rest).after = rest := by
        have happend := readLexeme_append c rest
        rw [htext] at happend
        exact (List.cons.inj happend).2
      have hescapes : EscapesNoLineEnd (behind ++ (readLexeme c rest).after) := by
        rw [hrest]
        exact h.tail
      have hopen : c = '"' → closeQuote? false rest = none →
          closeQuote? false (behind ++ gap) = none := by
        rintro rfl hnone
        refine closeQuote?_of_prefix ((List.prefix_append_right_inj behind).mpr hgap) ?_
        refine closeQuote?_append_space (.start hescapes) ?_
          (closeQuote?_respaced hescapes.right_of_append) (by rwa [hrest])
        rw [readLexeme_open_quote hnone]
        exact fun _ => isWordChar_of_mem_head?_dropWhile
      rw [heq, htext, List.cons_append, contents_cons hblank, contents_cons hblank,
        readLexeme_text_append hblank htext (isWordChar_head?_gap hgap) hopen, htext, hcontents,
        ih hescapes.right_of_append]

/-- A quote that is not closed before a parenthesis, which a backslash takes,
and before an escaped quote. -/
theorem contents_respaced_open_quote :
    let text := "\"x\\\"y\"(\"a\\)\\\"b\t c ".toList
    EscapesNoLineEnd text ∧ respaced text = "\"x\\\"y\" ( \"a\\ ) \\\"b c".toList ∧
      contents (respaced text) = contents text := by
  intro text
  have hescapes : EscapesNoLineEnd text := by decide
  exact ⟨hescapes, by decide +kernel, contents_respaced hescapes⟩

end FilterQuery
