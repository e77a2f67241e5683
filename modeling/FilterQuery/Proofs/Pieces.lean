import FilterQuery.Proofs.Lexing
import FilterQuery.Text.Quoted
/-!
# Pieces of a query

A piece is a text whose lexemes are the same whatever follows it: every quoted
string is closed in it, and it ends with white space or a parenthesis. Pieces
in a row are read one after the other, so what a query is made of can be read
off the pieces it was written in.
-/

namespace FilterQuery

open Text

/-- The text is a piece, and `read` are its lexemes without their places. -/
structure IsPiece (text : Text) (read : List Content) : Prop where
  contents_eq : contents text = read
  closed : QuotesClosed text
  ends : ∀ c ∈ text.getLast?, isWordChar c = false

theorem QuotesClosed.of_subset {left right : Text} (h : QuotesClosed left)
    (hsubset : contents right ⊆ contents left) : QuotesClosed right :=
  fun content hcontent => h content (hsubset hcontent)

theorem QuotesClosed.of_contents_eq {left right : Text} (h : QuotesClosed left)
    (heq : contents right = contents left) : QuotesClosed right := by
  rwa [QuotesClosed, heq]

theorem QuotesClosed.trimEnd {text : Text} (h : QuotesClosed text) : QuotesClosed text.trimEnd :=
  h.of_contents_eq (contents_trimEnd text)

theorem QuotesClosed.append {left right : Text} (hleft : QuotesClosed left)
    (hapart : Apart left right) (hright : QuotesClosed right) : QuotesClosed (left ++ right) := by
  rw [QuotesClosed, contents_append hleft hapart]
  exact List.forall_mem_append.mpr ⟨hleft, hright⟩

theorem isWordChar_space : isWordChar ' ' = false := by decide

namespace IsPiece

variable {left right text : Text} {read readLeft readRight : List Content}

theorem nil : IsPiece [] [] := ⟨contents_nil, by simp [QuotesClosed], by simp⟩

theorem space : IsPiece [' '] [] := by
  have hcontents : contents [' '] = [] := contents_of_allBlank rfl
  exact ⟨hcontents, by simp [QuotesClosed, hcontents], by simp [isWordChar_space]⟩

/-- A piece after a text that it is apart from makes a piece of both. -/
theorem after (hclosed : QuotesClosed left) (hapart : Apart left right)
    (hright : IsPiece right readRight) (hne : right ≠ []) :
    IsPiece (left ++ right) (contents left ++ readRight) := by
  refine ⟨?_, hclosed.append hapart hright.closed, ?_⟩
  · rw [contents_append hclosed hapart, hright.contents_eq]
  · obtain ⟨c, hc⟩ := Option.ne_none_iff_exists'.mp (mt List.getLast?_eq_none_iff.mp hne)
    simpa [List.getLast?_append, hc] using hright.ends c hc

theorem append (hleft : IsPiece left readLeft) (hright : IsPiece right readRight) :
    IsPiece (left ++ right) (readLeft ++ readRight) := by
  by_cases hne : right = []
  · subst hne
    have hread : readRight = [] := hright.contents_eq.symm.trans contents_nil
    simpa [hread] using hleft
  · have h := after hleft.closed (.inl hleft.ends) hright hne
    rwa [hleft.contents_eq] at h

theorem append_space (h : IsPiece text read) : IsPiece (text ++ [' ']) read := by
  have hspaced := h.append space
  rwa [List.append_nil] at hspaced

/-- White space at the end of a piece may be trimmed when a piece that begins
with white space follows. -/
theorem trimEnd_append (h : IsPiece text read) (hright : IsPiece right readRight)
    (hhead : ∃ c ∈ right.head?, isWordChar c = false) :
    IsPiece (text.trimEnd ++ right) (read ++ readRight) := by
  obtain ⟨c, hc, hword⟩ := hhead
  have hapart : Apart text.trimEnd right := by
    refine .inr fun d hd => ?_
    rwa [← Option.some.inj (hc.symm.trans hd)]
  have hne : right ≠ [] := by
    rintro rfl
    simp at hc
  have hpiece := after h.closed.trimEnd hapart hright hne
  rwa [contents_trimEnd, h.contents_eq] at hpiece

/-- The end of a piece is a piece if its lexemes are among those of the whole. -/
theorem of_suffix (h : IsPiece text read) (hsuffix : right <:+ text)
    (hread : contents right = readRight) (hsubset : readRight ⊆ read) :
    IsPiece right readRight := by
  refine ⟨hread, h.closed.of_subset ?_, ?_⟩
  · rwa [hread, h.contents_eq]
  · intro c hc
    obtain ⟨first, rfl⟩ := hsuffix
    refine h.ends c ?_
    rw [Option.mem_def, List.getLast?_append, hc]
    rfl

end IsPiece

/-! ## Words -/

/-- A text that is read as a word: it is not empty, has no white space and no
parenthesis, and does not begin with a double quote or a connective. -/
structure IsBareword (text : Text) : Prop where
  ne_nil : text ≠ []
  isWordChar : ∀ c ∈ text, isWordChar c = true
  no_quote : text.head? ≠ some '"'
  no_connective : ∀ j : Connective, ¬ j.literal <+: text

instance : DecidablePred IsBareword := fun text =>
  decidable_of_iff (text ≠ [] ∧ text.all isWordChar = true ∧ text.head? ≠ some '"' ∧
      ∀ j ∈ Connective.all, ¬ j.literal <+: text)
    ⟨fun ⟨hne, hword, hquote, hjoiner⟩ =>
        ⟨hne, List.all_eq_true.mp hword, hquote, fun j => hjoiner j (by cases j <;> decide)⟩,
      fun h => ⟨h.ne_nil, List.all_eq_true.mpr h.isWordChar, h.no_quote,
        fun j _ => h.no_connective j⟩⟩

theorem ne_paren_of_isWordChar {c : Char} (h : isWordChar c = true) (p : Paren) : c ≠ p.char := by
  rintro rfl
  cases p <;> revert h <;> decide

theorem IsBareword.isFlush {text : Text} (h : IsBareword text) : IsFlush text :=
  fun c hc => isBlank_of_isWordChar (h.isWordChar c (List.mem_of_mem_head? hc))

theorem IsBareword.contents_eq {text : Text} (h : IsBareword text) :
    contents text = [(.word, text)] := by
  cases text with
  | nil => exact absurd rfl h.ne_nil
  | cons c rest =>
      obtain ⟨hc, hrest⟩ := List.forall_mem_cons.mp h.isWordChar
      have hquote : c ≠ '"' := fun heq => h.no_quote (by simp [heq])
      have hread : readLexeme c rest = readWord c rest :=
        readLexeme_word (fun heq => absurd heq hquote) (ne_paren_of_isWordChar hc) h.no_connective
      have htake : rest.takeWhile FilterQuery.isWordChar = rest :=
        List.takeWhile_eq_self_iff.mpr hrest
      have hdrop : rest.dropWhile FilterQuery.isWordChar = [] :=
        List.dropWhile_eq_nil_iff.mpr hrest
      rw [contents_cons (isBlank_of_isWordChar hc), hread]
      simp [readWord, htake, hdrop]

theorem IsBareword.of_isPrefix {front text : Text} (h : IsBareword text) (hfront : front <+: text)
    (hne : front ≠ []) : IsBareword front where
  ne_nil := hne
  isWordChar c hc := h.isWordChar c (hfront.subset hc)
  no_quote hhead := by
    obtain ⟨more, rfl⟩ := hfront
    exact h.no_quote (List.mem_head?_append_of_mem_head? hhead)
  no_connective j hbegins := h.no_connective j (hbegins.trans hfront)

theorem IsBareword.quotesClosed {text : Text} (h : IsBareword text) : QuotesClosed text := by
  intro content hcontent _
  rw [h.contents_eq, List.mem_singleton] at hcontent
  rw [hcontent]
  exact h.no_quote

theorem apart_space (text : Text) : Apart text [' '] :=
  .inr (by simp [isWordChar_space])

theorem IsBareword.isPiece {text : Text} (h : IsBareword text) :
    IsPiece (text ++ [' ']) [(.word, text)] := by
  have hpiece := IsPiece.after h.quotesClosed (apart_space text) .space (by simp)
  rwa [h.contents_eq] at hpiece

/-- What is neither a quoted string nor a parenthesis has no white space and no
parenthesis in it. -/
theorem isWordChar_of_mem_contents {text : Text} {content : Content}
    (h : content ∈ contents text) (hquote : content.2.head? ≠ some '"')
    (hparen : ∀ p : Paren, content.2 ≠ p.literal) : ∀ c ∈ content.2, isWordChar c = true := by
  cases isLexical_of_mem_contents h with
  | quoted => exact absurd rfl hquote
  | paren p => exact absurd rfl (hparen p)
  | connective j => exact fun d hd => Connective.isWordChar_of_mem_literal hd
  | word _ hchars _ => exact hchars

/-- A word among the lexemes of a text that does not begin with a double quote
is read as a word anywhere. -/
theorem isBareword_of_mem_contents {text : Text} {content : Content}
    (h : content ∈ contents text) (hkind : content.1 = .word)
    (hquote : content.2.head? ≠ some '"') : IsBareword content.2 := by
  cases isLexical_of_mem_contents h with
  | quoted => cases hkind
  | paren => cases hkind
  | connective => cases hkind
  | word hne hchars hjoiner => exact ⟨hne, hchars, hquote, hjoiner⟩

/-- A lexeme that reads like a word is a word. -/
theorem kind_eq_word_of_isBareword {text : Text} {content : Content}
    (h : content ∈ contents text) (hword : IsBareword content.2) : content.1 = .word := by
  cases isLexical_of_mem_contents h with
  | quoted => exact absurd rfl hword.no_quote
  | paren p =>
      exact absurd rfl (ne_paren_of_isWordChar (hword.isWordChar _ List.mem_cons_self) p)
  | connective j => exact absurd List.prefix_rfl (hword.no_connective j)
  | word => rfl

/-! ## Quoted strings, connectives and parentheses -/

/-- A quoted string ends at its closing quote: no backslash in it takes the end
of a line with it. -/
theorem closeQuote?_escape (text rest : Text) :
    closeQuote? false (escape text ++ '"' :: rest) = some (escape text ++ ['"'], rest) := by
  induction text with
  | nil => rfl
  | cons c text ih =>
      by_cases hescaped : c = '\\' ∨ c = '"'
      · have hline : isLineEnd c = false := by
          rcases hescaped with rfl | rfl <;> decide
        simp [escape, hescaped, closeQuote?, hline, ih]
      · obtain ⟨hslash, hquote⟩ := not_or.mp hescaped
        have hnoslash : (c == '\\') = false := by simp [hslash]
        simp [escape, hslash, hquote, closeQuote?, hnoslash, ih]

theorem quote_append (text rest : Text) :
    quote text ++ rest = '"' :: (escape text ++ '"' :: rest) := by
  rw [quote, List.append_assoc, List.singleton_append, List.cons_append]

theorem readLexeme_quote (text rest : Text) :
    readLexeme '"' (escape text ++ '"' :: rest) = ⟨.quoted, quote text, rest⟩ :=
  ReadsTo.eq (.quoted (closeQuote?_escape text rest))

theorem contents_quote (text : Text) : contents (quote text) = [(.quoted, quote text)] := by
  conv_lhs => rw [← List.append_nil (quote text), quote_append, contents_cons (by decide),
    readLexeme_quote, contents_nil]

theorem isPiece_quote (text : Text) : IsPiece (quote text ++ [' ']) [(.quoted, quote text)] := by
  have hclosed : QuotesClosed (quote text) := by simp [QuotesClosed, contents_quote]
  have hpiece := IsPiece.after hclosed (apart_space _) .space (by simp)
  rwa [contents_quote] at hpiece

theorem isPiece_paren (p : Paren) : IsPiece p.literal [(.paren p, p.literal)] := by
  have hblank : isBlank p.char = false := by cases p <;> decide
  have hcontents : contents p.literal = [(.paren p, p.literal)] := by
    rw [Paren.literal, contents_cons hblank, ReadsTo.eq (.paren p)]
    simp [Paren.literal]
  refine ⟨hcontents, by simp [QuotesClosed, hcontents], ?_⟩
  cases p <;> simp [Paren.literal, Paren.char, isWordChar]

/-- The lexemes of a group: those inside, between two parentheses. -/
def groupContents (inside : List Content) : List Content :=
  (.paren .opening, ['(']) :: inside ++ [(.paren .closing, [')'])]

/-- A text in parentheses is a piece if every quoted string is closed between
them. -/
theorem isPiece_parenthesized {body : Text} (hclosed : QuotesClosed body) :
    IsPiece ('(' :: body ++ [')']) (groupContents (contents body)) := by
  have hapart : Apart body Paren.closing.literal :=
    .inr (by simp [Paren.literal, Paren.char, isWordChar])
  have hclosing := IsPiece.after hclosed hapart (isPiece_paren .closing) (by simp [Paren.literal])
  exact (isPiece_paren .opening).append hclosing

theorem isPiece_connective (j : Connective) :
    IsPiece (' ' :: j.literal ++ [' ']) [(.connective j, j.literal)] := by
  have hcontents : contents j.literal = [(.connective j, j.literal)] := by
    cases j with
    | and =>
        have hread : readLexeme '&' ['&'] = ⟨.connective .and, ['&', '&'], []⟩ := rfl
        rw [Connective.literal, contents_cons (by decide), hread, contents_nil]
    | or =>
        have hread : readLexeme '|' ['|'] = ⟨.connective .or, ['|', '|'], []⟩ := rfl
        rw [Connective.literal, contents_cons (by decide), hread, contents_nil]
  have hclosed : QuotesClosed j.literal := by simp [QuotesClosed, hcontents]
  have hpiece := IsPiece.space.append (IsPiece.after hclosed (apart_space _) .space (by simp))
  simpa [hcontents] using hpiece

end FilterQuery
