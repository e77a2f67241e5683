import FilterQuery.Proofs.Pieces
/-!
# Composed queries

A text written behind another one keeps its lexemes, each of them moved along by
the bytes before it. So it is where no word can run on over the border and the
first text leaves no quoted string open, since what is read of that text is then
settled in it. And so it is behind any quoted value: its closing quote ends it,
whatever characters the value has and whatever follows.
-/

namespace FilterQuery

open Text

/-! ## Texts in a row -/

/-- The lexemes of two texts in a row are those of the first and those of the
second moved along, if no word of the first begins with a double quote and one of
the two is empty or has white space or a parenthesis at the border. -/
theorem lex_append {left right : Text} (hclosed : QuotesClosed left)
    (hapart : Apart left right) :
    lex (left ++ right) = lex left ++ (lex right).map (Lexeme.shift left.utf8Size) := by
  rw [lex, lexFrom_append hclosed hapart, Nat.zero_add, ← lexFrom_eq_map_shift]
  rfl

/-- A string with an escaped quote in it, behind a character of two bytes, and a
word with a quote inside it, which no quote of the second text closes. -/
theorem lex_append_inner_quote :
    let left := "ű @= \"(\\\" \" && a\"b".toList
    let right := "\t\"x\" )".toList
    QuotesClosed left ∧ Apart left right ∧
      lex (left ++ right) =
        lex left ++ [⟨.quoted, "\"x\"".toList, 20⟩, ⟨.paren .closing, [')'], 24⟩] := by
  intro left right
  have hclosed : QuotesClosed left := by decide +kernel
  have hapart : Apart left right := by
    refine .inr fun c hc => ?_
    obtain rfl : '\t' = c := Option.some.inj hc
    decide
  have hright : (lex right).map (Lexeme.shift (utf8Size left)) =
      [⟨.quoted, "\"x\"".toList, 20⟩, ⟨.paren .closing, [')'], 24⟩] := by decide +kernel
  exact ⟨hclosed, hapart, hright ▸ lex_append hclosed hapart⟩

/-- A word that begins with a double quote does not stay as it is if the quote is
closed further on. -/
example : lex ("\"a ".toList ++ "b\"".toList) ≠
    lex "\"a ".toList ++ (lex "b\"".toList).map (Lexeme.shift 3) := by
  decide +kernel

/-! ## Quoted values -/

/-- A quoted value is read back as the value. In front of any text it is one
lexeme, and the lexemes of that text follow, moved along. -/
theorem unquote?_quote_lex_append (text rest : Text) :
    unquote? (quote text) = some text ∧
      lex (quote text ++ rest) =
        ⟨.quoted, quote text, 0⟩ :: (lex rest).map (Lexeme.shift (quote text).utf8Size) := by
  refine ⟨unquote?_quote text, ?_⟩
  rw [quote_append, lex, lexFrom_cons (by decide), readLexeme_quote, Nat.zero_add,
    lexFrom_eq_map_shift]

/-- Backslashes at the end of the value, and a closing quote right behind it. -/
example : lex (quote "a\\\\".toList ++ "\"b".toList) =
    [⟨.quoted, "\"a\\\\\\\\\"".toList, 0⟩, ⟨.word, "\"b".toList, 7⟩] := by
  decide +kernel

end FilterQuery
