import FilterQuery.Connective
import FilterQuery.Text.Blank
/-!
# Lexemes

A query is read as lexemes with white space between them. A lexeme is a quoted
string, a parenthesis, a connective, or a word: a longest run of characters
that are neither white space nor parentheses. In a quoted string a backslash
takes the next character with it, unless that character ends a line; a double
quote that opens no complete quoted string begins a word. Every lexeme carries
its place, counted in bytes of the query.
-/

namespace FilterQuery

/-- The kinds of lexemes. -/
inductive LexemeKind where
  | quoted
  | paren (side : Paren)
  | connective (joiner : Connective)
  | word
deriving DecidableEq, Repr

def LexemeKind.name : LexemeKind → Text
  | .quoted => "quoted".toList
  | .paren .opening => "open_paren".toList
  | .paren .closing => "close_paren".toList
  | .connective .and => "and".toList
  | .connective .or => "or".toList
  | .word => "word".toList

def LexemeKind.isConnective : LexemeKind → Bool
  | .connective _ => true
  | _ => false

/-- A lexeme with the number of bytes before it in the query. -/
structure Lexeme where
  kind : LexemeKind
  text : Text
  start : Nat
deriving DecidableEq, Repr

/-- The number of bytes up to the end of a lexeme. -/
def Lexeme.stop (l : Lexeme) : Nat := l.start + l.text.utf8Size

def isWordChar (c : Char) : Bool := !(isBlank c || c == '(' || c == ')')

/-- The rest of a quoted string up to its closing quote, and what follows it,
`escaped` telling whether a backslash has just been read. Nothing if the string
is not closed, or if a backslash stands at its end or before the end of a
line. -/
def closeQuote? : (escaped : Bool) → Text → Option (Text × Text)
  | _, [] => none
  | true, c :: rest =>
      if isLineEnd c then none
      else (closeQuote? false rest).map fun (inside, after) => (c :: inside, after)
  | false, c :: rest =>
      if c = '"' then some (['"'], rest)
      else (closeQuote? (c == '\\') rest).map fun (inside, after) => (c :: inside, after)

/-- A lexeme at the front of a text, and what follows it. -/
structure Reading where
  kind : LexemeKind
  text : Text
  after : Text
deriving DecidableEq, Repr

def readWord (c : Char) (rest : Text) : Reading :=
  ⟨.word, c :: rest.takeWhile isWordChar, rest.dropWhile isWordChar⟩

/-- The lexeme that begins with `c`, a character that is not white space. -/
def readLexeme (c : Char) (rest : Text) : Reading :=
  if c = '"' then
    match closeQuote? false rest with
    | some (inside, after) => ⟨.quoted, '"' :: inside, after⟩
    | none => readWord c rest
  else if c = '(' then ⟨.paren .opening, ['('], rest⟩
  else if c = ')' then ⟨.paren .closing, [')'], rest⟩
  else if c = '&' then
    match rest with
    | '&' :: after => ⟨.connective .and, ['&', '&'], after⟩
    | _ => readWord c rest
  else if c = '|' then
    match rest with
    | '|' :: after => ⟨.connective .or, ['|', '|'], after⟩
    | _ => readWord c rest
  else readWord c rest

/-! ## Quoted strings, one character at a time -/

theorem closeQuote?_nil (escaped : Bool) : closeQuote? escaped [] = none := by
  cases escaped <;> rfl

/-- A string is not closed if a backslash takes the end of a line, or if it goes
on and is not closed later. -/
theorem closeQuote?_cons_eq_none_iff {escaped : Bool} {c : Char} {rest : Text} :
    closeQuote? escaped (c :: rest) = none ↔
      escaped = true ∧ isLineEnd c = true ∨
        (escaped = true ∨ c ≠ '"') ∧ closeQuote? (!escaped && c == '\\') rest = none := by
  cases escaped with
  | true => by_cases hend : isLineEnd c = true <;> simp [closeQuote?, hend]
  | false => by_cases hquote : c = '"' <;> simp [closeQuote?, hquote]

/-- A string is closed by a quote that no backslash takes, or goes on and is
closed later. -/
theorem closeQuote?_cons_eq_some_iff {escaped : Bool} {c : Char} {rest inside after : Text} :
    closeQuote? escaped (c :: rest) = some (inside, after) ↔
      escaped = false ∧ c = '"' ∧ inside = ['"'] ∧ after = rest ∨
        (escaped = true → isLineEnd c = false) ∧ (escaped = true ∨ c ≠ '"') ∧
          ∃ inner, inside = c :: inner ∧
            closeQuote? (!escaped && c == '\\') rest = some (inner, after) := by
  have hmap : ∀ reading : Option (Text × Text),
      (reading.map fun (inside, after) => (c :: inside, after)) = some (inside, after) ↔
        ∃ inner, inside = c :: inner ∧ reading = some (inner, after) := by
    intro reading
    constructor
    · intro h
      obtain ⟨⟨inner, tail⟩, hinner, heq⟩ := Option.map_eq_some_iff.mp h
      obtain ⟨rfl, rfl⟩ := Prod.mk.inj heq
      exact ⟨inner, rfl, hinner⟩
    · rintro ⟨inner, rfl, h⟩
      rw [h]
      rfl
  cases escaped with
  | true => by_cases hend : isLineEnd c = true <;> simp [closeQuote?, hend, hmap]
  | false =>
      by_cases hquote : c = '"'
      · simp [closeQuote?, hquote, @eq_comm _ inside, @eq_comm _ after]
      · simp [closeQuote?, hquote, hmap]

/-! ## No character is lost -/

theorem closeQuote?_eq_append {escaped : Bool} {text inside after : Text}
    (h : closeQuote? escaped text = some (inside, after)) : text = inside ++ after := by
  induction text generalizing escaped inside with
  | nil => simp [closeQuote?_nil] at h
  | cons c text ih =>
      rcases closeQuote?_cons_eq_some_iff.mp h with
        ⟨-, rfl, rfl, rfl⟩ | ⟨-, -, inner, rfl, hinner⟩
      · rfl
      · rw [ih hinner, List.cons_append]

theorem readWord_append (c : Char) (rest : Text) :
    (readWord c rest).text ++ (readWord c rest).after = c :: rest := by
  simp [readWord, List.takeWhile_append_dropWhile]

/-- A lexeme and what follows it make up the text it was read from. -/
theorem readLexeme_append (c : Char) (rest : Text) :
    (readLexeme c rest).text ++ (readLexeme c rest).after = c :: rest := by
  unfold readLexeme
  split
  next hquote =>
    split
    next inside after hclose => simp [closeQuote?_eq_append hclose, hquote]
    next => exact readWord_append c rest
  next =>
    split
    next hopen => simp [hopen]
    next =>
      split
      next hclose => simp [hclose]
      next =>
        split
        next hand =>
          split
          · simp [hand]
          · exact readWord_append c _
        next =>
          split
          next hor =>
            split
            · simp [hor]
            · exact readWord_append c _
          next => exact readWord_append c rest

/-- A lexeme is never empty. -/
theorem readLexeme_ne_nil (c : Char) (rest : Text) : (readLexeme c rest).text ≠ [] := by
  have hword : (readWord c rest).text ≠ [] := by simp [readWord]
  unfold readLexeme
  split
  · split
    · simp
    · exact hword
  · split
    · simp
    · split
      · simp
      · split
        · split
          · simp
          · simp [readWord]
        · split
          · split
            · simp
            · simp [readWord]
          · exact hword

/-- What follows a lexeme is shorter than the text it was read from. -/
theorem length_readLexeme_lt (c : Char) (rest : Text) :
    (readLexeme c rest).after.length < (c :: rest).length := by
  have happend := congrArg List.length (readLexeme_append c rest)
  have hpos := List.length_pos_iff.mpr (readLexeme_ne_nil c rest)
  rw [List.length_append] at happend
  omega

/-! ## Reading a query -/

/-- The lexemes of a text that has `offset` bytes before it. -/
def lexFrom (offset : Nat) (text : Text) : List Lexeme :=
  let start := offset + Text.utf8Size (text.takeWhile isBlank)
  match _h : text.trimStart with
  | [] => []
  | c :: rest =>
      let first := readLexeme c rest
      ⟨first.kind, first.text, start⟩ :: lexFrom (start + first.text.utf8Size) first.after
termination_by text.length
decreasing_by
  have hread := length_readLexeme_lt c rest
  have htrim := Text.length_trimStart_le text
  rw [_h] at htrim
  exact Nat.lt_of_lt_of_le hread htrim

def lex (query : Text) : List Lexeme := lexFrom 0 query

end FilterQuery
