import FilterQuery.Lexeme
import FilterQuery.Proofs.Trimming
/-!
# Lexing text in parts

What a lexeme is, its place apart, depends on the text around it in two ways
only: a word runs on into word characters that follow it, and a double quote
that begins a word would begin a quoted string if one followed later. Where
neither can happen, the lexemes of two texts in a row are those of the one and
those of the other.
-/

namespace FilterQuery

open Text

/-! ## One lexeme at a time -/

theorem lexFrom_of_allBlank {text : Text} (h : text.allBlank = true) (offset : Nat) :
    lexFrom offset text = [] := by
  have htrim := trimStart_eq_nil_iff.mpr h
  rw [lexFrom]
  split
  next => rfl
  next c rest hcons => simp [htrim] at hcons

theorem lexFrom_of_trimStart {c : Char} {text rest : Text} (h : text.trimStart = c :: rest)
    (offset : Nat) :
    lexFrom offset text =
      ⟨(readLexeme c rest).kind, (readLexeme c rest).text,
          offset + utf8Size (text.takeWhile isBlank)⟩ ::
        lexFrom (offset + utf8Size (text.takeWhile isBlank) + (readLexeme c rest).text.utf8Size)
          (readLexeme c rest).after := by
  rw [lexFrom]
  split
  next hnil => simp [h] at hnil
  next d after hcons =>
    obtain ⟨rfl, rfl⟩ := List.cons.inj (h.symm.trans hcons)
    rfl

theorem lexFrom_blank_cons {c : Char} (h : isBlank c = true) (offset : Nat) (rest : Text) :
    lexFrom offset (c :: rest) = lexFrom (offset + c.utf8Size) rest := by
  have htrim : trimStart (c :: rest) = trimStart rest := by simp [trimStart, h]
  cases hrest : trimStart rest with
  | nil =>
      rw [lexFrom_of_allBlank (trimStart_eq_nil_iff.mp (htrim.trans hrest)),
        lexFrom_of_allBlank (trimStart_eq_nil_iff.mp hrest)]
  | cons d after =>
      rw [lexFrom_of_trimStart (htrim.trans hrest), lexFrom_of_trimStart hrest]
      simp only [List.takeWhile_cons, h, if_true, utf8Size_cons, Nat.add_assoc]

theorem lexFrom_cons {c : Char} (h : isBlank c = false) (offset : Nat) (rest : Text) :
    lexFrom offset (c :: rest) =
      ⟨(readLexeme c rest).kind, (readLexeme c rest).text, offset⟩ ::
        lexFrom (offset + (readLexeme c rest).text.utf8Size) (readLexeme c rest).after := by
  rw [lexFrom_of_trimStart (isFlush_cons.mpr h).trimStart_eq]
  simp [h]

/-- To prove something of every text, prove it of the empty one, of a blank
character and what follows it, and of a lexeme and what follows it. -/
@[elab_as_elim]
theorem lexInduction {motive : Text → Prop} (text : Text) (nil : motive [])
    (blank : ∀ c rest, isBlank c = true → motive rest → motive (c :: rest))
    (lexeme : ∀ c rest, isBlank c = false → motive (readLexeme c rest).after →
      motive (c :: rest)) : motive text := by
  match text with
  | [] => exact nil
  | c :: rest =>
      cases h : isBlank c with
      | true => exact blank c rest h (lexInduction rest nil blank lexeme)
      | false =>
          exact lexeme c rest h (lexInduction (readLexeme c rest).after nil blank lexeme)
termination_by text.length
decreasing_by
  · exact length_readLexeme_lt c rest
  · exact Nat.lt_succ_self rest.length

/-! ## Moving lexemes -/

/-- A lexeme in a query that has so many bytes more before it. -/
def Lexeme.shift (bytes : Nat) (l : Lexeme) : Lexeme := { l with start := bytes + l.start }

/-- Bytes before a text move its lexemes and do nothing else to them. -/
theorem lexFrom_add (bytes offset : Nat) (text : Text) :
    lexFrom (bytes + offset) text = (lexFrom offset text).map (Lexeme.shift bytes) := by
  induction text using lexInduction generalizing offset with
  | nil => rw [lexFrom_of_allBlank rfl, lexFrom_of_allBlank rfl, List.map_nil]
  | blank c rest hblank ih =>
      rw [lexFrom_blank_cons hblank, lexFrom_blank_cons hblank, Nat.add_assoc, ih]
  | lexeme c rest hblank ih =>
      rw [lexFrom_cons hblank, lexFrom_cons hblank, Nat.add_assoc, ih, List.map_cons]
      rfl

theorem lexFrom_eq_map_shift (bytes : Nat) (text : Text) :
    lexFrom bytes text = (lex text).map (Lexeme.shift bytes) :=
  lexFrom_add bytes 0 text

/-! ## Lexemes without their places -/

/-- What a lexeme is, its place in the query apart: its kind and its text. -/
abbrev Content := LexemeKind × Text

/-- The kind and the text of a lexeme. -/
def Lexeme.content (l : Lexeme) : Content := (l.kind, l.text)

/-- The lexemes of a text without their places. -/
def contents (text : Text) : List Content := (lex text).map Lexeme.content

/-- The lexemes of a text as they are written. -/
def lexemeTexts (text : Text) : List Text := (contents text).map Prod.snd

/-- Where a text stands in a query does not change what its lexemes are. -/
theorem map_content_lexFrom (offset : Nat) (text : Text) :
    (lexFrom offset text).map Lexeme.content = contents text := by
  rw [lexFrom_eq_map_shift, List.map_map]
  rfl

theorem contents_of_allBlank {text : Text} (h : text.allBlank = true) : contents text = [] := by
  rw [contents, lex, lexFrom_of_allBlank h]
  rfl

@[simp] theorem contents_nil : contents [] = [] := contents_of_allBlank rfl

theorem contents_blank_cons {c : Char} (h : isBlank c = true) (rest : Text) :
    contents (c :: rest) = contents rest := by
  rw [contents, lex, lexFrom_blank_cons h, map_content_lexFrom]

theorem contents_cons {c : Char} (h : isBlank c = false) (rest : Text) :
    contents (c :: rest) =
      ((readLexeme c rest).kind, (readLexeme c rest).text) ::
        contents (readLexeme c rest).after := by
  rw [contents, lex, lexFrom_cons h, List.map_cons, map_content_lexFrom]
  rfl

theorem contents_eq_nil_iff {text : Text} : contents text = [] ↔ text.allBlank = true := by
  refine ⟨fun h => ?_, contents_of_allBlank⟩
  induction text using lexInduction with
  | nil => rfl
  | blank c rest hc ih =>
      rw [contents_blank_cons hc] at h
      simp only [allBlank, List.all_cons, hc, Bool.true_and]
      exact ih h
  | lexeme c rest hc _ => simp [contents_cons hc] at h

/-- Every lexeme of a text is read at a character that is not white space. -/
theorem exists_readLexeme_of_mem {text : Text} {content : Content} (h : content ∈ contents text) :
    ∃ c rest, isBlank c = false ∧
      content = ((readLexeme c rest).kind, (readLexeme c rest).text) := by
  induction text using lexInduction with
  | nil => simp at h
  | blank c rest hc ih =>
      rw [contents_blank_cons hc] at h
      exact ih h
  | lexeme c rest hc ih =>
      rw [contents_cons hc, List.mem_cons] at h
      rcases h with heq | hmem
      · exact ⟨c, rest, hc, heq⟩
      · exact ih hmem

theorem ne_nil_of_mem_contents {text : Text} {content : Content} (h : content ∈ contents text) :
    content.2 ≠ [] := by
  obtain ⟨c, rest, -, rfl⟩ := exists_readLexeme_of_mem h
  exact readLexeme_ne_nil c rest

/-- A lexeme begins with the character that it is read at. -/
theorem exists_readLexeme_text_eq_cons (c : Char) (rest : Text) :
    ∃ text, (readLexeme c rest).text = c :: text := by
  obtain ⟨d, text, htext⟩ := List.exists_cons_of_ne_nil (readLexeme_ne_nil c rest)
  have happend := readLexeme_append c rest
  rw [htext, List.cons_append] at happend
  exact ⟨text, by rw [htext, (List.cons.inj happend).1]⟩

/-! ## How a lexeme is read -/

/-- How the lexeme that begins with `c` is read, one rule for each kind. -/
inductive ReadsTo : (c : Char) → (rest : Text) → Reading → Prop
  | quoted {rest inside after : Text} : closeQuote? false rest = some (inside, after) →
      ReadsTo '"' rest ⟨.quoted, '"' :: inside, after⟩
  | paren {rest : Text} (p : Paren) : ReadsTo p.char rest ⟨.paren p, p.literal, rest⟩
  | connective {c : Char} {rest after : Text} (j : Connective) :
      c :: rest = j.literal ++ after → ReadsTo c rest ⟨.connective j, j.literal, after⟩
  | word {c : Char} {rest : Text} : (c = '"' → closeQuote? false rest = none) →
      (∀ p : Paren, c ≠ p.char) → (∀ j : Connective, ¬ j.literal <+: c :: rest) →
        ReadsTo c rest (readWord c rest)

theorem readLexeme_word {c : Char} {rest : Text} (hquote : c = '"' → closeQuote? false rest = none)
    (hparen : ∀ p : Paren, c ≠ p.char) (hjoiner : ∀ j : Connective, ¬ j.literal <+: c :: rest) :
    readLexeme c rest = readWord c rest := by
  have hopen := hparen .opening
  have hclose := hparen .closing
  have hand := hjoiner .and
  have hor := hjoiner .or
  simp only [Paren.char] at hopen hclose
  simp only [Connective.literal] at hand hor
  unfold readLexeme
  by_cases hq : c = '"'
  · rw [if_pos hq, hquote hq]
  · rw [if_neg hq, if_neg hopen, if_neg hclose]
    split
    next hc =>
      split
      next after => simp [hc] at hand
      next => rfl
    next =>
      split
      next hc =>
        split
        next after => simp [hc] at hor
        next => rfl
      next => rfl

/-- A quote that is not closed begins a word. -/
theorem readLexeme_open_quote {rest : Text} (h : closeQuote? false rest = none) :
    readLexeme '"' rest = readWord '"' rest :=
  readLexeme_word (fun _ => h) (by rintro (_ | _) <;> decide)
    (by rintro (_ | _) <;> simp [Connective.literal])

theorem ReadsTo.eq {c : Char} {rest : Text} {reading : Reading} (h : ReadsTo c rest reading) :
    readLexeme c rest = reading := by
  cases h with
  | quoted hclose => simp [readLexeme, hclose]
  | paren p => cases p <;> rfl
  | connective j heq =>
      cases j with
      | and =>
          obtain ⟨rfl, rfl⟩ := List.cons.inj heq
          rfl
      | or =>
          obtain ⟨rfl, rfl⟩ := List.cons.inj heq
          rfl
  | word hquote hparen hjoiner => exact readLexeme_word hquote hparen hjoiner

theorem readsTo_readLexeme (c : Char) (rest : Text) : ReadsTo c rest (readLexeme c rest) := by
  by_cases hparen : ∀ p : Paren, c ≠ p.char
  · by_cases hjoiner : ∀ j : Connective, ¬ j.literal <+: c :: rest
    · by_cases hquote : c = '"' → closeQuote? false rest = none
      · rw [readLexeme_word hquote hparen hjoiner]
        exact .word hquote hparen hjoiner
      · obtain ⟨rfl, hclose⟩ := Classical.not_imp.mp hquote
        obtain ⟨⟨inside, after⟩, hclose⟩ := Option.ne_none_iff_exists'.mp hclose
        have hreads := ReadsTo.quoted hclose
        rwa [hreads.eq]
    · obtain ⟨j, hj⟩ := Classical.not_forall.mp hjoiner
      obtain ⟨after, heq⟩ := Classical.not_not.mp hj
      have hreads := ReadsTo.connective j heq.symm
      rwa [hreads.eq]
  · obtain ⟨p, hp⟩ := Classical.not_forall.mp hparen
    obtain rfl := Classical.not_not.mp hp
    have hreads : ReadsTo p.char rest ⟨.paren p, p.literal, rest⟩ := .paren p
    rwa [hreads.eq]

/-! ## What can follow a text -/

/-- No word of the text begins with a double quote, so every quoted string that
is opened in it is closed in it. -/
def QuotesClosed (text : Text) : Prop :=
  ∀ content ∈ contents text, content.1 = .word → content.2.head? ≠ some '"'

instance : DecidablePred QuotesClosed := fun text =>
  inferInstanceAs (Decidable (∀ content ∈ contents text,
    content.1 = .word → content.2.head? ≠ some '"'))

/-- No word can run on from the end of one text into another. -/
def Apart (left right : Text) : Prop :=
  (∀ c ∈ left.getLast?, isWordChar c = false) ∨ ∀ c ∈ right.head?, isWordChar c = false

theorem Apart.of_append {first left right : Text} (h : Apart (first ++ left) right) :
    Apart left right := by
  refine h.imp_left fun hlast c hc => hlast c ?_
  rw [Option.mem_def] at hc ⊢
  simp [List.getLast?_append, hc]

theorem Apart.of_cons {c : Char} {rest right : Text} (h : Apart (c :: rest) right) :
    Apart rest right := by
  change Apart ([c] ++ rest) right at h
  exact h.of_append

/-- A word at the end of a text is the same word with a text apart from it
behind. -/
theorem Apart.span_append {c : Char} {rest right : Text} (hc : isWordChar c = true)
    (h : Apart (c :: rest) right) :
    (rest ++ right).takeWhile isWordChar = rest.takeWhile isWordChar ∧
      (rest ++ right).dropWhile isWordChar = rest.dropWhile isWordChar ++ right := by
  induction rest generalizing c with
  | nil =>
      rcases h with hlast | hhead
      · simp [hc] at hlast
      · cases right with
        | nil => simp
        | cons d right => simp [hhead d rfl]
  | cons d rest ih =>
      cases hd : isWordChar d with
      | true =>
          have hspan := ih hd h.of_cons
          simp [hd, hspan.1, hspan.2]
      | false => simp [hd]

/-- A quoted string that is closed is closed at the same place whatever follows
it. -/
theorem closeQuote?_inside_append {escaped : Bool} {text inside after : Text}
    (h : closeQuote? escaped text = some (inside, after)) (more : Text) :
    closeQuote? escaped (inside ++ more) = some (inside, more) := by
  induction text generalizing escaped inside with
  | nil => simp [closeQuote?_nil] at h
  | cons c text ih =>
      rcases closeQuote?_cons_eq_some_iff.mp h with
        ⟨rfl, rfl, rfl, -⟩ | ⟨hline, hquote, inner, rfl, hinner⟩
      · rfl
      · exact closeQuote?_cons_eq_some_iff.mpr (.inr ⟨hline, hquote, inner, rfl, ih hinner⟩)

theorem closeQuote?_append {escaped : Bool} {text inside after : Text}
    (h : closeQuote? escaped text = some (inside, after)) (more : Text) :
    closeQuote? escaped (text ++ more) = some (inside, after ++ more) := by
  rw [closeQuote?_eq_append h, List.append_assoc]
  exact closeQuote?_inside_append h (after ++ more)

theorem closeQuote?_getLast? {escaped : Bool} {text inside after : Text}
    (h : closeQuote? escaped text = some (inside, after)) : inside.getLast? = some '"' := by
  induction text generalizing escaped inside with
  | nil => simp [closeQuote?_nil] at h
  | cons c text ih =>
      rcases closeQuote?_cons_eq_some_iff.mp h with ⟨-, -, rfl, -⟩ | ⟨-, -, inner, rfl, hinner⟩
      · rfl
      · rw [List.getLast?_cons, ih hinner]
        rfl

/-- What is not closed in a text is not closed in a front part of it. -/
theorem closeQuote?_of_prefix {escaped : Bool} {front text : Text} (hfront : front <+: text)
    (h : closeQuote? escaped text = none) : closeQuote? escaped front = none := by
  obtain ⟨more, rfl⟩ := hfront
  cases hclose : closeQuote? escaped front with
  | none => rfl
  | some closed =>
      rw [closeQuote?_append hclose more] at h
      exact absurd h (Option.some_ne_none _)

theorem closeQuote?_of_notMem {escaped : Bool} {text : Text} (h : '"' ∉ text) :
    closeQuote? escaped text = none := by
  induction text generalizing escaped with
  | nil => exact closeQuote?_nil escaped
  | cons c text ih =>
      rw [List.mem_cons, not_or] at h
      exact closeQuote?_cons_eq_none_iff.mpr (.inr ⟨.inr (Ne.symm h.1), ih h.2⟩)

/-- White space closes no quoted string. -/
theorem closeQuote?_append_blank {escaped : Bool} {text gap : Text}
    (h : closeQuote? escaped text = none) (hgap : gap.allBlank = true) :
    closeQuote? escaped (text ++ gap) = none := by
  induction text generalizing escaped with
  | nil =>
      refine closeQuote?_of_notMem fun hmem => ?_
      exact absurd (allBlank_iff.mp hgap _ hmem) (by decide)
  | cons c text ih =>
      rw [List.cons_append, closeQuote?_cons_eq_none_iff]
      exact (closeQuote?_cons_eq_none_iff.mp h).imp_right (And.imp_right ih)

theorem Connective.isWordChar_of_mem_literal {j : Connective} {c : Char} (h : c ∈ j.literal) :
    isWordChar c = true := by
  cases j <;>
    simp only [Connective.literal, List.mem_cons, List.not_mem_nil, or_false, or_self] at h <;>
    subst h <;> decide

theorem isWordChar_of_not_blank {c : Char} (hblank : isBlank c = false)
    (hparen : ∀ p : Paren, c ≠ p.char) : isWordChar c = true := by
  have hopen : c ≠ '(' := hparen .opening
  have hclose : c ≠ ')' := hparen .closing
  simp [isWordChar, hblank, hopen, hclose]

/-- What a lexeme can be, one rule for each kind. -/
inductive IsLexical : Content → Prop
  | quoted {rest inside after : Text} : closeQuote? false rest = some (inside, after) →
      IsLexical (.quoted, '"' :: inside)
  | paren (p : Paren) : IsLexical (.paren p, p.literal)
  | connective (j : Connective) : IsLexical (.connective j, j.literal)
  | word {text : Text} : text ≠ [] → (∀ c ∈ text, isWordChar c = true) →
      (∀ j : Connective, ¬ j.literal <+: text) → IsLexical (.word, text)

theorem isLexical_of_mem_contents {text : Text} {content : Content} (h : content ∈ contents text) :
    IsLexical content := by
  obtain ⟨c, rest, hblank, rfl⟩ := exists_readLexeme_of_mem h
  have hreads := readsTo_readLexeme c rest
  generalize readLexeme c rest = reading at hreads
  cases hreads with
  | quoted hclose => exact .quoted hclose
  | paren p => exact .paren p
  | connective j => exact .connective j
  | word _ hparen hjoiner =>
      have hfront : c :: rest.takeWhile isWordChar <+: c :: rest :=
        List.cons_prefix_cons.mpr ⟨rfl, List.takeWhile_prefix _⟩
      refine .word (List.cons_ne_nil _ _) ?_ fun j hj => hjoiner j (hj.trans hfront)
      exact List.forall_mem_cons.mpr
        ⟨isWordChar_of_not_blank hblank hparen, fun d hd => List.mem_takeWhile_imp hd⟩

theorem isBlank_of_isWordChar {c : Char} (h : isWordChar c = true) : isBlank c = false := by
  cases hblank : isBlank c with
  | true => simp [isWordChar, hblank] at h
  | false => rfl

/-- A text that is apart from a word makes no connective of it. -/
theorem Apart.not_begins_connective {c : Char} {rest right : Text} (hc : isWordChar c = true)
    (hapart : Apart (c :: rest) right) {j : Connective} (h : ¬ j.literal <+: c :: rest) :
    ¬ j.literal <+: c :: (rest ++ right) := by
  intro hbegins
  have hlength : j.literal.length = 2 := by cases j <;> rfl
  cases rest with
  | cons d rest =>
      refine h (List.prefix_of_prefix_length_le hbegins (List.prefix_append _ right) ?_)
      simp [hlength]
  | nil =>
      rcases hapart with hlast | hhead
      · simp [hc] at hlast
      · -- The connective would lie across the border, but `right` begins with no word character.
        obtain ⟨after, heq⟩ := hbegins
        cases right with
        | nil =>
            have hlong := congrArg List.length heq
            simp only [List.length_append, List.length_cons, List.length_nil, hlength] at hlong
            omega
        | cons d right =>
            change j.literal ++ after = [c, d] ++ right at heq
            have hpair : j.literal = [c, d] := (List.append_inj heq (by simp [hlength])).1
            have hmem : d ∈ j.literal := by simp [hpair]
            have hd := Connective.isWordChar_of_mem_literal hmem
            rw [hhead d rfl] at hd
            exact absurd hd Bool.false_ne_true

/-- The first lexeme of a text is not changed by a text that is apart from it,
unless that one closes a quoted string. -/
theorem readLexeme_append_right {c : Char} {rest right : Text} (hblank : isBlank c = false)
    (hquote : c = '"' → closeQuote? false rest = none → closeQuote? false (rest ++ right) = none)
    (hapart : Apart (c :: rest) right) :
    readLexeme c (rest ++ right) =
      ⟨(readLexeme c rest).kind, (readLexeme c rest).text,
        (readLexeme c rest).after ++ right⟩ := by
  have hreads := readsTo_readLexeme c rest
  generalize readLexeme c rest = reading at hreads
  cases hreads with
  | quoted hclose => exact ReadsTo.eq (.quoted (closeQuote?_append hclose right))
  | paren p => exact ReadsTo.eq (.paren p)
  | connective j heq =>
      refine ReadsTo.eq (.connective j ?_)
      rw [← List.cons_append, heq, List.append_assoc]
  | word hnone hparen hjoiner =>
      have hc := isWordChar_of_not_blank hblank hparen
      obtain ⟨htake, hdrop⟩ := hapart.span_append hc
      rw [ReadsTo.eq (.word (fun h => hquote h (hnone h)) hparen
        (fun j => hapart.not_begins_connective hc (hjoiner j)))]
      simp only [readWord, htake, hdrop]

/-- A run of characters of one sort ends where a character of another sort
follows it. -/
theorem span_append_of_stop {sort : Char → Bool} {text more : Text}
    (htext : ∀ c ∈ text, sort c = true) (hmore : ∀ c ∈ more.head?, sort c = false) :
    (text ++ more).takeWhile sort = text ∧ (text ++ more).dropWhile sort = more := by
  rw [List.takeWhile_append_of_pos htext, List.dropWhile_append_of_pos htext]
  cases more with
  | nil => simp
  | cons c more => simp [hmore c rfl]

/-- What follows a run of word characters begins with another character. -/
theorem isWordChar_of_mem_head?_dropWhile {text : Text} {c : Char}
    (h : c ∈ (text.dropWhile isWordChar).head?) : isWordChar c = false := by
  have hstop := List.head?_dropWhile_not isWordChar text
  rw [Option.mem_def] at h
  rwa [h] at hstop

/-- The first lexeme of a text is not changed either if the text ends sooner,
after that lexeme. -/
theorem readLexeme_of_prefix {c : Char} {rest text more : Text}
    (htext : (readLexeme c rest).text = c :: text) (hmore : more <+: (readLexeme c rest).after) :
    readLexeme c (text ++ more) = ⟨(readLexeme c rest).kind, c :: text, more⟩ := by
  have hreads := readsTo_readLexeme c rest
  generalize readLexeme c rest = reading at hreads htext hmore
  cases hreads with
  | quoted hclose =>
      obtain rfl := (List.cons.inj htext).2
      exact ReadsTo.eq (.quoted (closeQuote?_inside_append hclose more))
  | paren p =>
      obtain rfl : [] = text := (List.cons.inj htext).2
      exact ReadsTo.eq (.paren p)
  | connective j =>
      have hliteral : j.literal = c :: text := htext
      have hreads : ReadsTo c (text ++ more) ⟨.connective j, j.literal, more⟩ := by
        refine .connective j ?_
        rw [hliteral, List.cons_append]
      rw [hreads.eq, hliteral]
  | word hnone hparen hjoiner =>
      obtain rfl := (List.cons.inj htext).2
      -- What is left of the text is a front part of it, so it closes no quoted string and begins
      -- with no connective that the whole does not close or begin with.
      obtain ⟨behind, hbehind⟩ := hmore
      have hbehind : more ++ behind = rest.dropWhile isWordChar := hbehind
      have hrest : rest.takeWhile isWordChar ++ more ++ behind = rest := by
        rw [List.append_assoc, hbehind]
        exact List.takeWhile_append_dropWhile
      have hhead : ∀ d ∈ more.head?, isWordChar d = false := by
        intro d hd
        have hrun : d ∈ (rest.dropWhile isWordChar).head? := by
          rw [← hbehind]
          exact List.mem_head?_append_of_mem_head? hd
        exact isWordChar_of_mem_head?_dropWhile hrun
      obtain ⟨htake, hdrop⟩ := span_append_of_stop (fun d hd => List.mem_takeWhile_imp hd) hhead
      refine (ReadsTo.eq (.word (fun hquote => ?_) hparen fun j hbegins => ?_)).trans ?_
      · have hfront : rest.takeWhile isWordChar ++ more <+: rest := ⟨behind, hrest⟩
        exact closeQuote?_of_prefix hfront (hnone hquote)
      · refine hjoiner j (hbegins.trans ⟨behind, ?_⟩)
        rw [List.cons_append, hrest]
      · rw [readWord, htake, hdrop]
        rfl

/-! ## Texts in a row -/

theorem QuotesClosed.of_blank_cons {c : Char} {rest : Text} (hblank : isBlank c = true)
    (h : QuotesClosed (c :: rest)) : QuotesClosed rest := by
  rwa [QuotesClosed, contents_blank_cons hblank] at h

theorem QuotesClosed.after {c : Char} {rest : Text} (hblank : isBlank c = false)
    (h : QuotesClosed (c :: rest)) : QuotesClosed (readLexeme c rest).after := by
  intro content hcontent
  exact h content (by rw [contents_cons hblank]; exact List.mem_cons_of_mem _ hcontent)

theorem QuotesClosed.closeQuote?_ne_none {rest : Text} (h : QuotesClosed ('"' :: rest)) :
    closeQuote? false rest ≠ none := by
  intro hnone
  have hblank : isBlank '"' = false := by decide
  refine h (.word, (readWord '"' rest).text) ?_ rfl rfl
  rw [contents_cons hblank, readLexeme_open_quote hnone]
  exact List.mem_cons_self

theorem Apart.after {c : Char} {rest right : Text} (h : Apart (c :: rest) right) :
    Apart (readLexeme c rest).after right := by
  rw [← readLexeme_append c rest] at h
  exact h.of_append

/-- The lexemes of two texts in a row. The induction is along the lexemes of
the first one. -/
theorem lexFrom_append {left right : Text} (hclosed : QuotesClosed left)
    (hapart : Apart left right) (offset : Nat) :
    lexFrom offset (left ++ right) =
      lexFrom offset left ++ lexFrom (offset + left.utf8Size) right := by
  induction left using lexInduction generalizing offset with
  | nil =>
      have hnil : lexFrom offset [] = [] := lexFrom_of_allBlank rfl offset
      rw [List.nil_append, hnil]
      rfl
  | blank c rest hblank ih =>
      rw [List.cons_append, lexFrom_blank_cons hblank, lexFrom_blank_cons hblank,
        ih (hclosed.of_blank_cons hblank) hapart.of_cons, utf8Size_cons, Nat.add_assoc]
  | lexeme c rest hblank ih =>
      have hquote : c = '"' → closeQuote? false rest = none →
          closeQuote? false (rest ++ right) = none := by
        -- An open quote would begin a word of `left`, and no word there begins with one.
        rintro rfl hnone
        exact absurd hnone hclosed.closeQuote?_ne_none
      have hread := readLexeme_append_right hblank hquote hapart
      have hsize := congrArg utf8Size (readLexeme_append c rest)
      rw [utf8Size_append] at hsize
      rw [List.cons_append, lexFrom_cons hblank, lexFrom_cons hblank, hread,
        ih (hclosed.after hblank) hapart.after, ← hsize, Nat.add_assoc]
      rfl

/-- White space at the end of a text is no lexeme. -/
theorem lexFrom_append_blank {gap : Text} (hgap : gap.allBlank = true) (offset : Nat)
    (text : Text) : lexFrom offset (text ++ gap) = lexFrom offset text := by
  have hhead : ∀ c ∈ gap.head?, isWordChar c = false := by
    intro c hc
    simp [isWordChar, allBlank_iff.mp hgap c (List.mem_of_mem_head? hc)]
  induction text using lexInduction generalizing offset with
  | nil => rw [List.nil_append, lexFrom_of_allBlank hgap, lexFrom_of_allBlank rfl]
  | blank c rest hblank ih =>
      rw [List.cons_append, lexFrom_blank_cons hblank, lexFrom_blank_cons hblank, ih]
  | lexeme c rest hblank ih =>
      have hquote : c = '"' → closeQuote? false rest = none →
          closeQuote? false (rest ++ gap) = none :=
        fun _ hnone => closeQuote?_append_blank hnone hgap
      have hread := readLexeme_append_right hblank hquote (.inr hhead)
      rw [List.cons_append, lexFrom_cons hblank, lexFrom_cons hblank, hread, ih]

theorem contents_append {left right : Text} (hclosed : QuotesClosed left)
    (hapart : Apart left right) :
    contents (left ++ right) = contents left ++ contents right := by
  rw [contents, lex, lexFrom_append hclosed hapart, List.map_append, map_content_lexFrom,
    map_content_lexFrom]

theorem contents_append_blank {gap : Text} (hgap : gap.allBlank = true) (text : Text) :
    contents (text ++ gap) = contents text := by
  rw [contents, lex, lexFrom_append_blank hgap]
  rfl

theorem contents_blank_append {gap : Text} (hgap : gap.allBlank = true) (text : Text) :
    contents (gap ++ text) = contents text := by
  induction gap with
  | nil => rfl
  | cons c gap ih =>
      simp only [allBlank, List.all_cons, Bool.and_eq_true] at hgap
      rw [List.cons_append, contents_blank_cons hgap.1, ih hgap.2]

theorem contents_trimEnd (text : Text) : contents text.trimEnd = contents text := by
  obtain ⟨gap, hgap, htext⟩ := exists_trimEnd_append text
  conv_rhs => rw [htext, contents_append_blank hgap]

theorem contents_trimStart (text : Text) : contents text.trimStart = contents text := by
  obtain ⟨gap, hgap, htext⟩ := exists_append_trimStart text
  conv_rhs => rw [htext, contents_blank_append hgap]

theorem contents_trim (text : Text) : contents text.trim = contents text := by
  rw [trim, contents_trimEnd, contents_trimStart]

end FilterQuery
