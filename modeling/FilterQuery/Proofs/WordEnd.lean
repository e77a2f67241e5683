import FilterQuery.Proofs.Dangling
/-!
# Texts that end in a word

Of a text with every quoted string closed in it, what is written behind can only
change the last lexeme, and only if that is a word with no white space behind
it: then any character of a word that follows makes another lexeme of it. Behind
a quoted string, a connective, a parenthesis or white space the lexemes are read
anew.
-/

namespace FilterQuery

open Text

/-- The last lexeme is a word, and no white space stands behind it. -/
structure EndsInWord (text : Text) : Prop where
  last_word : ∃ content ∈ (contents text).getLast?, content.1 = .word
  last_visible : ∀ c ∈ text.getLast?, isBlank c = false

instance : DecidablePred EndsInWord := fun text =>
  decidable_of_iff
    (((contents text).getLast?.any fun content => content.1 == .word) = true ∧
      (text.getLast?.any isBlank) = false)
    ⟨fun ⟨hword, hvisible⟩ => ⟨by simpa [Option.any_eq_true] using hword, fun c hc => by
        simpa [Option.mem_def.mp hc] using hvisible⟩,
      fun h => ⟨by simpa [Option.any_eq_true] using h.last_word, by
        cases hlast : text.getLast? with
        | none => rfl
        | some c => exact h.last_visible c hlast⟩⟩

theorem EndsInWord.ne_nil {text : Text} (h : EndsInWord text) : text ≠ [] := by
  rintro rfl
  obtain ⟨content, hlast, -⟩ := h.last_word
  simp at hlast

/-- Whether a text ends in a word is seen from an end of it whose lexemes are
the last ones. -/
theorem endsInWord_append {left right : Text} {read : List Content} (hne : right ≠ [])
    (h : contents (left ++ right) = read ++ contents right) :
    EndsInWord (left ++ right) ↔ EndsInWord right := by
  have hlast : (left ++ right).getLast? = right.getLast? := List.getLast?_append_of_ne_nil left hne
  have hcontents : contents right ≠ [] → (contents (left ++ right)).getLast? =
      (contents right).getLast? := by
    intro hread
    rw [h, List.getLast?_append_of_ne_nil read hread]
  constructor
  · rintro ⟨hword, hvisible⟩
    rw [hlast] at hvisible
    have hread : contents right ≠ [] := by
      -- A blank text has a blank character at its end.
      intro hnil
      have hblank := allBlank_iff.mp (contents_eq_nil_iff.mp hnil) _ (List.getLast_mem hne)
      rw [hvisible _ (List.getLast?_eq_some_getLast hne)] at hblank
      cases hblank
    exact ⟨by rwa [← hcontents hread], hvisible⟩
  · rintro ⟨hword, hvisible⟩
    have hread : contents right ≠ [] := by
      intro hnil
      simp [hnil] at hword
    exact ⟨by rwa [hcontents hread], by rwa [hlast]⟩

/-- A text with a space or a parenthesis at its end does not end in a word. -/
theorem not_endsInWord_of_getLast? {text : Text} (h : ∀ c ∈ text.getLast?, isWordChar c = false) :
    ¬ EndsInWord text := by
  -- The last lexeme is where the text ends, and it has only characters of words in it.
  intro hends
  obtain ⟨content, hcontent, hkind⟩ := hends.last_word
  obtain ⟨read, hread⟩ := List.getLast?_eq_some_iff.mp hcontent
  have hmem : content ∈ contents text := by simp [hread]
  obtain ⟨init, htrim, -⟩ := exists_trimEnd_eq_append hread
  rw [trimEnd_eq_self hends.last_visible] at htrim
  have hchars : ∀ c ∈ content.2, isWordChar c = true := by
    cases isLexical_of_mem_contents hmem with
    | quoted | paren | connective => cases hkind
    | word _ hchars _ => exact hchars
  obtain ⟨c, hc⟩ := Option.ne_none_iff_exists'.mp
    (mt List.getLast?_eq_none_iff.mp (ne_nil_of_mem_contents hmem))
  have hlast : text.getLast? = some c := by
    rw [htrim, List.getLast?_append_of_ne_nil init (ne_nil_of_mem_contents hmem), hc]
  have hword := hchars c (List.mem_of_getLast? hc)
  rw [h c hlast] at hword
  cases hword

theorem not_endsInWord_concat {c : Char} (hc : isWordChar c = false) (text : Text) :
    ¬ EndsInWord (text ++ [c]) := by
  refine not_endsInWord_of_getLast? fun d hd => ?_
  rw [List.getLast?_concat] at hd
  obtain rfl := Option.some.inj hd
  exact hc

/-! ## Along the lexemes -/

theorem endsInWord_blank_cons {c : Char} (hblank : isBlank c = true) {rest : Text}
    (hne : rest ≠ []) : EndsInWord (c :: rest) ↔ EndsInWord rest := by
  have hcontents : contents ([c] ++ rest) = [] ++ contents rest := contents_blank_cons hblank rest
  exact endsInWord_append hne hcontents

/-- A text that goes on behind its first lexeme ends in a word if what follows
does. -/
theorem endsInWord_iff_after {c : Char} {rest : Text} (hblank : isBlank c = false)
    (hafter : (readLexeme c rest).after ≠ []) :
    EndsInWord (c :: rest) ↔ EndsInWord (readLexeme c rest).after := by
  have happend := readLexeme_append c rest
  have hcontents : contents ((readLexeme c rest).text ++ (readLexeme c rest).after) =
      [((readLexeme c rest).kind, (readLexeme c rest).text)] ++
        contents (readLexeme c rest).after := by
    rw [happend]
    exact contents_cons hblank rest
  have hends := endsInWord_append hafter hcontents
  rwa [happend] at hends

/-- A text that is all one lexeme ends in a word if that is one. -/
theorem endsInWord_iff_kind {c : Char} {rest : Text} (hblank : isBlank c = false)
    (hafter : (readLexeme c rest).after = []) :
    EndsInWord (c :: rest) ↔ (readLexeme c rest).kind = .word := by
  have hcontents : contents (c :: rest) =
      [((readLexeme c rest).kind, (readLexeme c rest).text)] := by
    rw [contents_cons hblank, hafter, contents_nil]
  have htext : (readLexeme c rest).text = c :: rest := by
    rw [← readLexeme_append c rest, hafter, List.append_nil]
  constructor
  · rintro ⟨⟨content, hlast, hkind⟩, -⟩
    rw [hcontents] at hlast
    obtain rfl := Option.some.inj hlast
    exact hkind
  · intro hkind
    refine ⟨⟨((readLexeme c rest).kind, (readLexeme c rest).text), by simp [hcontents], hkind⟩, ?_⟩
    rw [← htext, ← trimEnd_readLexeme hblank]
    exact getLast?_trimEnd

/-! ## Behind a text -/

/-- A word that ends before the text does ends there whatever follows. -/
theorem span_append_of_dropWhile_ne {rest : Text} (h : rest.dropWhile isWordChar ≠ [])
    (right : Text) :
    (rest ++ right).takeWhile isWordChar = rest.takeWhile isWordChar ∧
      (rest ++ right).dropWhile isWordChar = rest.dropWhile isWordChar ++ right := by
  have hhead : ∀ d ∈ (rest.dropWhile isWordChar ++ right).head?, isWordChar d = false := by
    intro d hd
    rw [List.head?_append_of_ne_nil _ h] at hd
    exact isWordChar_of_mem_head?_dropWhile hd
  have hword : ∀ d ∈ rest.takeWhile isWordChar, isWordChar d = true :=
    fun d hd => List.mem_takeWhile_imp hd
  have hspan := span_append_of_stop hword hhead
  rwa [← List.append_assoc, List.takeWhile_append_dropWhile] at hspan

/-- A lexeme that is not a word at the end of a text is not changed by what
follows. -/
theorem readLexeme_append_of_after {c : Char} {rest : Text} (hblank : isBlank c = false)
    (hquote : c = '"' → closeQuote? false rest ≠ none)
    (hafter : (readLexeme c rest).kind = .word → (readLexeme c rest).after ≠ []) (right : Text) :
    readLexeme c (rest ++ right) =
      ⟨(readLexeme c rest).kind, (readLexeme c rest).text,
        (readLexeme c rest).after ++ right⟩ := by
  have hreads := readsTo_readLexeme c rest
  generalize readLexeme c rest = reading at hreads hafter
  cases hreads with
  | quoted hclose => exact ReadsTo.eq (.quoted (closeQuote?_append hclose right))
  | paren p => exact ReadsTo.eq (.paren p)
  | connective j heq =>
      refine ReadsTo.eq (.connective j ?_)
      rw [← List.cons_append, heq, List.append_assoc]
  | word hnone hparen hjoiner =>
      have hdrop : rest.dropWhile isWordChar ≠ [] := hafter rfl
      have hspan := span_append_of_dropWhile_ne hdrop right
      -- The word and what ends it are long enough for a connective to be seen in them.
      have hlength : ∀ j : Connective, j.literal.length ≤ (c :: rest).length := by
        have hrest : rest ≠ [] := by
          rintro rfl
          exact hdrop rfl
        have hpos := List.length_pos_iff.mpr hrest
        intro j
        cases j <;> simp only [Connective.literal, List.length_cons, List.length_nil] <;> omega
      rw [ReadsTo.eq (.word (fun h => absurd (hnone h) (hquote h)) hparen fun j hbegins => ?_)]
      · simp only [readWord, hspan.1, hspan.2]
      · exact hjoiner j (List.prefix_of_prefix_length_le hbegins
          (List.prefix_append (c :: rest) right) (hlength j))

/-- A word at the end of a text is another lexeme with a character of a word
behind it. -/
theorem readLexeme_text_ne {c : Char} {rest right : Text}
    (hquote : c = '"' → closeQuote? false rest ≠ none)
    (hkind : (readLexeme c rest).kind = .word) (hafter : (readLexeme c rest).after = [])
    (hright : ∃ d ∈ right.head?, isWordChar d = true) :
    (readLexeme c (rest ++ right)).text ≠ c :: rest := by
  have hreads := readsTo_readLexeme c rest
  generalize readLexeme c rest = reading at hreads hkind hafter
  cases hreads with
  | quoted | paren | connective => cases hkind
  | word hnone hparen hjoiner =>
      have hnoquote : c ≠ '"' := fun heq => hquote heq (hnone heq)
      have hlonger := readsTo_readLexeme c (rest ++ right)
      generalize readLexeme c (rest ++ right) = longer at hlonger
      intro htext
      cases hlonger with
      | quoted => exact hnoquote rfl
      | paren p => exact hparen p rfl
      | connective j =>
          have hliteral : j.literal = c :: rest := htext
          exact hjoiner j (hliteral ▸ List.prefix_rfl)
      | word =>
          have hchars : ∀ d ∈ rest, isWordChar d = true := List.dropWhile_eq_nil_iff.mp hafter
          have htake : (rest ++ right).takeWhile isWordChar = rest := (List.cons.inj htext).2
          obtain ⟨d, hd, hword⟩ := hright
          obtain ⟨more, rfl⟩ := List.head?_eq_some_iff.mp hd
          rw [List.takeWhile_append_of_pos hchars, List.takeWhile_cons_of_pos hword] at htake
          simp at htake

/-! ## Texts in a row -/

/-- Behind a text that does not end in a word the lexemes are read anew. -/
theorem contents_append_of_not_endsInWord {left : Text} (hclosed : QuotesClosed left)
    (hends : ¬ EndsInWord left) (right : Text) :
    contents (left ++ right) = contents left ++ contents right := by
  induction left using lexInduction with
  | nil => simp
  | blank c rest hblank ih =>
      have hends' : ¬ EndsInWord rest :=
        fun hrest => hends ((endsInWord_blank_cons hblank hrest.ne_nil).mpr hrest)
      rw [List.cons_append, contents_blank_cons hblank, contents_blank_cons hblank,
        ih (hclosed.of_blank_cons hblank) hends']
  | lexeme c rest hblank ih =>
      have hquote : c = '"' → closeQuote? false rest ≠ none := by
        rintro rfl
        exact hclosed.closeQuote?_ne_none
      have hafter : (readLexeme c rest).kind = .word → (readLexeme c rest).after ≠ [] :=
        fun hkind hnil => hends ((endsInWord_iff_kind hblank hnil).mpr hkind)
      have hends' : ¬ EndsInWord (readLexeme c rest).after :=
        fun hrest => hends ((endsInWord_iff_after hblank hrest.ne_nil).mpr hrest)
      rw [List.cons_append, contents_cons hblank, contents_cons hblank,
        readLexeme_append_of_after hblank hquote hafter, ih (hclosed.after hblank) hends']
      rfl

theorem QuotesClosed.append_of_not_endsInWord {left right : Text} (hleft : QuotesClosed left)
    (hends : ¬ EndsInWord left) (hright : QuotesClosed right) : QuotesClosed (left ++ right) := by
  rw [QuotesClosed, contents_append_of_not_endsInWord hleft hends]
  exact List.forall_mem_append.mpr ⟨hleft, hright⟩

/-- A text that ends in a word loses that lexeme to a character of a word behind
it. -/
theorem lexemeTexts_append_ne {left right : Text} (hclosed : QuotesClosed left)
    (hends : EndsInWord left) (hright : ∃ d ∈ right.head?, isWordChar d = true)
    (more : List Text) : lexemeTexts (left ++ right) ≠ lexemeTexts left ++ more := by
  induction left using lexInduction with
  | nil => exact absurd rfl hends.ne_nil
  | blank c rest hblank ih =>
      have hne : rest ≠ [] := by
        rintro rfl
        have hvisible := hends.last_visible c rfl
        rw [hblank] at hvisible
        cases hvisible
      have hrest := ih (hclosed.of_blank_cons hblank) ((endsInWord_blank_cons hblank hne).mp hends)
      simpa only [lexemeTexts, List.cons_append, contents_blank_cons hblank] using hrest
  | lexeme c rest hblank ih =>
      have hquote : c = '"' → closeQuote? false rest ≠ none := by
        rintro rfl
        exact hclosed.closeQuote?_ne_none
      simp only [lexemeTexts, List.cons_append, contents_cons hblank, List.map_cons]
      intro htexts
      obtain ⟨hfirst, hothers⟩ := List.cons.inj htexts
      by_cases hafter : (readLexeme c rest).after = []
      · have hkind := (endsInWord_iff_kind hblank hafter).mp hends
        have hwhole := readLexeme_append c rest
        rw [hafter, List.append_nil] at hwhole
        exact readLexeme_text_ne hquote hkind hafter hright (hfirst.trans hwhole)
      · have hends' := (endsInWord_iff_after hblank hafter).mp hends
        rw [readLexeme_append_of_after hblank hquote fun _ => hafter] at hothers
        exact ih (hclosed.after hblank) hends' hothers

/-- A text with a character of a word at its front leaves the lexemes of the text
before it if and only if that one does not end in a word. -/
theorem lexemeTexts_append_iff {left right : Text} (hclosed : QuotesClosed left)
    (hright : ∃ d ∈ right.head?, isWordChar d = true) :
    lexemeTexts (left ++ right) = lexemeTexts left ++ lexemeTexts right ↔ ¬ EndsInWord left := by
  refine ⟨fun htexts hends => lexemeTexts_append_ne hclosed hends hright _ htexts, fun hends => ?_⟩
  rw [lexemeTexts, contents_append_of_not_endsInWord hclosed hends, List.map_append]
  rfl

end FilterQuery
