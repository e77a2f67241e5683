import FilterQuery.Proofs.Balanced
/-!
# Appending a query to a query

A well-formed fragment that is joined to what a balanced program has built makes
a well-formed query, unless the fragment ends with a connective: that can only
be the value of a condition, and it is dropped when the query is finished. A
value that merely ends like a connective is cut short, and any value will do.
-/

namespace FilterQuery

open Text

/-! ## Queries in parts -/

/-- The place of a lexeme does not matter in a phrase. -/
theorem IsPhrase.congr {phrase : Phrase} {lexemes other : List Lexeme}
    (h : IsPhrase phrase lexemes) (heq : other.map Lexeme.content = lexemes.map Lexeme.content) :
    IsPhrase phrase other := by
  induction h generalizing other with
  | alone _ ih => exact .alone (ih heq)
  | @joined first rest joiner c _ hjoiner _ ihfirst ihrest =>
      rw [List.map_append, List.map_cons] at heq
      obtain ⟨left, right, rfl, hleft, hright⟩ := List.map_eq_append_iff.mp heq
      obtain ⟨l, after, rfl, hl, hafter⟩ := List.map_eq_cons_iff.mp hright
      have hkind : l.kind = .connective c := (congrArg Prod.fst hl).trans hjoiner
      exact .joined c (ihfirst hleft) hkind (ihrest hafter)
  | @group left right inside hleft _ hright ih =>
      rw [List.cons_append, List.map_cons, List.map_append, List.map_singleton] at heq
      obtain ⟨l, tail, rfl, hl, htail⟩ := List.map_eq_cons_iff.mp heq
      obtain ⟨body, back, rfl, hbody, hback⟩ := List.map_eq_append_iff.mp htail
      obtain ⟨r, rfl, hr⟩ := List.map_eq_singleton_iff.mp hback
      have hopen : l.kind = .paren .opening := (congrArg Prod.fst hl).trans hleft
      have hclose : r.kind = .paren .closing := (congrArg Prod.fst hr).trans hright
      exact .group hopen (ih hbody) hclose
  | @condition property operator value hcondition =>
      obtain ⟨p, tail, rfl, hp, htail⟩ := List.map_eq_cons_iff.mp heq
      obtain ⟨o, tail, rfl, ho, htail⟩ := List.map_eq_cons_iff.mp htail
      obtain ⟨v, rfl, -⟩ := List.map_eq_singleton_iff.mp htail
      refine .condition ⟨?_, ?_⟩
      · rw [show p.kind = property.kind from congrArg Prod.fst hp]
        exact hcondition.1
      · rw [show o.text = operator.text from congrArg Prod.snd ho]
        exact hcondition.2

/-- After a query and a connective, what follows decides. -/
theorem IsQuery.join_iff {first rest : List Lexeme} {joiner : Lexeme} {c : Connective}
    (hfirst : IsQuery first) (hjoiner : joiner.kind = .connective c) :
    IsQuery (first ++ joiner :: rest) ↔ IsQuery rest := by
  rw [← lexemeProblems_eq_nil_iff, ← lexemeProblems_eq_nil_iff, lexemeProblems, lexemeProblems,
    walk_phrase hfirst, walk_joiner hjoiner, walk_eq_nil_iff, walk_eq_nil_iff]

/-- A query is no query any more with one more lexeme after it. -/
theorem IsQuery.not_concat {lexemes : List Lexeme} {last : Lexeme} (h : IsQuery lexemes) :
    ¬ IsQuery (lexemes ++ [last]) := by
  intro hlonger
  rw [← lexemeProblems_eq_nil_iff, lexemeProblems, walk_phrase h] at hlonger
  cases hkind : last.kind with
  | quoted => simp [walk, hkind] at hlonger
  | word => simp [walk, hkind] at hlonger
  | paren side => cases side <;> simp [walk, hkind] at hlonger
  | connective c => simp [walk, hkind, stopBeforeCondition] at hlonger

/-- A phrase ends with a closing parenthesis or with a value, which stands after
an operator; another lexeme of that kind may stand in its place. -/
theorem IsPhrase.exists_last {phrase : Phrase} {lexemes : List Lexeme}
    (h : IsPhrase phrase lexemes) :
    ∃ init last, lexemes = init ++ [last] ∧
      (∀ other, other.kind = last.kind → IsPhrase phrase (init ++ [other])) ∧
      (last.kind = .paren .closing ∨ ∃ before operator, init = before ++ [operator] ∧
        ∃ o : Operator, operator.text = o.literal) := by
  induction h with
  | alone _ ih =>
      obtain ⟨init, last, rfl, hother, hlast⟩ := ih
      exact ⟨init, last, rfl, fun other hkind => .alone (hother other hkind), hlast⟩
  | @joined first rest joiner c hfirst hjoiner _ _ ih =>
      obtain ⟨init, last, rfl, hother, hlast⟩ := ih
      refine ⟨first ++ joiner :: init, last, by simp, fun other hkind => ?_, hlast.imp_right ?_⟩
      · rw [List.append_assoc, List.cons_append]
        exact .joined c hfirst hjoiner (hother other hkind)
      · rintro ⟨before, operator, rfl, hoperator⟩
        exact ⟨first ++ joiner :: before, operator, by simp, hoperator⟩
  | @group left right inside hleft hinside hright _ =>
      refine ⟨left :: inside, right, rfl, fun other hkind => ?_, .inl hright⟩
      exact .group hleft hinside (hkind.trans hright)
  | @condition property operator value hcondition =>
      refine ⟨[property, operator], value, rfl, fun other _ => .condition hcondition, .inr ?_⟩
      exact ⟨[property], operator, rfl, hcondition.2⟩

/-! ## Finishing after a word -/

theorem Connective.exists_literal_eq (j : Connective) : ∃ c, j.literal = [c, c] := by
  cases j with
  | and => exact ⟨'&', rfl⟩
  | or => exact ⟨'|', rfl⟩

theorem IsClear.getLast?_ne {text : Text} (h : IsClear text) {j : Connective} {c : Char}
    (hc : c ∈ j.literal) : text.getLast? ≠ some c := by
  intro hlast
  obtain ⟨hand, hor⟩ := h c hlast
  cases j <;> simp_all [Connective.literal]

/-- A connective is not split by a text that does not end like one. -/
theorem IsClear.literal_suffix {first second : Text} {j : Connective} (hfirst : IsClear first)
    (h : j.literal <:+ first ++ second) (hne : second ≠ []) : j.literal <:+ second := by
  obtain ⟨c, hliteral⟩ := j.exists_literal_eq
  have hc : c ∈ j.literal := by simp [hliteral]
  rw [hliteral] at h ⊢
  rcases List.suffix_or_suffix_of_suffix h (List.suffix_append first second) with hwhole | hpart
  · exact hwhole
  rcases List.suffix_cons_iff.mp hpart with rfl | hpart
  · exact List.suffix_rfl
  rcases List.suffix_cons_iff.mp hpart with rfl | hpart
  · -- The first character of the connective would end the first text.
    obtain ⟨before, hbefore⟩ := h
    rw [List.append_cons] at hbefore
    exact absurd (by simp [← List.append_cancel_right hbefore]) (hfirst.getLast?_ne hc)
  · exact absurd (List.suffix_nil.mp hpart) hne

/-- Finishing a text that ends with a word may take connectives off the word,
but not all of it. The induction is on the length of the word. -/
theorem exists_dropDangling_eq_append {init word : Text} (hinit : IsClear init)
    (hword : IsBareword word) :
    ∃ front, front <+: word ∧ front ≠ [] ∧
      (Builder.dropDangling (init ++ word).reverse).reverse = init ++ front := by
  by_cases hends : ∃ j : Connective, j.literal <:+ word
  · obtain ⟨j, shorter, hshorter⟩ := hends
    have hlength : shorter.length < word.length := by
      rw [← hshorter, List.length_append]
      cases j <;> simp [Connective.literal]
    have hbegin : shorter <+: word := ⟨j.literal, hshorter⟩
    have hne : shorter ≠ [] := by
      rintro rfl
      exact hword.no_connective j (hshorter ▸ List.prefix_rfl)
    obtain ⟨front, hfront, hfrontNe, hdrop⟩ :=
      exists_dropDangling_eq_append hinit (hword.of_isPrefix hbegin hne)
    refine ⟨front, hfront.trans hbegin, hfrontNe, ?_⟩
    rw [← hshorter, ← List.append_assoc, List.reverse_append, Builder.reverse_literal,
      Builder.dropDangling_literal_append, hdrop]
  · refine ⟨word, List.prefix_rfl, hword.ne_nil, ?_⟩
    rw [Builder.dropDangling_eq_self, List.reverse_reverse]
    · -- A word does not end with white space.
      intro c hc
      rw [Option.mem_def, List.head?_reverse, List.getLast?_append_of_ne_nil _ hword.ne_nil] at hc
      exact isBlank_of_isWordChar (hword.isWordChar c (List.mem_of_mem_getLast? hc))
    · intro j hj
      have hsuffix : j.literal <:+ init ++ word := by
        rwa [← List.reverse_prefix, Builder.reverse_literal]
      exact hends ⟨j, hinit.literal_suffix hsuffix hword.ne_nil⟩
termination_by word.length

theorem IsClear.of_trimEnd {text : Text} (h : IsClear text.trimEnd) : IsClear text := by
  obtain ⟨gap, hgap, htext⟩ := exists_trimEnd_append text
  intro c hc
  rw [htext] at hc
  cases gap using List.reverseRecOn with
  | nil => exact h c (by simpa using hc)
  | append_singleton gap d =>
      rw [← List.append_assoc, Option.mem_def, List.getLast?_concat] at hc
      have hblank : isBlank c = true :=
        allBlank_iff.mp hgap c (by simp [Option.some.inj hc])
      constructor <;> rintro rfl <;> revert hblank <;> decide

/-- A quoted string or a parenthesis does not end like a connective. -/
theorem isClear_of_mem_contents {text : Text} {content : Content} (h : content ∈ contents text)
    (hjoiner : content.1.isConnective = false) (hword : content.1 ≠ .word) :
    IsClear content.2 := by
  cases isLexical_of_mem_contents h with
  | quoted hclose =>
      intro d hd
      simp only [List.getLast?_cons, closeQuote?_getLast? hclose, Option.getD_some] at hd
      obtain rfl := Option.some.inj hd
      decide
  | paren p => exact isClear_concat (by cases p <;> decide) []
  | connective => cases hjoiner
  | word => exact absurd rfl hword

/-- Finishing a text keeps its lexemes if the last one is not a connective: of a
word at the end, which may end like one, something is left. -/
theorem exists_contents_dropDangling {text : Text} {read : List Content} {last : Content}
    (h : contents text = read ++ [last]) (hjoiner : last.1.isConnective = false)
    (hquote : last.1 = .word → last.2.head? ≠ some '"')
    (hread : last.1 = .word → ∀ content ∈ read.getLast?, IsClear content.2) :
    ∃ left, contents (Builder.dropDangling text.reverse).reverse = read ++ [(last.1, left)] := by
  have hmem : last ∈ contents text := by simp [h]
  by_cases hkind : last.1 = .word
  · have hword := isBareword_of_mem_contents hmem hkind (hquote hkind)
    obtain ⟨init, htrim, hfront⟩ := exists_trimEnd_eq_append_last h
    have hinit : contents init = read := by simpa using hfront [] List.nil_prefix
    have hclear : IsClear init := by
      refine .of_trimEnd (isClear_of_contents ?_)
      rw [hinit]
      exact hread hkind
    obtain ⟨front, hbegin, hne, hdrop⟩ := exists_dropDangling_eq_append hclear hword
    refine ⟨front, ?_⟩
    rw [← Builder.dropDangling_reverse_trimEnd, htrim, hdrop, hfront front hbegin,
      (hword.of_isPrefix hbegin hne).contents_eq, hkind]
  · refine ⟨last.2, ?_⟩
    have hlast : ∀ content ∈ (contents text).getLast?, IsClear content.2 := by
      intro content hcontent
      rw [h, List.getLast?_concat] at hcontent
      obtain rfl := Option.some.inj hcontent
      exact isClear_of_mem_contents hmem hjoiner hkind
    rw [dropDangling_of_isClear hlast, contents_trimEnd, h]

/-! ## Where the fragment is written -/

/-- What is checked of a fragment is what is written of it, unless white space
keeps its marker from being taken off. -/
theorem contents_stripMarker_eq_queryBody {fragment : Text}
    (hmarker : marker <+: fragment.trim → marker <+: fragment) :
    contents (stripMarker fragment) = contents (queryBody fragment) := by
  by_cases hbegins : marker <+: fragment
  · obtain ⟨rest, rfl⟩ := hbegins
    rw [stripMarker_marker_append, queryBody_marker_append, contents_trimStart, contents_trim]
  · rw [queryBody, stripMarker_eq_self hbegins, stripMarker_eq_self (mt hmarker hbegins),
      contents_trim]

/-- Only an opening parenthesis ends with one. -/
theorem kind_eq_opening_of_getLast? {text : Text} {content : Content}
    (h : content ∈ contents text) (hlast : content.2.getLast? = some '(') :
    content.1 = .paren .opening := by
  cases isLexical_of_mem_contents h with
  | quoted hclose => simp [List.getLast?_cons, closeQuote?_getLast? hclose] at hlast
  | paren p =>
      cases p with
      | opening => rfl
      | closing => simp [Paren.literal, Paren.char] at hlast
  | connective j => cases j <;> simp [Connective.literal] at hlast
  | word _ hchars _ => exact absurd (hchars '(' (List.mem_of_getLast? hlast)) (by decide)

theorem endsWithOpening_eq_false {text : Text}
    (h : ∀ content ∈ (contents text).getLast?, content.1 ≠ .paren .opening) :
    Builder.endsWithOpening text.trimEnd = false := by
  rw [Builder.endsWithOpening, beq_eq_false_iff_ne]
  intro hlast
  rcases List.eq_nil_or_concat (contents text) with hnil | ⟨read, last, hread⟩
  · simp [trimEnd_eq_nil_iff.mpr (contents_eq_nil_iff.mp hnil)] at hlast
  · rw [List.concat_eq_append] at hread
    have hmem : last ∈ contents text := by simp [hread]
    obtain ⟨init, htrim, -⟩ := exists_trimEnd_eq_append hread
    rw [htrim, List.getLast?_append_of_ne_nil _ (ne_nil_of_mem_contents hmem)] at hlast
    exact h last (by simp [hread]) (kind_eq_opening_of_getLast? hmem hlast)

theorem IsClear.endsWithConnective {text : Text} (h : IsClear text) :
    Builder.endsWithConnective text = false := by
  rw [Builder.endsWithConnective, List.any_eq_false]
  intro j _ hends
  obtain ⟨c, hliteral⟩ := j.exists_literal_eq
  obtain ⟨before, rfl⟩ := List.isSuffixOf_iff_suffix.mp hends
  exact h.getLast?_ne (j := j) (c := c) (by simp [hliteral]) (by simp [hliteral])

namespace Builder

variable {b : Builder} {read : List Content}

theorem contents_body (hled : b.IsLed) (h : contents b.text = b.options.lead ++ read) :
    contents b.body = read :=
  List.append_cancel_left (hled.contents_text.symm.trans h)

/-- After a fragment of a query the connective is written. -/
theorem separated_some (hbody : contents b.body = read) (h : IsFragment read) (c : Connective) :
    b.separated (some c) = b.connective c := by
  rw [← contents_trimStart] at hbody
  have hne : b.body.trim.isEmpty = false := by
    rw [List.isEmpty_eq_false_iff, Ne, trim, trimEnd_eq_nil_iff, ← contents_eq_nil_iff, hbody]
    exact h.ne_nil
  have hopening : endsWithOpening b.body.trim = false :=
    endsWithOpening_eq_false (by rw [hbody]; exact h.closed)
  have hclear : IsClear b.body.trim := isClear_of_contents (by rw [hbody]; exact h.clear)
  have hconnective : endsWithConnective b.body.trim = false := hclear.endsWithConnective
  simp [separated, hne, hopening, hconnective]

/-- The lexemes of a query and of the fragment that is appended to it, with the
connective between them. -/
theorem contents_append_some (hled : b.IsLed) (hpiece : IsPiece b.text (b.options.lead ++ read))
    (hread : IsFragment read) {fragment : Text} (hblank : (stripMarker fragment).allBlank = false)
    (c : Connective) :
    contents (b.append fragment (some c)).text =
      b.options.lead ++ (read ++ (.connective c, c.literal) :: contents (stripMarker fragment)) := by
  have hjoined := isPiece_connective_call hpiece c
  rw [append, if_neg (by simp [hblank]),
    separated_some (contents_body hled hpiece.contents_eq) hread]
  exact (contents_append hjoined.closed (.inl hjoined.ends)).trans (by simp [hjoined.contents_eq])

end Builder

/-- Whether a query after a fragment of one and a connective is well formed
depends on the lexemes of what follows only. -/
theorem IsFragment.isWellFormed_joined_iff {options : Options} {query : Text}
    {read rest : List Content} {c : Connective} {lexemes : List Lexeme} (hread : IsFragment read)
    (h : contents query = options.lead ++ (read ++ (.connective c, c.literal) :: rest))
    (hlexemes : lexemes.map Lexeme.content = rest) :
    FilterQuery.isWellFormed query = true ↔ IsQuery lexemes := by
  have hunmarked : Unmarked (read ++ (.connective c, c.literal) :: rest) := by
    rw [Unmarked, List.head?_append_of_ne_nil _ hread.ne_nil]
    exact hread.unmarked
  have hbody := contents_queryBody h hunmarked
  have hne : (queryBody query).isEmpty = false := by
    rw [List.isEmpty_eq_false_iff]
    intro hnil
    simp [hnil] at hbody
  obtain ⟨left, right, hsplit, hleft, hright⟩ := List.map_eq_append_iff.mp hbody
  obtain ⟨joiner, after, rfl, hjoiner, hafter⟩ := List.map_eq_cons_iff.mp hright
  have hkind : joiner.kind = .connective c := congrArg Prod.fst hjoiner
  rw [FilterQuery.isWellFormed, List.isEmpty_iff, problems, hne, if_neg Bool.false_ne_true,
    lexemeProblems_eq_nil_iff, hsplit, (hread.isQuery left hleft).join_iff hkind]
  exact ⟨fun hquery => hquery.congr (hlexemes.trans hafter.symm),
    fun hquery => hquery.congr (hafter.trans hlexemes.symm)⟩

/-! ## The finished query -/

theorem Operator.isClear_literal (o : Operator) : IsClear o.literal := by
  intro c hc
  cases o <;> obtain rfl := Option.some.inj hc <;> decide

/-- The last value of a query stands after a lexeme that does not end like a
connective and is none. -/
theorem IsQuery.exists_last {lexemes : List Lexeme} (h : IsQuery lexemes)
    {text : Text} (hlexemes : lex text = lexemes) :
    ∃ init last, lexemes = init ++ [last] ∧
      (∀ other, other.kind = last.kind → IsQuery (init ++ [other])) ∧
      (last.kind = .paren .closing ∨ ∃ before operator, init = before ++ [operator] ∧
        operator.kind = .word ∧ IsClear operator.content.2) := by
  obtain ⟨init, last, rfl, hother, hlast⟩ := IsPhrase.exists_last h
  refine ⟨init, last, rfl, hother, hlast.imp_right ?_⟩
  rintro ⟨before, operator, rfl, o, ho⟩
  have hmem : operator ∈ lex text := by simp [hlexemes]
  refine ⟨before, operator, rfl, kind_eq_word_of_text_eq_literal hmem ho, ?_⟩
  rw [Lexeme.content, ho]
  exact o.isClear_literal

/-- What is left of a query with another one after a connective is a query,
unless the other one ends with a connective. -/
theorem IsFragment.isWellFormed_plainQuery_iff {options : Options} {b : Builder}
    {read : List Content} {c : Connective} {body : Text} (hread : IsFragment read)
    (hquery : IsQuery (lex body)) (hclosed : QuotesClosed body)
    (h : contents b.text =
      options.lead ++ (read ++ (.connective c, c.literal) :: contents body)) :
    FilterQuery.isWellFormed b.plainQuery = true ↔
      ∀ l ∈ (lex body).getLast?, l.kind.isConnective = false := by
  obtain ⟨init, last, hlex, hother, hlast⟩ := hquery.exists_last rfl
  have hbody : contents body = init.map Lexeme.content ++ [last.content] := by
    rw [contents, hlex, List.map_append, List.map_singleton]
  have htext : contents b.text =
      (options.lead ++ (read ++ (.connective c, c.literal) :: init.map Lexeme.content)) ++
        [last.content] := by
    rw [h, hbody]
    simp
  rw [hlex, List.getLast?_concat]
  cases hjoiner : last.kind.isConnective with
  | false =>
      -- The last lexeme stays, if only the front of it.
      have hquote : last.content.1 = .word → last.content.2.head? ≠ some '"' :=
        hclosed last.content (by simp [hbody])
      rw [← contents_trimStart] at htext
      obtain ⟨left, hleft⟩ := exists_contents_dropDangling htext hjoiner hquote fun hkind => by
        obtain hparen | ⟨before, operator, rfl, -, hclear⟩ := hlast
        · exact absurd (hkind.symm.trans hparen) (by simp)
        · simpa [List.getLast?_append, List.getLast?_cons] using hclear
      rw [List.append_assoc, List.append_assoc, List.cons_append] at hleft
      have hwell : FilterQuery.isWellFormed b.plainQuery = true := by
        refine (hread.isWellFormed_joined_iff hleft ?_).mpr (hother ⟨last.kind, left, 0⟩ rfl)
        rw [List.map_append, List.map_singleton]
        rfl
      simpa [hjoiner] using hwell
  | true =>
      -- The last lexeme is dropped, and a condition without its value is left.
      obtain hparen | ⟨before, operator, rfl, hword, hclear⟩ := hlast
      · simp [hparen, LexemeKind.isConnective] at hjoiner
      rw [List.map_append, List.map_singleton, ← List.cons_append, ← List.append_assoc,
        ← List.append_assoc] at htext
      have hoperator : operator.content.1.isConnective = false := by
        rw [Lexeme.content, hword]
        rfl
      have hkeep : undangled (contents b.text) =
          options.lead ++ read ++ (.connective c, c.literal) :: before.map Lexeme.content ++
            [operator.content] := by
        rw [htext, undangled_concat_connective hjoiner, undangled_concat hoperator]
      have hends : EndsClear (contents b.text) := by
        rw [EndsClear, hkeep, List.getLast?_concat]
        rintro content ⟨⟩
        exact hclear
      have hplain := Builder.contents_plainQuery_eq_undangled hends
      rw [hkeep, List.append_assoc, List.append_assoc, List.cons_append] at hplain
      have hshort : (before ++ [operator]).map Lexeme.content =
          before.map Lexeme.content ++ [operator.content] := List.map_append
      have hwell := hread.isWellFormed_joined_iff hplain hshort
      have hnot : ¬ IsQuery (before ++ [operator]) := by
        intro hshorter
        rw [hlex] at hquery
        exact hshorter.not_concat hquery
      simp [hwell, hnot, hjoiner]

/-- A well-formed fragment that is appended to what a balanced program has built
makes a well-formed query, unless it ends with a connective. -/
theorem isWellFormed_build_append_iff {options : Options} (hplain : options.encodeUri = false)
    {program : List Call} (hprogram : IsBalanced .query (program.filter fun c => !c.isIdle))
    {fragment : Text} (hfragment : isWellFormed fragment = true)
    (hbody : queryBody fragment ≠ []) (hclosed : QuotesClosed (queryBody fragment))
    (hmarker : marker <+: fragment.trim → marker <+: fragment) (c : Connective) :
    isWellFormed (((Builder.ofOptions options).runAll program).append fragment (some c)).build =
        true ↔
      ∀ l ∈ (lex (queryBody fragment)).getLast?, l.kind.isConnective = false := by
  obtain ⟨read, hread, hwrites⟩ := hprogram.exists_writes
  obtain ⟨hpiece, -⟩ :=
    hwrites.of_filter _ _ (Builder.isPiece_ofOptions options) (Builder.isFlush_ofOptions options)
  have hquery : IsQuery (lex (queryBody fragment)) := isQuery_of_isWellFormed hfragment hbody
  have hincoming := contents_stripMarker_eq_queryBody hmarker
  have hblank : (stripMarker fragment).allBlank = false := by
    obtain ⟨init, last, hlex, -⟩ := hquery.exists_last rfl
    rw [Bool.eq_false_iff, Ne, ← contents_eq_nil_iff, hincoming, contents, hlex]
    simp
  have hcontents := Builder.contents_append_some
    ((Builder.isLed_ofOptions options).edits (Builder.edits_runAll _ program))
    (by rwa [Builder.options_runAll, Builder.options_ofOptions]) hread hblank c
  rw [Builder.options_runAll, Builder.options_ofOptions, hincoming] at hcontents
  have hbuild := Builder.build_runAll hplain (program ++ [.append fragment (some c)])
  rw [Builder.runAll_append] at hbuild
  rw [← hread.isWellFormed_plainQuery_iff hquery hclosed hcontents]
  exact (congrArg (isWellFormed · = true) hbuild).to_iff

/-- Calls without a value and a fragment with its marker, whose last word is cut
short. -/
theorem isWellFormed_build_append_word :
    isWellFormed (((Builder.ofOptions ⟨false, true⟩).runAll
      [.op "A".toList .equals none false, .paren .opening,
        .op "A".toList .equals (some (.string "(&& ".toList)) false, .paren .closing]).append
      "Filters= \t(B == 1) || C == x&&|| ".toList (some .and)).build = true := by
  have hname : IsName "A".toList := by decide
  have hprogram : IsBalanced .query (List.filter (fun c => !c.isIdle)
      [.op "A".toList .equals none false, .paren .opening,
        .op "A".toList .equals (some (.string "(&& ".toList)) false, .paren .closing]) :=
    .alone (.group (.alone (.condition .equals (.string "(&& ".toList) false hname)))
  refine (@isWellFormed_build_append_iff ⟨false, true⟩ rfl _ hprogram _ ?_ ?_ ?_ ?_ .and).mpr ?_
  all_goals decide +kernel

/-- A fragment whose last value is a connective loses it when the query is
finished, and one with white space before its marker keeps the marker. -/
theorem not_isWellFormed_build_append :
    IsBalanced .query [.op "A".toList .equals (some (.integer 1)) false] ∧
    ∀ fragment ∈ ["B == &&".toList, " Filters= B == 1".toList],
      isWellFormed fragment = true ∧ queryBody fragment ≠ [] ∧
      QuotesClosed (queryBody fragment) ∧
      isWellFormed (((Builder.ofOptions ⟨false, false⟩).runAll
        [.op "A".toList .equals (some (.integer 1)) false]).append fragment (some .and)).build =
          false := by
  refine ⟨.alone (.condition .equals (.integer 1) false (by decide)), ?_⟩
  decide +kernel

end FilterQuery
