import FilterQuery.Proofs.Lexing
/-!
# The places of lexemes

A query is tiled by its lexemes and the white space around them. So the bytes of
a lexeme are where its place says, they follow those of the lexemes before it,
and the lexemes with the gaps between them make up the query again.
-/

namespace FilterQuery

open Text

/-! ## Cutting by bytes -/

namespace Text

/-- A character has at least one byte. -/
theorem exists_utf8Size_cons (c : Char) (text : Text) :
    ∃ n, c.utf8Size + text.utf8Size = n + 1 ∧ c.utf8Size ≤ n + 1 ∧
      n + 1 - c.utf8Size = text.utf8Size := by
  have hpos := c.utf8Size_pos
  exact ⟨c.utf8Size + text.utf8Size - 1, by omega, by omega, by omega⟩

theorem utf8Size_pos {text : Text} (h : text ≠ []) : 0 < text.utf8Size := by
  cases text with
  | nil => exact absurd rfl h
  | cons c text =>
      obtain ⟨n, hsize, -, -⟩ := exists_utf8Size_cons c text
      rw [utf8Size_cons, hsize]
      exact n.succ_pos

theorem dropBytes?_utf8Size_append (left right : Text) :
    dropBytes? left.utf8Size (left ++ right) = some right := by
  induction left with
  | nil => simp [dropBytes?]
  | cons c left ih =>
      obtain ⟨n, hsize, hle, hrest⟩ := exists_utf8Size_cons c left
      rw [utf8Size_cons, hsize, List.cons_append, dropBytes?, if_pos hle, hrest, ih]

theorem takeBytes?_utf8Size_append (left right : Text) :
    takeBytes? left.utf8Size (left ++ right) = some left := by
  induction left with
  | nil => simp [takeBytes?]
  | cons c left ih =>
      obtain ⟨n, hsize, hle, hrest⟩ := exists_utf8Size_cons c left
      rw [utf8Size_cons, hsize, List.cons_append, takeBytes?, if_pos hle, hrest, ih,
        Option.map_some]

/-- What stands between two parts of a text is found at its bytes. -/
theorem slice?_append (before part after : Text) :
    slice? (before ++ part ++ after) before.utf8Size (before.utf8Size + part.utf8Size) =
      some part := by
  rw [slice?, List.append_assoc, dropBytes?_utf8Size_append, Nat.add_sub_cancel_left]
  exact takeBytes?_utf8Size_append part after

/-- Gaps and parts in turn, the gap first; what is left over of the one or the
other comes last. -/
def interleave : (gaps parts : List Text) → Text
  | gap :: gaps, part :: parts => gap ++ part ++ interleave gaps parts
  | gaps, [] => gaps.flatten
  | [], parts => parts.flatten

end Text

/-! ## Tilings -/

/-- The text begins with a character, and that is not white space. -/
def StartsVisible (text : Text) : Prop := ∃ c ∈ text.head?, isBlank c = false

theorem StartsVisible.ne_nil {text : Text} (h : StartsVisible text) : text ≠ [] := by
  rintro rfl
  obtain ⟨c, hc, -⟩ := h
  simp at hc

/-- The lexemes lie one after the other in a text that has `offset` bytes before
it, and what lies between them is white space. -/
inductive IsTiling : (offset : Nat) → Text → List Lexeme → Prop
  | gap {offset : Nat} {text : Text} : text.allBlank = true → IsTiling offset text []
  | lexeme {offset : Nat} {gap after : Text} {l : Lexeme} {rest : List Lexeme} :
      gap.allBlank = true → StartsVisible l.text → l.start = offset + gap.utf8Size →
        IsTiling l.stop after rest → IsTiling offset (gap ++ l.text ++ after) (l :: rest)

theorem IsTiling.blank_cons {offset : Nat} {c : Char} {text : Text} {lexemes : List Lexeme}
    (hblank : isBlank c = true) (h : IsTiling (offset + c.utf8Size) text lexemes) :
    IsTiling offset (c :: text) lexemes := by
  have hgap : ∀ gap : Text, gap.allBlank = true → allBlank (c :: gap) = true := by
    intro gap hgap
    rw [allBlank, List.all_cons, hblank]
    exact hgap
  cases h with
  | gap htext => exact .gap (hgap _ htext)
  | @lexeme _ gap after l rest hgap' hvisible hstart hrest =>
      exact .lexeme (hgap gap hgap') hvisible (by rw [hstart, utf8Size_cons, Nat.add_assoc]) hrest

theorem startsVisible_readLexeme {c : Char} (hblank : isBlank c = false) (rest : Text) :
    StartsVisible (readLexeme c rest).text := by
  obtain ⟨text, htext⟩ := exists_readLexeme_text_eq_cons c rest
  rw [htext]
  exact ⟨c, rfl, hblank⟩

/-- Lexemes tile the text they are read from. The induction is along the
lexemes, and a blank character lengthens the gap that follows it. -/
theorem isTiling_lexFrom (offset : Nat) (text : Text) :
    IsTiling offset text (lexFrom offset text) := by
  induction text using lexInduction generalizing offset with
  | nil =>
      rw [lexFrom_of_allBlank rfl]
      exact .gap rfl
  | blank c rest hblank ih =>
      rw [lexFrom_blank_cons hblank]
      exact (ih (offset + c.utf8Size)).blank_cons hblank
  | lexeme c rest hblank ih =>
      have htiling := @IsTiling.lexeme offset [] (readLexeme c rest).after
        ⟨(readLexeme c rest).kind, (readLexeme c rest).text, offset⟩ _ rfl
        (startsVisible_readLexeme hblank rest) rfl (ih (offset + (readLexeme c rest).text.utf8Size))
      rw [List.nil_append, readLexeme_append] at htiling
      rwa [lexFrom_cons hblank]

namespace IsTiling

variable {offset : Nat} {text : Text} {lexemes : List Lexeme} {l : Lexeme}

/-- Where a lexeme stands in the text. -/
theorem exists_append (h : IsTiling offset text lexemes) (hl : l ∈ lexemes) :
    ∃ before after, text = before ++ l.text ++ after ∧ l.start = offset + before.utf8Size := by
  induction h with
  | gap => simp at hl
  | @lexeme offset gap after first rest _ _ hstart _ ih =>
      rcases List.mem_cons.mp hl with rfl | hmem
      · exact ⟨gap, after, rfl, hstart⟩
      · obtain ⟨before, behind, rfl, hplace⟩ := ih hmem
        refine ⟨gap ++ first.text ++ before, behind, by simp, ?_⟩
        rw [hplace, Lexeme.stop, hstart, utf8Size_append, utf8Size_append]
        omega

theorem startsVisible (h : IsTiling offset text lexemes) (hl : l ∈ lexemes) :
    StartsVisible l.text := by
  induction h with
  | gap => simp at hl
  | lexeme _ hvisible _ _ ih =>
      rcases List.mem_cons.mp hl with rfl | hmem
      · exact hvisible
      · exact ih hmem

theorem offset_le_start (h : IsTiling offset text lexemes) (hl : l ∈ lexemes) :
    offset ≤ l.start := by
  obtain ⟨before, -, -, hstart⟩ := h.exists_append hl
  omega

/-- A lexeme ends before the ones after it begin. -/
theorem pairwise_stop_le_start (h : IsTiling offset text lexemes) :
    lexemes.Pairwise fun l m => l.stop ≤ m.start := by
  induction h with
  | gap => exact .nil
  | lexeme _ _ _ hrest ih => exact .cons (fun _ hm => hrest.offset_le_start hm) ih

end IsTiling

/-! ## Lexemes and gaps -/

/-- Where the gaps around lexemes begin and end: the first one begins at
`start`, each one ends where a lexeme begins, and the last one ends at `stop`. -/
def gapBounds (stop : Nat) : (start : Nat) → List Lexeme → List (Nat × Nat)
  | start, [] => [(start, stop)]
  | start, l :: rest => (start, l.start) :: gapBounds stop l.stop rest

/-- The texts before, between and after the lexemes of a query, cut by bytes. -/
def gaps? (query : Text) : Option (List Text) :=
  (gapBounds query.utf8Size 0 (lex query)).mapM fun bounds => query.slice? bounds.1 bounds.2

/-- The gaps of a tiling are white space, and with the lexemes they make up the
text. The text before it is there because bytes are counted from the front. -/
theorem IsTiling.exists_gaps {offset : Nat} {text : Text} {lexemes : List Lexeme}
    (h : IsTiling offset text lexemes) {before : Text} (hbefore : before.utf8Size = offset) :
    ∃ gaps, ((gapBounds (before ++ text).utf8Size offset lexemes).mapM
        fun bounds => (before ++ text).slice? bounds.1 bounds.2) = some gaps ∧
      (∀ gap ∈ gaps, gap.allBlank = true) ∧
      interleave gaps (lexemes.map Lexeme.text) = text := by
  induction h generalizing before with
  | @gap offset text hblank =>
      have hslice := slice?_append before text []
      rw [List.append_nil, hbefore] at hslice
      refine ⟨[text], ?_, List.forall_mem_singleton.mpr hblank, by simp [interleave]⟩
      rw [utf8Size_append, hbefore, gapBounds, List.mapM_cons, hslice]
      rfl
  | @lexeme offset gap after l rest hblank _ hstart _ ih =>
      have hsplit : before ++ (gap ++ l.text ++ after) = before ++ gap ++ (l.text ++ after) := by
        simp
      have hslice := slice?_append before gap (l.text ++ after)
      rw [← hsplit, hbefore, ← hstart] at hslice
      have hstop : (before ++ gap ++ l.text).utf8Size = l.stop := by
        rw [utf8Size_append, utf8Size_append, hbefore, ← hstart]
        rfl
      obtain ⟨gaps, hgaps, hblanks, htext⟩ := ih hstop
      have hwhole : before ++ gap ++ l.text ++ after = before ++ (gap ++ l.text ++ after) := by
        simp
      rw [hwhole] at hgaps
      refine ⟨gap :: gaps, ?_, List.forall_mem_cons.mpr ⟨hblank, hblanks⟩, ?_⟩
      · rw [gapBounds, List.mapM_cons, hslice, hgaps]
        rfl
      · rw [List.map_cons, interleave, htext]

/-- Each lexeme of a query begins with a character that is not white space and
stands at its bytes of the query, in order and without overlap; the gaps are
white space, and with the lexemes they make up the query. Reading a lexeme
always leaves less to read. -/
theorem lex_tiles (query : Text) :
    (∀ l ∈ lex query, l.start < l.stop ∧ l.stop ≤ query.utf8Size ∧
      query.slice? l.start l.stop = some l.text ∧ ∃ c ∈ l.text.head?, isBlank c = false) ∧
    (lex query).Pairwise (fun l m => l.stop ≤ m.start) ∧
    (∃ gaps, gaps? query = some gaps ∧ (∀ gap ∈ gaps, gap.allBlank = true) ∧
      interleave gaps ((lex query).map Lexeme.text) = query) ∧
    ∀ c rest, (readLexeme c rest).after.length < (c :: rest).length := by
  have htiling : IsTiling 0 query (lex query) := isTiling_lexFrom 0 query
  have hgaps := @IsTiling.exists_gaps _ _ _ htiling [] rfl
  refine ⟨fun l hl => ?_, htiling.pairwise_stop_le_start, hgaps, length_readLexeme_lt⟩
  obtain ⟨before, after, htext, hstart⟩ := htiling.exists_append hl
  rw [Nat.zero_add] at hstart
  have hvisible := htiling.startsVisible hl
  have hpos := utf8Size_pos hvisible.ne_nil
  have hsize := congrArg utf8Size htext
  rw [utf8Size_append, utf8Size_append] at hsize
  have hslice := slice?_append before l.text after
  rw [← htext, ← hstart] at hslice
  refine ⟨?_, ?_, hslice, hvisible⟩
  · rw [Lexeme.stop]
    omega
  · rw [Lexeme.stop]
    omega

/-- A double quote that is never closed begins a word, after characters of more
than one byte. -/
theorem slice?_open_quote :
    (⟨.word, "\"ű".toList, 5⟩ : Lexeme) ∈ lex "Név(\"ű ".toList ∧
      slice? "Név(\"ű ".toList 5 8 = some "\"ű".toList := by
  have hmem : (⟨.word, "\"ű".toList, 5⟩ : Lexeme) ∈ lex "Név(\"ű ".toList := by decide +kernel
  exact ⟨hmem, ((lex_tiles _).1 _ hmem).2.2.1⟩

end FilterQuery
